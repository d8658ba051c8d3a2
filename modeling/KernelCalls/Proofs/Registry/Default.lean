import KernelCalls.Proofs.Registry.Closed
import KernelCalls.Proofs.Registry.Session
import Mathlib.Logic.Relation

namespace KernelCalls

open KernelCalls.Action

/-!
# The default registry

The default registry is made when it is first asked for and replaced by a reset, while the same
registries are also looked up in and closed by their numbers.  What one use does to the registries
is said once, and the two laws of the default follow by going through the uses one by one.

* `Use`, `Workspace.after` : what can be done, and the workspace that it leaves.
* `Pool.Evolves` : registries are made and looked up in, and nobody closes one.
* `Use.Effect`, `Use.effect` : what a use does to the registries.
* `Pool.Tracked`, `Pool.Gone` : the default registry, and one that was the default.
* `Pool.Installed`, `Usable` : a default registry that is open and answers.
* `default_replaced_and_installed` : what becomes of both in every run.
-/

/-! ### Uses -/

/-- The description of a callee in the default registry. -/
def Action.lookupDefault (callee : Callee) : Action CallInfo := do
  lookup (← defaultRegistry) callee

/-- What can be done with the registries of a process. -/
inductive Use where
  | ask (q : Request)
  /-- A lookup in the default registry. -/
  | lookup (callee : Callee)

namespace Use

/-- Does it. -/
def perform : Use → Action Unit
  | .ask q => q.perform
  | .lookup callee => (lookupDefault callee).only

/-- Several symbols are not looked up at once in the registry with a number. -/
def Rests (id : Nat) : Use → Prop
  | .ask (.lookupTogether i _ _) => i ≠ id
  | _ => True

/-- Besides, the registry is not closed, and no other default is installed. -/
def Spares (id : Nat) : Use → Prop
  | .ask (.lookupTogether i _ _) | .ask (.close i) => i ≠ id
  | .ask (.resetDefault _) => False
  | _ => True

end Use

/-- A use that spares a registry does not ask it several things at once. -/
theorem Use.Spares.rests {u : Use} {id : Nat} (h : u.Spares id) : u.Rests id := by
  unfold Rests
  split
  · exact h
  · trivial

/-- The workspace after uses one after the other, whether they fail or not. -/
def Workspace.after (w : Workspace) (uses : List Use) : Workspace :=
  uses.foldl (fun w u => (runOn u.perform w).2) w

/-! ### Registries that are looked up in -/

namespace Registry

/-- What happens to a registry when it is looked up in or its pipeline is run. -/
inductive Serves : Registry → Registry → Prop
  | lookup (r : Registry) (build : Build) (s : Text) : Serves r (r.lookup build s).2
  | start (r : Registry) : Serves r r.startBuild

/-- No work is under way, and the pipeline does not close the registry. -/
structure Resting (r : Registry) : Prop where
  lasting : r.closesItself = false
  idle : r.pending = []

/-- A fresh registry is at rest. -/
theorem resting_ofCatalog (id : Nat) (c : Catalog) (widths : List Int) :
    (ofCatalog id c widths).Resting := ⟨rfl, rfl⟩

variable {r r' : Registry}

/-- A closed registry keeps nothing, whatever is asked of it. -/
theorem Emptied.serves (h : r.Emptied) (hserves : r.Serves r') : r'.Emptied := by
  cases hserves with
  | lookup build s =>
    rw [h.lookup_eq]
    exact h
  | start =>
    rw [h.startBuild_eq]
    exact h

/-- The pipeline of a registry at rest starts without closing it. -/
theorem Resting.startBuild_eq (h : r.Resting) : r.startBuild = r := by
  rw [startBuild, h.lasting]
  rfl

/-- A lookup in a registry at rest leaves it at rest and does not close it. -/
theorem Resting.lookup (h : r.Resting) (build : Build) (s : Text) :
    (r.lookup build s).2.Resting ∧ (r.lookup build s).2.closed = r.closed := by
  -- what is kept is answered at once; a closed registry refuses; an open one runs its pipeline
  cases hkept : Table.find? s r.cache with
  | some info =>
    rw [Registry.lookup, hkept]
    exact ⟨h, rfl⟩
  | none =>
    cases hclosed : r.closed with
    | true =>
      have hrefused : r.lookup build s = (.error .closed, r) := by
        simp [Registry.lookup, claim, hkept, hclosed]
      rw [hrefused]
      exact ⟨h, hclosed⟩
    | false =>
      rw [lookup_of_idle hclosed h.lasting h.idle hkept]
      cases build s with
      | error f => exact ⟨⟨h.lasting, h.idle⟩, hclosed⟩
      | ok result =>
        dsimp only [publish]
        simp only [hclosed, Bool.false_eq_true, if_false]
        exact ⟨⟨h.lasting, h.idle⟩, trivial⟩

/-- What is asked of a registry at rest leaves it at rest and does not close it. -/
theorem Resting.serves (h : r.Resting) (hserves : r.Serves r') :
    r'.Resting ∧ r'.closed = r.closed := by
  cases hserves with
  | lookup build s => exact h.lookup build s
  | start =>
    rw [h.startBuild_eq]
    exact ⟨h, rfl⟩

/-- A closed registry keeps nothing after many lookups either. -/
theorem Emptied.serves_all (h : r.Emptied) (hserves : Relation.ReflTransGen Serves r r') :
    r'.Emptied := by
  induction hserves with
  | refl => exact h
  | tail _ hserves ih => exact ih.serves hserves

/-- Many lookups leave a registry at rest as well, and do not close it. -/
theorem Resting.serves_all (h : r.Resting) (hserves : Relation.ReflTransGen Serves r r') :
    r'.Resting ∧ r'.closed = r.closed := by
  induction hserves with
  | refl => exact ⟨h, rfl⟩
  | tail _ hserves ih =>
    obtain ⟨hresting, hclosed⟩ := ih.1.serves hserves
    exact ⟨hresting, hclosed.trans ih.2⟩

/-- A lookup in an open registry at rest is answered, unless the pipeline meets a fault. -/
theorem Resting.exists_fault (h : r.Resting) (hopen : r.closed = false) {build : Build} {s : Text}
    {e : LookupError} (he : (r.lookup build s).1 = .error e) : ∃ f, e = .fault f := by
  cases hkept : Table.find? s r.cache with
  | some info =>
    rw [Registry.lookup, hkept] at he
    cases he
  | none =>
    rw [lookup_of_idle hopen h.lasting h.idle hkept] at he
    cases hbuild : build s with
    | error f =>
      rw [hbuild] at he
      cases he
      exact ⟨f, rfl⟩
    | ok result =>
      rw [hbuild] at he
      cases he

/-- Lookups all at once keep nothing in a registry that is closed and keeps nothing. -/
theorem Emptied.lookupTogether (h : r.Emptied) (build : Build) (symbols : List Text)
    (threads : Nat) : (r.lookupTogether build symbols threads).2.Emptied := by
  -- in every round each lookup takes a turn, which is a list of moves
  have hrounds : ∀ rounds (m : Machine), m.registry.Emptied →
      (m.runRounds build rounds).registry.Emptied := by
    intro rounds
    induction rounds with
    | zero => exact fun m hm => hm
    | succ rounds ih =>
      intro m hm
      refine ih _ ?_
      have hround := (Machine.emptied_moves hm
        ((List.range m.tasks.length).map fun i => Move.step i build)).1
      rwa [List.foldl_map] at hround
  exact hrounds _ _ h

end Registry

/-! ### Pools in use -/

namespace Pool

open Relation

variable {p p' p'' : Pool}

/-- Registries are made and looked up in, none is closed, and a default registry stays the
    default. -/
structure Evolves (p p' : Pool) : Prop where
  kept : ∀ id r, p.get? id = some r →
    ∃ r', p'.get? id = some r' ∧ ReflTransGen Registry.Serves r r'
  made : ∀ id r', p.get? id = none → p'.get? id = some r' →
    ∃ cid c widths, ReflTransGen Registry.Serves (.ofCatalog cid c widths) r'
  default : ∀ id, p.default? = some id → p'.default? = some id

/-- Nothing at all may happen to a pool. -/
theorem Evolves.refl (p : Pool) : Evolves p p where
  kept _ r hr := ⟨r, hr, .refl⟩
  made _ _ hnone hr := by
    rw [hnone] at hr
    cases hr
  default _ := id

/-- One thing after another may happen to a pool. A registry that is made in between is looked up in
    afterwards. -/
theorem Evolves.trans (h : Evolves p p') (h' : Evolves p' p'') : Evolves p p'' where
  kept id r hr := by
    obtain ⟨r', hr', hserves⟩ := h.kept id r hr
    obtain ⟨r'', hr'', hserves'⟩ := h'.kept id r' hr'
    exact ⟨r'', hr'', hserves.trans hserves'⟩
  made id r'' hnone hr'' := by
    -- it was made in the second part, or in the first and looked up in since
    cases hr' : p'.get? id with
    | none => exact h'.made id r'' hr' hr''
    | some r' =>
      obtain ⟨cid, c, widths, hserves⟩ := h.made id r' hnone hr'
      obtain ⟨other, hother, hserves'⟩ := h'.kept id r' hr'
      rw [hr''] at hother
      cases hother
      exact ⟨cid, c, widths, hserves.trans hserves'⟩
  default id hid := h'.default id (h.default id hid)

/-- A registry that is added has the next number. -/
theorem get?_add_of_none {id : Nat} {r r' : Registry} (hnone : p.get? id = none)
    (h : (p.add r).2.get? id = some r') : r' = r := by
  have hle : p.registries.length ≤ id := List.getElem?_eq_none_iff.mp hnone
  change (p.registries ++ [r])[id]? = some r' at h
  rw [List.getElem?_append_right hle, List.getElem?_singleton] at h
  split at h
  · cases h
    rfl
  · cases h

/-- A registry may be made over a catalog. -/
theorem evolves_add (p : Pool) (cid : Nat) (c : Catalog) (widths : List Int) :
    Evolves p (p.add (.ofCatalog cid c widths)).2 where
  kept _ r hr := ⟨r, get?_add hr _, .refl⟩
  made id r' hnone hr' := by
    rw [get?_add_of_none hnone hr']
    exact ⟨cid, c, widths, .refl⟩
  default _ := id

/-- The default registry is the one that there is, or is added. -/
theorem evolves_default (p : Pool) (cid : Nat) (c : Catalog) (widths : List Int) :
    Evolves p (p.default (.ofCatalog cid c widths)).2 := by
  have hadd := evolves_add p cid c widths
  unfold Pool.default
  cases hdefault : p.default? with
  | some id => exact .refl p
  | none =>
    refine ⟨hadd.kept, hadd.made, fun id hid => ?_⟩
    rw [hdefault] at hid
    cases hid

/-- A registry may be looked up in. -/
theorem evolves_modify {i : Nat} {r r' : Registry} (hr : p.get? i = some r)
    (hserves : r.Serves r') : Evolves p (p.modify i fun _ => r') where
  kept id s hs := by
    rw [get?_modify]
    split
    · next heq =>
      subst heq
      rw [hr] at hs
      cases hs
      rw [hr]
      exact ⟨r', rfl, .single hserves⟩
    · exact ⟨s, hs, .refl⟩
  made id s hnone hs := by
    rw [get?_modify, hnone] at hs
    split at hs <;> cases hs
  default _ := id

end Pool

/-! ### Requests that close nothing -/

section Evolving

variable {p : Pool}

/-- Settings, catalogs and files do not matter to the registries. -/
abbrev Onward (p : Pool) (w : Workspace) : Prop := p.Evolves w.pool

/-- A number without a registry is refused like a closed one. -/
theorem runOn_registry_of_none {i : Nat} {w : Workspace} (h : w.pool.get? i = none) :
    runOn (registry i) w = (.error (.registry .closed), w) := by
  rw [registry, runOn_bind_of_ok (runOn_get w), h]
  rfl

/-- An action that begins by looking at a registry knows what it has seen. -/
theorem keeps_registry_bind {α : Type} {P : Workspace → Prop} {i : Nat} {f : Registry → Action α}
    (hf : ∀ w r, w.pool.get? i = some r → P w → P (runOn (f r) w).2) :
    Keeps P (registry i >>= f) := by
  intro w h
  -- without a registry of that number the action ends here
  cases hr : w.pool.get? i with
  | none =>
    rw [runOn_bind_of_error (runOn_registry_of_none hr)]
    exact h
  | some r =>
    rw [runOn_bind_of_ok (runOn_registry hr)]
    exact hf w r hr h

/-- The pipeline is that over the catalog as it is now. -/
theorem runOn_pipelineOf (r : Registry) (w : Workspace) :
    runOn (pipelineOf r) w = (.ok (r.pipeline (w.catalogs[r.catalog]?.getD .empty)), w) := rfl

/-- A lookup of a symbol changes one registry, and does not close it. -/
theorem onward_lookupSymbol (i : Nat) (s : Text) : Keeps (Onward p) (lookupSymbol i s) := by
  refine keeps_registry_bind fun w r hr h => ?_
  -- whatever the catalog has become, it is one lookup
  rw [runOn_bind_of_ok (runOn_pipelineOf r w)]
  generalize r.pipeline (w.catalogs[r.catalog]?.getD .empty) = build
  exact keeps_ofExcept .registry (r.lookup build s).1 (w.withRegistry i (r.lookup build s).2)
    (h.trans (Pool.evolves_modify hr (.lookup r build s)))

/-- A lookup of a callee closes nothing. -/
theorem onward_lookup (i : Nat) (callee : Callee) : Keeps (Onward p) (lookup i callee) :=
  (keeps_toSymbol callee).bind fun s => onward_lookupSymbol i s

/-- A run of the pipeline closes nothing but a registry whose pipeline does so. -/
theorem onward_build (i : Nat) (s : Text) : Keeps (Onward p) (Action.build i s) := by
  refine keeps_registry_bind fun w r hr h => ?_
  -- starting the pipeline is all that happens to the registry
  have hrest : Keeps (Onward p) (pipelineOf r >>= fun build => ofExcept .fault (build s)) :=
    (keeps_pipelineOf r).bind fun _ => keeps_ofExcept _ _
  exact hrest _ (h.trans (Pool.evolves_modify hr (.start r)))

/-- Whatever is done with a fresh registry, it is one of a catalog. -/
theorem onward_freshRegistry_bind {α : Type} (catalog? : Option Nat) (widths? : Option (List Int))
    {f : Registry → Action α}
    (hf : ∀ cid c widths, Keeps (Onward p) (f (.ofCatalog cid c widths))) :
    Keeps (Onward p) (freshRegistry catalog? widths? >>= f) := by
  rw [show freshRegistry catalog? widths? >>= f = (do
    let id ← catalogOr catalog?
    let c ← catalog id
    let widths ← widthsOr widths?
    f (.ofCatalog id c widths)) by simp only [freshRegistry, bind_assoc, pure_bind]]
  exact (keeps_catalogOr (fun _ _ h => h) (fun _ _ h => h) catalog?).bind fun cid =>
    (keeps_catalog cid).bind fun c => (keeps_widthsOr widths?).bind fun widths => hf cid c widths

/-- A registry that is made joins those that there are. -/
theorem onward_newRegistry (catalog? : Option Nat) (widths? : Option (List Int)) :
    Keeps (Onward p) (freshRegistry catalog? widths? >>= addRegistry) :=
  onward_freshRegistry_bind catalog? widths? fun cid c widths =>
    keeps_get_bind fun w h => h.trans (Pool.evolves_add w.pool cid c widths)

/-- The default registry is found or made. -/
theorem onward_defaultRegistry : Keeps (Onward p) defaultRegistry := by
  refine keeps_get.bind fun w => ?_
  -- it is there, or a fresh one becomes it
  cases w.pool.default? with
  | some i => exact keeps_pure i
  | none =>
    exact onward_freshRegistry_bind none none fun cid c widths =>
      keeps_get_bind fun w h => h.trans (Pool.evolves_default w.pool cid c widths)

/-- A predicate makes the default registry if it has to, and looks up in it. -/
theorem onward_holds (q : ImagePredicate) (i? : Option Nat) (callee : Callee) :
    Keeps (Onward p) (holds q i? callee) := by
  have hrest : ∀ i, Keeps (Onward p) (do return q.holds (← lookup i callee)) :=
    fun i => (onward_lookup i callee).bind fun _ => keeps_pure _
  cases i? with
  | some i => exact hrest i
  | none => exact onward_defaultRegistry.bind hrest

/-- A request neither closes a registry, nor installs a default one, nor asks several things at
    once. -/
def Request.Quiet : Request → Prop
  | .lookupTogether _ _ _ | .close _ | .resetDefault _ => False
  | _ => True

/-- A quiet request closes nothing. The cases are those of the request. -/
theorem Request.onward {q : Request} (hq : q.Quiet) : Keeps (Onward p) q.perform := by
  cases q with
  | lookupTogether | close | resetDefault => exact hq.elim
  | lookup i callee => exact keeps_only (onward_lookup i callee)
  | holds q i? callee => exact keeps_only (onward_holds q i? callee)
  | failure i callee => exact keeps_only (keeps_failure i callee)
  | contains i => exact keeps_only (keeps_registry i)
  | build i s => exact keeps_only (onward_build i s)
  | newRegistry catalog? widths? => exact keeps_only (onward_newRegistry catalog? widths?)
  | defaultRegistry => exact keeps_only onward_defaultRegistry
  | newCatalog c => exact keeps_only (keeps_addCatalog (fun _ _ h => h) c)
  | openCatalog path => exact keeps_only (keeps_openCatalogFile (fun _ _ h => h) path)
  | defaultCatalog =>
    exact keeps_only (keeps_defaultCatalog (fun _ _ h => h) fun _ _ h => h)
  | loadData i data source =>
    exact (keeps_catalog i).bind fun _ => Keeps.bind (keeps_modify fun _ h => h) fun _ =>
      keeps_ofExcept _ _
  | loadFile i path =>
    exact (keeps_readCatalogFile path).bind fun data => (keeps_catalog i).bind fun _ =>
      Keeps.bind (keeps_modify fun _ h => h) fun _ => keeps_ofExcept _ _
  | changeSettings f => exact keeps_changeSettings (fun _ _ h => h) f
  | loadSettings path => exact keeps_only (keeps_loadSettings (fun _ _ h => h) path)
  | initSettings args? => exact keeps_initSettings (fun _ _ h => h) args?
  | mount t => exact fun _ h => h

end Evolving

/-! ### What a use does -/

/-- What a use does to the registries. -/
inductive Use.Effect (p : Pool) : Use → Pool → Prop
  | evolve {u : Use} {p' : Pool} (h : p.Evolves p') : Effect p u p'
  | close (i : Nat) : Effect p (.ask (.close i)) (p.close i)
  | reset (id? : Option Nat) : Effect p (.ask (.resetDefault id?)) (p.reset id?)
  | together {i : Nat} {symbols : List Text} {threads : Nat} {r : Registry} {build : Build}
      (hr : p.get? i = some r) :
      Effect p (.ask (.lookupTogether i symbols threads))
        (p.modify i fun _ => (r.lookupTogether build symbols threads).2)

/-- What a use does is one of the effects. -/
theorem Use.effect (u : Use) (w : Workspace) :
    u.Effect w.pool (runOn u.perform w).2.pool := by
  cases u with
  | lookup callee =>
    have honward : Keeps (Onward w.pool) (lookupDefault callee) :=
      onward_defaultRegistry.bind fun i => onward_lookup i callee
    exact .evolve (keeps_only honward w (.refl _))
  | ask q =>
    -- three requests are not quiet, and each has an effect of its own
    by_cases hq : q.Quiet
    · exact .evolve (Request.onward hq w (.refl _))
    cases q with
    | close i => exact .close i
    | resetDefault id? => exact .reset id?
    | lookupTogether i symbols threads =>
      rw [perform, Request.perform, runOn_only]
      cases hr : w.pool.get? i with
      | none =>
        rw [Action.lookupTogether, runOn_bind_of_error (runOn_registry_of_none hr)]
        exact .evolve (.refl _)
      | some r =>
        rw [Action.lookupTogether, runOn_bind_of_ok (runOn_registry hr),
          runOn_bind_of_ok (runOn_pipelineOf r w)]
        exact .together hr
    | _ => exact absurd trivial hq

/-- What every use keeps holds after uses one after the other. -/
theorem Workspace.after_induction (P : Pool → Prop) (allowed : Use → Prop)
    (hstep : ∀ u p p', allowed u → P p → u.Effect p p' → P p') {w : Workspace} (hw : P w.pool)
    {uses : List Use} (huses : ∀ u ∈ uses, allowed u) : P (w.after uses).pool := by
  -- induction on the uses; what is kept is said of effects, so it holds whether they fail or not
  induction uses generalizing w with
  | nil => exact hw
  | cons u rest ih =>
    obtain ⟨hu, hrest⟩ := List.forall_mem_cons.mp huses
    exact ih (hstep u _ _ hu hw (u.effect w)) hrest

/-! ### The default and those that were -/

namespace Pool

open Relation

variable {p p' : Pool} {id : Nat} {u : Use}

/-- A reset closes the default registry. -/
theorem get?_reset_default (h : p.default? = some id) (id? : Option Nat) :
    (p.reset id?).get? id = (p.get? id).map Registry.close := by
  unfold reset
  rw [h]
  show (p.modify id Registry.close).get? id = _
  rw [get?_modify, if_pos rfl]

/-- What a use can do to the registry with a number, and which uses close it or ask it several
    things at once. -/
inductive Fate (u : Use) (id : Nat) (r : Registry) : Registry → Prop
  | serves {r' : Registry} (h : ReflTransGen Registry.Serves r r') : Fate u id r r'
  | closed (h : ¬ u.Spares id) : Fate u id r r.close
  | together {build : Build} {symbols : List Text} {threads : Nat} (h : ¬ u.Rests id) :
      Fate u id r (r.lookupTogether build symbols threads).2

/-- What becomes of one registry shows from what is done to all. -/
theorem exists_fate {r : Registry} (hr : p.get? id = some r) (he : u.Effect p p') :
    ∃ r', p'.get? id = some r' ∧ Fate u id r r' := by
  -- each effect touches the registry with its own number, or all by lookups only
  cases he with
  | evolve h =>
    obtain ⟨r', hr', hserves⟩ := h.kept id r hr
    exact ⟨r', hr', .serves hserves⟩
  | close i =>
    rw [close, get?_modify, hr]
    split_ifs with hi
    · exact ⟨_, rfl, .closed (absurd hi)⟩
    · exact ⟨r, rfl, .serves .refl⟩
  | reset id? =>
    by_cases hdefault : p.default? = some id
    · rw [get?_reset_default hdefault, hr]
      exact ⟨_, rfl, .closed not_false⟩
    · rw [get?_reset hdefault, hr]
      exact ⟨r, rfl, .serves .refl⟩
  | @together i _ _ s _ hs =>
    rw [get?_modify, hr]
    split_ifs with hi
    · subst hi
      rw [hr] at hs
      cases hs
      exact ⟨_, rfl, .together (absurd rfl)⟩
    · exact ⟨r, rfl, .serves .refl⟩

/-- Only a reset takes the default registry away, and it closes it. -/
theorem default_or_closed {r : Registry} (hdefault : p.default? = some id) (hr : p.get? id = some r)
    (he : u.Effect p p') :
    p'.default? = some id ∨ ¬ u.Spares id ∧ p'.get? id = some r.close := by
  cases he with
  | evolve h => exact .inl (h.default id hdefault)
  | close i => exact .inl hdefault
  | reset id? => exact .inr ⟨not_false, by rw [get?_reset_default hdefault, hr]; rfl⟩
  | together hs => exact .inl hdefault

/-! ### Registries that were the default -/

/-- The registry with a number is closed and keeps nothing. -/
def Gone (p : Pool) (id : Nat) : Prop := ∃ r, p.get? id = some r ∧ r.Emptied

/-- The registry with a number is the default, or else it is closed and keeps nothing. -/
def Tracked (p : Pool) (id : Nat) : Prop :=
  (p.default? = some id ∧ ∃ r, p.get? id = some r) ∨ p.Gone id

/-- A registry that is gone stays so. -/
theorem Gone.effect (h : p.Gone id) (he : u.Effect p p') : p'.Gone id := by
  obtain ⟨r, hr, hempty⟩ := h
  obtain ⟨r', hr', hfate⟩ := exists_fate hr he
  refine ⟨r', hr', ?_⟩
  cases hfate with
  | serves hserves => exact hempty.serves_all hserves
  | closed => exact r.emptied_close
  | together => exact hempty.lookupTogether _ _ _

/-- The default registry stays the default, or is gone from then on. -/
theorem Tracked.effect (h : p.Tracked id) (he : u.Effect p p') : p'.Tracked id := by
  rcases h with ⟨hdefault, r, hr⟩ | hgone
  · rcases default_or_closed hdefault hr he with hdefault | ⟨-, hclosed⟩
    · obtain ⟨r', hr', -⟩ := exists_fate hr he
      exact .inl ⟨hdefault, r', hr'⟩
    · exact .inr ⟨_, hclosed, r.emptied_close⟩
  · exact .inr (hgone.effect he)

/-! ### Registries that are installed -/

/-- If there is a registry with a number, it is at rest. -/
def RestsAt (p : Pool) (id : Nat) : Prop := ∀ r, p.get? id = some r → r.Resting

/-- The default is the registry with a number, which is open and at rest. -/
def Installed (p : Pool) (id : Nat) : Prop :=
  p.default? = some id ∧ ∃ r, p.get? id = some r ∧ r.Resting ∧ r.closed = false

/-- Only a registry that is made begins to exist. -/
theorem made_of_effect {r' : Registry} (hnone : p.get? id = none) (hr' : p'.get? id = some r')
    (he : u.Effect p p') :
    ∃ cid c widths, ReflTransGen Registry.Serves (.ofCatalog cid c widths) r' := by
  cases he with
  | evolve h => exact h.made id r' hnone hr'
  | close i =>
    rw [close, get?_modify, hnone] at hr'
    split at hr' <;> cases hr'
  | reset id? =>
    by_cases hdefault : p.default? = some id
    · rw [get?_reset_default hdefault, hnone] at hr'
      cases hr'
    · rw [get?_reset hdefault, hnone] at hr'
      cases hr'
  | together hs =>
    rw [get?_modify, hnone] at hr'
    split at hr' <;> cases hr'

/-- A registry comes to rest when it is made, and stays so unless it is asked several things at
    once. -/
theorem RestsAt.effect (h : p.RestsAt id) (hu : u.Rests id) (he : u.Effect p p') :
    p'.RestsAt id := by
  intro r' hr'
  -- a registry that was not there is made, and a fresh one is at rest
  cases hr : p.get? id with
  | none =>
    obtain ⟨cid, c, widths, hserves⟩ := made_of_effect hr hr' he
    exact ((Registry.resting_ofCatalog cid c widths).serves_all hserves).1
  | some r =>
    obtain ⟨other, hother, hfate⟩ := exists_fate hr he
    rw [hr'] at hother
    cases hother
    cases hfate with
    | serves hserves => exact ((h r hr).serves_all hserves).1
    | closed => exact ⟨(h r hr).lasting, (h r hr).idle⟩
    | together hrests => exact absurd hu hrests

/-- A default registry that is spared stays open and the default. -/
theorem Installed.effect (h : p.Installed id) (hu : u.Spares id) (he : u.Effect p p') :
    p'.Installed id := by
  obtain ⟨hdefault, r, hr, hresting, hopen⟩ := h
  obtain ⟨r', hr', hfate⟩ := exists_fate hr he
  refine ⟨(default_or_closed hdefault hr he).resolve_right fun hclosed => hclosed.1 hu, r', hr', ?_⟩
  cases hfate with
  | serves hserves =>
    obtain ⟨hresting', hclosed⟩ := hresting.serves_all hserves
    exact ⟨hresting', hclosed.trans hopen⟩
  | closed hspares => exact absurd hu hspares
  | together hrests => exact absurd hu.rests hrests

end Pool

/-! ### Answers of the default registry -/

/-- Nothing but a callee without a symbol or a fault of the pipeline kept an action from its
    result. -/
def Served {α : Type} (result : Except Workspace.Error α) : Prop :=
  ∀ e, result = .error e → (∃ n, e = .callee n) ∨ ∃ f, e = .registry (.fault f)

/-- The default registry is this one, and what is asked of it is answered. -/
structure Usable (id : Nat) (w : Workspace) : Prop where
  default : w.pool.default? = some id
  isOpen : ∃ r, w.pool.get? id = some r ∧ r.closed = false
  lookup : ∀ callee, Served (runOn (lookupDefault callee) w).1
  holds : ∀ p callee, Served (runOn (Action.holds p none callee) w).1

section Answers

variable {id : Nat} {w : Workspace}

/-- What is made of the result was kept from it by the same errors. -/
theorem Served.map {α β : Type} {result : Except Workspace.Error α} (h : Served result)
    (f : α → β) : Served (result.map f) := by
  intro e he
  cases result with
  | error e' => exact h e (by cases he; rfl)
  | ok a => cases he

/-- A lookup in the default registry is one in the registry with its number. -/
theorem runOn_lookupDefault (hdefault : w.pool.default? = some id) (callee : Callee) :
    runOn (lookupDefault callee) w = runOn (Action.lookup id callee) w := by
  have hrun : runOn defaultRegistry w = (.ok id, w) := by
    rw [defaultRegistry, runOn_bind_of_ok (runOn_get w), hdefault]
    rfl
  rw [lookupDefault, runOn_bind_of_ok hrun]

/-- A lookup of a callee is one of its symbol in the registry. -/
theorem exists_runOn_lookup {r : Registry} (hr : w.pool.get? id = some r) {callee : Callee}
    {s : Text} (hs : callee.toSymbol = .ok s) :
    ∃ build, (runOn (Action.lookup id callee) w).1 = (r.lookup build s).1.mapError .registry := by
  refine ⟨r.pipeline (w.catalogs[r.catalog]?.getD .empty), ?_⟩
  rw [Action.lookup, toSymbol, hs, runOn_bind_of_ok (runOn_ofExcept_ok _ _ _), lookupSymbol,
    runOn_bind_of_ok (runOn_registry hr), runOn_bind_of_ok (runOn_pipelineOf r w)]
  generalize r.pipeline (w.catalogs[r.catalog]?.getD .empty) = build
  exact congrArg Prod.fst (runOn_ofExcept .registry (r.lookup build s).1
    (w.withRegistry id (r.lookup build s).2))

/-- An open registry at rest answers. -/
theorem served_lookup (h : w.pool.Installed id) (callee : Callee) :
    Served (runOn (Action.lookup id callee) w).1 := by
  obtain ⟨-, r, hr, hresting, hopen⟩ := h
  intro e he
  -- without a symbol the registry is not even asked
  cases hs : callee.toSymbol with
  | error n =>
    rw [Action.lookup, toSymbol, hs, runOn_bind_of_error (runOn_ofExcept_error _ _ _)] at he
    cases he
    exact .inl ⟨n, rfl⟩
  | ok s =>
    obtain ⟨build, hrun⟩ := exists_runOn_lookup hr hs
    rw [hrun] at he
    cases hresult : (r.lookup build s).1 with
    | ok info =>
      rw [hresult] at he
      cases he
    | error e' =>
      obtain ⟨f, rfl⟩ := hresting.exists_fault hopen hresult
      rw [hresult] at he
      cases he
      exact .inr ⟨f, rfl⟩

/-- An open default registry at rest can be used. -/
theorem usable_of_installed (h : w.pool.Installed id) : Usable id w := by
  have hserved := served_lookup h
  obtain ⟨hdefault, r, hr, hresting, hopen⟩ := h
  refine ⟨hdefault, ⟨r, hr, hopen⟩, fun callee => ?_, fun p callee => ?_⟩
  · rw [runOn_lookupDefault hdefault]
    exact hserved callee
  · have hor : (none : Option Nat).or w.pool.default? = some id := hdefault
    rw [runOn_holds p hor]
    exact (hserved callee).map p.holds

/-- It stays so until it is closed or another default is installed. -/
theorem usable_after (h : w.pool.Installed id) {uses : List Use} (huses : ∀ u ∈ uses, u.Spares id) :
    Usable id (w.after uses) :=
  usable_of_installed (Workspace.after_induction (fun p => p.Installed id) (Use.Spares id)
    (fun _ _ _ hu h he => h.effect hu he) h huses)

/-- A default registry that is gone refuses every lookup. -/
theorem refused_of_gone (hdefault : w.pool.default? = some id) (h : w.pool.Gone id)
    {callee : Callee} {s : Text} (hs : callee.toSymbol = .ok s) :
    (runOn (lookupDefault callee) w).1 = .error (.registry .closed) := by
  obtain ⟨r, hr, hempty⟩ := h
  obtain ⟨build, hrun⟩ := exists_runOn_lookup hr hs
  rw [runOn_lookupDefault hdefault, hrun, hempty.lookup_eq]
  rfl

end Answers

/-- A registry that is made is one of a catalog, and the others are left alone. -/
theorem exists_ofCatalog_of_fresh {w' : Workspace} {catalog? : Option Nat}
    {widths? : Option (List Int)} {r : Registry}
    (h : runOn (freshRegistry catalog? widths?) w = (.ok r, w')) :
    w'.pool = w.pool ∧ ∃ cid c widths, r = .ofCatalog cid c widths := by
  have hpool : Keeps (fun v => v.pool = w.pool) (freshRegistry catalog? widths?) :=
    keeps_freshRegistry (fun _ _ h => h) (fun _ _ h => h) catalog? widths?
  have hkept := hpool w rfl
  rw [h] at hkept
  -- its catalog, what that is now, and its widths are found one after the other
  rw [freshRegistry] at h
  obtain ⟨cid, w₁, -, h⟩ := exists_of_runOn_bind h
  obtain ⟨c, w₂, -, h⟩ := exists_of_runOn_bind h
  obtain ⟨widths, w₃, -, h⟩ := exists_of_runOn_bind h
  cases h
  exact ⟨hkept, cid, c, widths, rfl⟩

/-- A default registry that is made because there was none is open and at rest. -/
theorem installed_of_made {w' : Workspace} {i : Nat} (hnone : w.pool.default? = none)
    (h : runOn defaultRegistry w = (.ok i, w')) : w'.pool.Installed i := by
  rw [defaultRegistry, runOn_bind_of_ok (runOn_get w), hnone] at h
  obtain ⟨fresh, w₁, hfresh, h⟩ := exists_of_runOn_bind h
  obtain ⟨hpool, cid, c, widths, rfl⟩ := exists_ofCatalog_of_fresh hfresh
  rw [runOn_bind_of_ok (runOn_get w₁), hpool, Pool.default, hnone] at h
  cases h
  refine ⟨rfl, _, ?_, Registry.resting_ofCatalog cid c widths, rfl⟩
  exact List.getElem?_concat_length

/-! ### Every run -/

/-- What a reset makes of a registry that was open before it. -/
structure Installs (id : Nat) (w w' : Workspace) : Prop where
  /-- It is the default. -/
  default : w'.pool.default? = some id
  /-- Unless it was the default already, it is open still. -/
  isOpen_iff : (∃ r, w'.pool.get? id = some r ∧ r.closed = false) ↔ w.pool.default? ≠ some id
  /-- Then it can be used until it is closed or another default is installed. -/
  usable : w.pool.default? ≠ some id → ∀ uses : List Use, (∀ u ∈ uses, u.Spares id) →
    Usable id (w'.after uses)
  /-- Otherwise the reset has closed it, and it refuses every lookup. -/
  refused : w.pool.default? = some id → ∀ callee s, callee.toSymbol = .ok s →
    (runOn (lookupDefault callee) w').1 = .error (.registry .closed)

/-- A reset installs an open registry at rest, but closes it if it was the default before. -/
theorem installs_of_open {id : Nat} {w : Workspace} {r : Registry} (hr : w.pool.get? id = some r)
    (hresting : r.Resting) (hopen : r.closed = false) :
    Installs id w (runOn (resetDefault (some id)) w).2 := by
  have hpool : (runOn (resetDefault (some id)) w).2.pool = w.pool.reset (some id) := rfl
  have hdefault' : (w.pool.reset (some id)).default? = some id := rfl
  by_cases hdefault : w.pool.default? = some id
  · -- the registry that is closed as the default before is the one that is installed
    have hclosed : (w.pool.reset (some id)).get? id = some r.close := by
      rw [Pool.get?_reset_default hdefault, hr]
      rfl
    refine ⟨hdefault', ?_, absurd hdefault, fun _ callee s hs => ?_⟩
    · rw [hpool, hclosed]
      simp [hdefault, Registry.close]
    · exact refused_of_gone hdefault' ⟨_, hclosed, r.emptied_close⟩ hs
  · have hkept : (w.pool.reset (some id)).get? id = some r := by
      rw [Pool.get?_reset hdefault, hr]
    refine ⟨hdefault', ⟨fun _ => hdefault, fun _ => ⟨r, hkept, hopen⟩⟩, fun _ uses huses => ?_,
      fun h => absurd h hdefault⟩
    exact usable_after (w := (runOn (resetDefault (some id)) w).2)
      ⟨hdefault', r, hkept, hresting, hopen⟩ huses

/-- **The default registry.** In every run a registry that was the default and no longer is stays
    closed and keeps nothing.  One that is made because there is none can be used until it is closed
    or replaced.  So can an open registry that a reset installs, unless it was the default before:
    that one the reset closes. -/
theorem default_replaced_and_installed (files : Path → FileContent) (before : List Use) :
    let w := (Workspace.initial files).after before
    (∀ id r, w.pool.default? = some id → w.pool.get? id = some r → ∀ between more : List Use,
      (w.after between).pool.default? ≠ some id →
      ∃ r', ((w.after between).after more).pool.get? id = some r' ∧ r'.Emptied) ∧
    (∀ id w', w.pool.default? = none → runOn defaultRegistry w = (.ok id, w') →
      ∀ uses : List Use, (∀ u ∈ uses, u.Spares id) → Usable id (w'.after uses)) ∧
    ∀ id r, w.pool.get? id = some r → r.closed = false → (∀ u ∈ before, u.Rests id) →
      Installs id w (runOn (resetDefault (some id)) w).2 := by
  intro w
  refine ⟨fun id r hdefault hr between more hlater => ?_, fun id w' hnone hrun uses huses => ?_,
    fun id r hr hopen hbefore => ?_⟩
  · -- as long as it is the default it is tracked; no longer the default, it is gone
    have htracked : (w.after between).pool.Tracked id :=
      Workspace.after_induction (fun p => p.Tracked id) (fun _ => True)
        (fun _ _ _ _ h he => h.effect he) (.inl ⟨hdefault, r, hr⟩) fun _ _ => trivial
    have hgone := htracked.resolve_left fun h => hlater h.1
    exact Workspace.after_induction (fun p => p.Gone id) (fun _ => True)
      (fun _ _ _ _ h he => h.effect he) hgone fun _ _ => trivial
  · exact usable_after (installed_of_made hnone hrun) huses
  · -- before the reset it was only asked one thing at a time, so it is at rest
    have hrests : w.pool.RestsAt id :=
      Workspace.after_induction (fun p => p.RestsAt id) (Use.Rests id)
        (fun _ _ _ hu h he => h.effect hu he) (fun _ hnone => by cases hnone) hbefore
    exact installs_of_open hr (hrests r hr) hopen

/-- A process that has made a registry over an empty catalog and installed it. -/
def installedUses : List Use :=
  [.ask (.newCatalog .empty), .ask (.newRegistry (some 0) (some [2])),
    .ask (.resetDefault (some 0))]

/-- Another registry that is made and installed in its place can be used, also after a lookup, and
    the one before is gone. -/
theorem usable_second_installed :
    let w := (Workspace.initial fun _ => .refused .missing).after
      (installedUses ++ [.ask (.newRegistry (some 0) (some [2]))])
    let w' := (runOn (resetDefault (some 1)) w).2.after [.lookup (.symbol "f")]
    w.pool.default? = some 0 ∧ Usable 1 w' ∧ ∃ r, w'.pool.get? 0 = some r ∧ r.Emptied := by
  intro w w'
  obtain ⟨hreplaced, -, hinstalled⟩ :=
    default_replaced_and_installed (fun _ => .refused .missing)
    (installedUses ++ [.ask (.newRegistry (some 0) (some [2]))])
  have hinstalls := hinstalled 1 _ rfl rfl (by simp [installedUses, Use.Rests])
  refine ⟨rfl, hinstalls.usable (by decide) _ (by simp [Use.Spares]), ?_⟩
  exact hreplaced 0 _ rfl rfl [.ask (.resetDefault (some 1))] [.lookup (.symbol "f")] (by decide)

/-- A reset to the default registry, which is open, closes it, and it stays the default. -/
theorem not_open_of_reset_default :
    let w := (Workspace.initial fun _ => .refused .missing).after installedUses
    let w' := (runOn (resetDefault (some 0)) w).2
    (∃ r, w.pool.get? 0 = some r ∧ r.closed = false) ∧ w'.pool.default? = some 0 ∧
      ¬ (∃ r, w'.pool.get? 0 = some r ∧ r.closed = false) ∧
      (runOn (lookupDefault (.symbol "f")) w').1 = .error (.registry .closed) := by
  refine ⟨⟨_, rfl, rfl⟩, rfl, ?_, rfl⟩
  rintro ⟨r, hr, hopen⟩
  cases hr
  cases hopen

end KernelCalls
