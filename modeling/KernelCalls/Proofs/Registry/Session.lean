import KernelCalls.Proofs.Action
import KernelCalls.Proofs.Registry.Answering

namespace KernelCalls

open KernelCalls.Action

/-!
# Sessions with a registry

A registry of a workspace is asked about symbols while settings change, catalogs are made and
loaded, and other registries come and go. As long as it is not closed and its own catalog is left
alone, all its answers are those of the pipeline that it was made with.

* `Request`, `Request.perform` : what can be asked of a workspace.
* `Request.Spares` : the request neither closes the registry nor loads into its catalog.
* `Session` : requests one after the other, with the lookups in the registry among them.
* `Stays`, `Request.stays` : what is no lookup in the registry leaves it and its catalog alone.
* `Transparent`, `Session.transparent` : how the registry answers after any session.
-/

/-! ### Registries of a pool -/

namespace Pool

/-- Another registry in the place of one number leaves the other numbers alone. -/
theorem get?_modify (p : Pool) (id id' : Nat) (f : Registry → Registry) :
    (p.modify id f).get? id' = if id = id' then (p.get? id').map f else p.get? id' := by
  show (p.registries.modify id f)[id']? = _
  rw [List.getElem?_modify]
  split
  · rfl
  · exact id_map _

/-- A registry that is added leaves the numbers that there are alone. -/
theorem get?_add {p : Pool} {id : Nat} {r : Registry} (h : p.get? id = some r) (r' : Registry) :
    (p.add r').2.get? id = some r := by
  show (p.registries ++ [r'])[id]? = some r
  rw [List.getElem?_append_left (List.getElem?_eq_some_iff.mp h).1]
  exact h

/-- A registry that is added has a number of its own. -/
theorem add_ne {p : Pool} {id : Nat} {r : Registry} (h : p.get? id = some r) (r' : Registry) :
    (p.add r').1 ≠ id := by
  have hlt : id < p.registries.length := (List.getElem?_eq_some_iff.mp h).1
  exact Nat.ne_of_gt hlt

/-- A reset leaves a registry alone that is not the default. -/
theorem get?_reset {p : Pool} {id : Nat} (h : p.default? ≠ some id) (id? : Option Nat) :
    (p.reset id?).get? id = p.get? id := by
  unfold reset
  cases hdefault : p.default? with
  | none => rfl
  | some other =>
    have hne : other ≠ id := fun heq => h (heq ▸ hdefault)
    show (p.modify other Registry.close).get? id = _
    rw [get?_modify, if_neg hne]

end Pool

/-! ### Requests -/

/-- Does an action and leaves its result to nobody. -/
def Action.only {α : Type} (a : Action α) : Action Unit := a >>= fun _ => pure ()

/-- What can be asked of a workspace. -/
inductive Request where
  | lookup (id : Nat) (callee : Callee)
  | holds (p : ImagePredicate) (id? : Option Nat) (callee : Callee)
  | failure (id : Nat) (callee : Callee)
  | contains (id : Nat)
  | build (id : Nat) (symbol : Text)
  | lookupTogether (id : Nat) (symbols : List Text) (threads : Nat)
  | close (id : Nat)
  | newRegistry (catalog? : Option Nat) (widths? : Option (List Int))
  | defaultRegistry
  | resetDefault (id? : Option Nat)
  | newCatalog (c : Catalog)
  | openCatalog (path : Path)
  | defaultCatalog
  | loadData (id : Nat) (data : Datum) (source : Text)
  | loadFile (id : Nat) (path : Path)
  | changeSettings (f : Settings → Settings)
  | loadSettings (path : Path)
  | initSettings (args? : Option (List Text))
  | mount (t : FileTree)

namespace Request

/-- Does what is asked for. -/
def perform : Request → Action Unit
  | .lookup id callee => (Action.lookup id callee).only
  | .holds p id? callee => (Action.holds p id? callee).only
  | .failure id callee => (Action.failure? id callee).only
  | .contains id => (Action.registry id).only
  | .build id symbol => (Action.build id symbol).only
  | .lookupTogether id symbols threads => (Action.lookupTogether id symbols threads).only
  | .close id => Action.close id
  | .newRegistry catalog? widths? => (freshRegistry catalog? widths? >>= addRegistry).only
  | .defaultRegistry => Action.defaultRegistry.only
  | .resetDefault id? => Action.resetDefault id?
  | .newCatalog c => (addCatalog c).only
  | .openCatalog path => (openCatalogFile path).only
  | .defaultCatalog => Action.defaultCatalog.only
  | .loadData id data source => Action.loadData id data source
  | .loadFile id path => loadCatalogFile id path
  | .changeSettings f => Action.changeSettings f
  | .loadSettings path => (Action.loadSettings path).only
  | .initSettings args? => Action.initSettings args?
  | .mount t => Action.mount t

/-- The callee that a request looks up in the registry with a number. A predicate without a
    registry asks the default one. -/
def lookup? (id : Nat) (w : Workspace) : Request → Option Callee
  | .lookup i callee => if i = id then some callee else none
  | .holds _ i? callee => if i?.or w.pool.default? = some id then some callee else none
  | _ => none

/-- The request neither closes the registry with a number, nor looks several symbols up in it at
    once, nor loads into its catalog. Installing another default registry closes the one before. -/
def Spares (id cid : Nat) (w : Workspace) : Request → Prop
  | .close i | .lookupTogether i _ _ => i ≠ id
  | .resetDefault _ => w.pool.default? ≠ some id
  | .loadData i _ _ | .loadFile i _ => i ≠ cid
  | _ => True

end Request

/-- The lookups in a registry, the last one first, with how they ended. -/
abbrev Trace := List (Callee × Except Workspace.Error Unit)

namespace Trace

/-- A lookup of the symbol was answered. -/
def Answered (trace : Trace) (s : Text) : Prop :=
  ∃ callee, callee.toSymbol = .ok s ∧ (callee, Except.ok ()) ∈ trace

/-- The pipeline raised a fault in the lookup. -/
def isRaise : Except Workspace.Error Unit → Bool
  | .error (.registry (.fault _)) => true
  | _ => false

/-- The number of lookups in which the pipeline raised a fault. -/
def raised (trace : Trace) : Nat := trace.countP fun e => isRaise e.2

variable {trace : Trace} {callee : Callee}

/-- A lookup that is answered adds its symbol to those with an answer. -/
theorem answered_cons_ok {s s' : Text} (hs : callee.toSymbol = .ok s) :
    Answered ((callee, .ok ()) :: trace) s' ↔ s' = s ∨ trace.Answered s' := by
  -- the last lookup is that of the symbol, or it was answered before
  constructor
  · rintro ⟨other, hother, hmem⟩
    rcases List.mem_cons.mp hmem with heq | hmem
    · cases heq
      rw [hs] at hother
      cases hother
      exact .inl rfl
    · exact .inr ⟨other, hother, hmem⟩
  · rintro (rfl | ⟨other, hother, hmem⟩)
    · exact ⟨callee, hs, List.mem_cons_self⟩
    · exact ⟨other, hother, List.mem_cons_of_mem _ hmem⟩

/-- A lookup that fails adds nothing to the symbols with an answer. -/
theorem answered_cons_error {e : Workspace.Error} {s : Text} :
    Answered ((callee, .error e) :: trace) s ↔ trace.Answered s := by
  simp [Answered]

/-- A lookup adds to the faults if it raised one. -/
theorem raised_cons (result : Except Workspace.Error Unit) :
    raised ((callee, result) :: trace) = trace.raised + if isRaise result then 1 else 0 :=
  List.countP_cons

end Trace

/-- Requests one after the other, whether they fail or not, that spare the registry with a number
    and its catalog. -/
inductive Session (id cid : Nat) (w₀ : Workspace) : Trace → Workspace → Prop where
  | start : Session id cid w₀ [] w₀
  | step {trace : Trace} {w : Workspace} (before : Session id cid w₀ trace w) (q : Request)
    (hq : q.Spares id cid w) :
    Session id cid w₀
      (((q.lookup? id w).map fun callee => (callee, (runOn q.perform w).1)).toList ++ trace)
      (runOn q.perform w).2

/-- A session goes on with a lookup in the registry. -/
theorem Session.look {id cid : Nat} {w₀ w : Workspace} {trace : Trace}
    (h : Session id cid w₀ trace w) {callee : Callee} {result : Except Workspace.Error Unit}
    (hresult : (runOn (Request.lookup id callee).perform w).1 = result) :
    Session id cid w₀ ((callee, result) :: trace)
      (runOn (Request.lookup id callee).perform w).2 := by
  have hnext := h.step (.lookup id callee) trivial
  rwa [Request.lookup?, if_pos rfl, hresult] at hnext

/-- A session goes on with a request that is no lookup in the registry. -/
theorem Session.pass {id cid : Nat} {w₀ w : Workspace} {trace : Trace}
    (h : Session id cid w₀ trace w) (q : Request) (hq : q.Spares id cid w)
    (hnone : q.lookup? id w = none) : Session id cid w₀ trace (runOn q.perform w).2 := by
  have hnext := h.step q hq
  rwa [hnone] at hnext

/-! ### Lookups in the registry -/

/-- The registry with a number is this one, and this is its catalog. -/
structure Stays (id : Nat) (r : Registry) (c : Catalog) (w : Workspace) : Prop where
  registry : w.pool.get? id = some r
  catalog : w.catalogs[r.catalog]? = some c

/-- The workspace with another registry in the place of the one with a number. -/
def Workspace.withRegistry (w : Workspace) (id : Nat) (r : Registry) : Workspace :=
  { w with pool := w.pool.modify id fun _ => r }

section Runs

variable {id : Nat} {r : Registry} {c : Catalog} {w : Workspace}

/-- Another registry over the same catalog may take the place. -/
theorem Stays.withRegistry (h : Stays id r c w) {r' : Registry}
    (hcatalog : r'.catalog = r.catalog) : Stays id r' c (w.withRegistry id r') where
  registry := by
    show (w.pool.modify id fun _ => r').get? id = some r'
    rw [Pool.get?_modify, if_pos rfl, h.registry]
    rfl
  catalog := by
    rw [hcatalog]
    exact h.catalog

/-- Without its result, an action does what it does. -/
theorem runOn_only {α : Type} (a : Action α) (w : Workspace) :
    runOn a.only w = ((runOn a w).1.map fun _ => (), (runOn a w).2) := by
  rw [Action.only, runOn_bind]
  rcases runOn a w with ⟨_ | _, w'⟩ <;> rfl

/-- The registry is found by its number. -/
theorem runOn_registry (h : w.pool.get? id = some r) : runOn (registry id) w = (.ok r, w) := by
  rw [registry, runOn_bind_of_ok (runOn_get w), h]
  rfl

/-- The pipeline of the registry is that over its catalog. -/
theorem Stays.runOn_pipelineOf (h : Stays id r c w) :
    runOn (pipelineOf r) w = (.ok (r.pipeline c), w) := by
  have hcatalog : runOn (Action.catalog r.catalog) w = (.ok c, w) := by
    rw [Action.catalog, runOn_bind_of_ok (runOn_get w), h.catalog]
    rfl
  rw [pipelineOf, runOn_bind_of_ok hcatalog]
  rfl

/-- A lookup of a symbol is one in the registry, which the workspace has afterwards. -/
theorem Stays.runOn_lookupSymbol (h : Stays id r c w) (s : Text) :
    runOn (lookupSymbol id s) w = ((r.lookup (r.pipeline c) s).1.mapError .registry,
      w.withRegistry id (r.lookup (r.pipeline c) s).2) := by
  rw [lookupSymbol, runOn_bind_of_ok (runOn_registry h.registry),
    runOn_bind_of_ok h.runOn_pipelineOf]
  exact runOn_ofExcept _ _ _

/-- A lookup of a callee is one of its symbol, if it has one. -/
theorem Stays.runOn_lookup (h : Stays id r c w) (callee : Callee) :
    runOn (lookup id callee) w = match callee.toSymbol with
      | .ok s => ((r.lookup (r.pipeline c) s).1.mapError .registry,
          w.withRegistry id (r.lookup (r.pipeline c) s).2)
      | .error e => (.error (.callee e), w) := by
  unfold lookup toSymbol
  cases callee.toSymbol with
  | error e => rfl
  | ok s => exact h.runOn_lookupSymbol s

/-- Running the pipeline keeps nothing of what it gives. -/
theorem Stays.runOn_build (h : Stays id r c w) (hlasting : r.closesItself = false) (s : Text) :
    runOn (Action.build id s) w = ((r.pipeline c s).mapError .fault, w.withRegistry id r) := by
  -- a pipeline that does not close the registry leaves it as it is
  have hstart : r.startBuild = r := by
    rw [Registry.startBuild, hlasting]
    rfl
  have hset : runOn (setRegistry id r) w = (.ok (), w.withRegistry id r) := rfl
  rw [Action.build, runOn_bind_of_ok (runOn_registry h.registry), hstart, runOn_bind_of_ok hset,
    runOn_bind_of_ok (h.withRegistry rfl).runOn_pipelineOf]
  exact runOn_ofExcept _ _ _

/-- Asking for a failure reads what is kept. -/
theorem Stays.runOn_failure (h : Stays id r c w) {callee : Callee} {s : Text}
    (hs : callee.toSymbol = .ok s) : runOn (failure? id callee) w = (.ok (r.failure? s), w) := by
  have hsymbol : runOn (toSymbol callee) w = (.ok s, w) := by
    rw [toSymbol, hs]
    rfl
  rw [failure?, runOn_bind_of_ok hsymbol, runOn_bind_of_ok (runOn_registry h.registry)]
  rfl

/-- A predicate asks the registry that it is given, or else the default one, for the description. -/
theorem runOn_holds (p : ImagePredicate) {i? : Option Nat} (hid : i?.or w.pool.default? = some id)
    (callee : Callee) :
    runOn (holds p i? callee) w =
      ((runOn (lookup id callee) w).1.map p.holds, (runOn (lookup id callee) w).2) := by
  -- either way the registry that is asked is the one with the number
  have hor : runOn (registryOr i?) w = (.ok id, w) := by
    cases i? with
    | some i =>
      cases hid
      rfl
    | none =>
      have hdefault : w.pool.default? = some id := hid
      rw [registryOr, defaultRegistry, runOn_bind_of_ok (runOn_get w), hdefault]
      rfl
  rw [holds, runOn_bind_of_ok hor, runOn_bind]
  rcases runOn (lookup id callee) w with ⟨_ | _, w'⟩ <;> rfl

end Runs

/-! ### What leaves the registry alone -/

/-- What an action keeps does not depend on its result. -/
theorem keeps_only {α : Type} {P : Workspace → Prop} {a : Action α} (h : Keeps P a) :
    Keeps P a.only := h.bind fun _ => keeps_pure ()

section Keeps

variable {id : Nat} {r : Registry} {c : Catalog}

/-- Finding a registry changes nothing. -/
theorem keeps_registry {P : Workspace → Prop} (i : Nat) : Keeps P (registry i) := by
  refine keeps_get.bind fun w => ?_
  cases w.pool.get? i with
  | some r => exact keeps_pure r
  | none => exact keeps_throw _

/-- Finding a pipeline changes nothing. -/
theorem keeps_pipelineOf {P : Workspace → Prop} (r : Registry) : Keeps P (pipelineOf r) :=
  (keeps_catalog _).bind fun _ => keeps_pure _

/-- Finding the symbol of a callee changes nothing. -/
theorem keeps_toSymbol {P : Workspace → Prop} (callee : Callee) : Keeps P (toSymbol callee) :=
  keeps_ofExcept _ _

/-- Another registry may change. -/
theorem keeps_setRegistry {i : Nat} (hne : i ≠ id) (r' : Registry) :
    Keeps (Stays id r c) (setRegistry i r') := by
  refine keeps_modify fun w h => ⟨?_, h.catalog⟩
  rw [Pool.get?_modify, if_neg hne, h.registry]

/-- Another registry may be closed. -/
theorem keeps_close {i : Nat} (hne : i ≠ id) : Keeps (Stays id r c) (close i) := by
  refine keeps_modify fun w h => ⟨?_, h.catalog⟩
  rw [Pool.close, Pool.get?_modify, if_neg hne, h.registry]

/-- Another registry may be looked up in. -/
theorem keeps_lookupSymbol {i : Nat} (hne : i ≠ id) (s : Text) :
    Keeps (Stays id r c) (lookupSymbol i s) :=
  (keeps_registry i).bind fun _ => (keeps_pipelineOf _).bind fun _ =>
    (keeps_setRegistry hne _).bind fun _ => keeps_ofExcept _ _

/-- Another registry may be asked about a callee. -/
theorem keeps_lookup {i : Nat} (hne : i ≠ id) (callee : Callee) :
    Keeps (Stays id r c) (lookup i callee) :=
  (keeps_toSymbol callee).bind fun s => keeps_lookupSymbol hne s

/-- Another registry may run its pipeline. -/
theorem keeps_build {i : Nat} (hne : i ≠ id) (s : Text) :
    Keeps (Stays id r c) (Action.build i s) :=
  (keeps_registry i).bind fun _ => (keeps_setRegistry hne _).bind fun _ =>
    (keeps_pipelineOf _).bind fun _ => keeps_ofExcept _ _

/-- Another registry may be asked about several symbols at once. -/
theorem keeps_lookupTogether {i : Nat} (hne : i ≠ id) (symbols : List Text) (threads : Nat) :
    Keeps (Stays id r c) (lookupTogether i symbols threads) :=
  (keeps_registry i).bind fun _ => (keeps_pipelineOf _).bind fun _ =>
    (keeps_setRegistry hne _).bind fun _ => keeps_pure _

/-- Asking for a failure changes nothing, in any registry. -/
theorem keeps_failure {P : Workspace → Prop} (i : Nat) (callee : Callee) :
    Keeps P (failure? i callee) :=
  (keeps_toSymbol callee).bind fun _ => (keeps_registry i).bind fun _ => keeps_pure _

/-- Registries are added behind those that are there. -/
theorem keeps_addRegistry (r' : Registry) : Keeps (Stays id r c) (addRegistry r') :=
  keeps_get_bind fun _ h => ⟨Pool.get?_add h.registry r', h.catalog⟩

/-- Catalogs are added behind those that are there. -/
theorem Stays.addCatalog {w : Workspace} (h : Stays id r c w) (c' : Catalog) :
    Stays id r c { w with catalogs := w.catalogs ++ [c'] } where
  registry := h.registry
  catalog := by
    show (w.catalogs ++ [c'])[r.catalog]? = some c
    rw [List.getElem?_append_left (List.getElem?_eq_some_iff.mp h.catalog).1, h.catalog]

/-- Another catalog may become the default. -/
theorem Stays.setDefaultCatalog {w : Workspace} (h : Stays id r c w) (id? : Option Nat) :
    Stays id r c { w with defaultCatalog? := id? } := ⟨h.registry, h.catalog⟩

/-- Settings may change. -/
theorem Stays.setSettings {w : Workspace} (s : Settings) (h : Stays id r c w) :
    Stays id r c { w with settings := s } := ⟨h.registry, h.catalog⟩

/-- Another catalog may be loaded into. -/
theorem keeps_loadData {i : Nat} (hne : i ≠ r.catalog) (data : Datum) (source : Text) :
    Keeps (Stays id r c) (loadData i data source) := by
  refine (keeps_catalog i).bind fun _ => Keeps.bind ?_ fun _ => keeps_ofExcept _ _
  refine keeps_modify fun w h => ⟨h.registry, ?_⟩
  show (w.catalogs.set i _)[r.catalog]? = some c
  rw [List.getElem?_set_ne hne, h.catalog]

/-- Another registry may be made, also over a catalog that is opened for it. -/
theorem keeps_newRegistry (catalog? : Option Nat) (widths? : Option (List Int)) :
    Keeps (Stays id r c) (freshRegistry catalog? widths? >>= addRegistry) :=
  (keeps_freshRegistry (fun _ c' h => h.addCatalog c') (fun _ id? h => h.setDefaultCatalog id?)
    catalog? widths?).bind keeps_addRegistry

/-- The default registry is there, or becomes one of its own. -/
theorem keeps_defaultRegistry : Keeps (Stays id r c) Action.defaultRegistry := by
  refine keeps_get.bind fun w => ?_
  cases w.pool.default? with
  | some i => exact keeps_pure i
  | none =>
    refine (keeps_freshRegistry (fun _ c' h => h.addCatalog c')
      (fun _ id? h => h.setDefaultCatalog id?) none none).bind fun fresh => ?_
    refine keeps_get_bind fun w h => ⟨?_, h.catalog⟩
    show (w.pool.default fresh).2.get? id = some r
    unfold Pool.default
    cases w.pool.default? with
    | some i => exact h.registry
    | none => exact Pool.get?_add h.registry fresh

/-- If it is another one, the number of the default registry is another one. -/
theorem defaultRegistry_ne {w w' : Workspace} (h : Stays id r c w)
    (hdefault : w.pool.default? ≠ some id) {i : Nat}
    (hrun : runOn Action.defaultRegistry w = (.ok i, w')) : i ≠ id := by
  rw [Action.defaultRegistry, runOn_bind_of_ok (runOn_get w)] at hrun
  cases hpool : w.pool.default? with
  | some other =>
    rw [hpool] at hrun hdefault
    cases hrun
    exact fun heq => hdefault (congrArg some heq)
  | none =>
    rw [hpool] at hrun
    -- making the registry changes neither the pool nor what was kept of it
    have hkeeps : Keeps (fun w => Stays id r c w ∧ w.pool.default? ≠ some id)
        (freshRegistry none none) :=
      keeps_freshRegistry (fun _ c' h => ⟨h.1.addCatalog c', h.2⟩)
        (fun _ id? h => ⟨h.1.setDefaultCatalog id?, h.2⟩) none none
    have hafter := hkeeps w ⟨h, hdefault⟩
    change runOn (freshRegistry none none >>= _) w = _ at hrun
    rw [runOn_bind] at hrun
    cases hfresh : runOn (freshRegistry none none) w with
    | mk result w₁ =>
      rw [hfresh] at hrun hafter
      cases result with
      | error e => cases hrun
      | ok fresh =>
        have hi : (w₁.pool.default fresh).1 = i := by
          cases hrun
          rfl
        rw [← hi, Pool.default]
        cases hpool₁ : w₁.pool.default? with
        | some other => exact fun heq => hafter.2 (hpool₁.trans (congrArg some heq))
        | none => exact Pool.add_ne hafter.1.registry fresh

/-- A predicate may ask another registry, the default one included. -/
theorem Stays.holds {w : Workspace} (h : Stays id r c w) (p : ImagePredicate) {i? : Option Nat}
    (hne : i?.or w.pool.default? ≠ some id) (callee : Callee) :
    Stays id r c (runOn (Action.holds p i? callee) w).2 := by
  have hrest : ∀ i, i ≠ id → Keeps (Stays id r c) (do return p.holds (← Action.lookup i callee)) :=
    fun i hi => (keeps_lookup hi callee).bind fun _ => keeps_pure _
  -- a registry that is given is another one; the default one is there or is made
  cases i? with
  | some i => exact hrest i (fun heq => hne (congrArg some heq)) w h
  | none =>
    have hkept := keeps_defaultRegistry w h
    show Stays id r c (runOn (Action.defaultRegistry >>= _) w).2
    rw [runOn_bind]
    cases hrun : runOn Action.defaultRegistry w with
    | mk result w' =>
      rw [hrun] at hkept
      cases result with
      | error e => exact hkept
      | ok i => exact hrest i (defaultRegistry_ne h hne hrun) w' hkept

/-- **What is spared.** A request that spares the registry and is no lookup in it leaves the
    registry and its catalog as they are. -/
theorem Request.stays {q : Request} {w : Workspace} (hq : q.Spares id r.catalog w)
    (hnone : q.lookup? id w = none) (hlasting : r.closesItself = false) (h : Stays id r c w) :
    Stays id r c (runOn q.perform w).2 := by
  -- one case for each request: what it touches is another registry or another catalog
  cases q with
  | lookup i callee =>
    have hne : i ≠ id := by
      rintro rfl
      simp [lookup?] at hnone
    exact keeps_only (keeps_lookup hne callee) w h
  | holds p i? callee =>
    have hne : i?.or w.pool.default? ≠ some id := by
      intro heq
      simp [lookup?, heq] at hnone
    rw [perform, runOn_only]
    exact h.holds p hne callee
  | failure i callee => exact keeps_only (keeps_failure i callee) w h
  | contains i => exact keeps_only (keeps_registry i) w h
  | build i s =>
    -- the pipeline may be run on the registry itself, since that keeps nothing
    by_cases hi : i = id
    · subst hi
      rw [perform, runOn_only, h.runOn_build hlasting]
      exact h.withRegistry rfl
    · exact keeps_only (keeps_build hi s) w h
  | lookupTogether i symbols threads =>
    exact keeps_only (keeps_lookupTogether hq symbols threads) w h
  | close i => exact keeps_close hq w h
  | newRegistry catalog? widths? => exact keeps_only (keeps_newRegistry catalog? widths?) w h
  | defaultRegistry => exact keeps_only keeps_defaultRegistry w h
  | resetDefault id? =>
    refine ⟨?_, h.catalog⟩
    show (w.pool.reset id?).get? id = some r
    rw [Pool.get?_reset hq, h.registry]
  | newCatalog c' => exact keeps_only (keeps_addCatalog (fun _ c' h => h.addCatalog c') c') w h
  | openCatalog path =>
    exact keeps_only (keeps_openCatalogFile (fun _ c' h => h.addCatalog c') path) w h
  | defaultCatalog =>
    exact keeps_only (keeps_defaultCatalog (fun _ c' h => h.addCatalog c')
      fun _ id? h => h.setDefaultCatalog id?) w h
  | loadData i data source => exact keeps_loadData hq data source w h
  | loadFile i path =>
    exact ((keeps_readCatalogFile path).bind fun data => keeps_loadData hq data _) w h
  | changeSettings f => exact keeps_changeSettings (fun _ s h => h.setSettings s) f w h
  | loadSettings path =>
    exact keeps_only (keeps_loadSettings (fun _ s h => h.setSettings s) path) w h
  | initSettings args? => exact keeps_initSettings (fun _ s h => h.setSettings s) args? w h
  | mount t => exact ⟨h.registry, h.catalog⟩

end Keeps

/-! ### Answers after a session -/

/-- The registry was made over the catalog with the widths, and keeps what its pipeline gave. -/
structure Runs (id cid : Nat) (c : Catalog) (widths : List Int) (trace : Trace) (r : Registry)
    (w : Workspace) : Prop where
  stays : Stays id r c w
  catalog : r.catalog = cid
  pipeline : r.pipeline c = KernelCalls.build (.ofCatalog c) c widths
  faithful : r.Faithful (r.pipeline c) trace.Answered trace.raised

/-- A request that looks a callee up in the registry ends as the lookup does. -/
theorem Request.runOn_perform_of_lookup {q : Request} {id : Nat} {w : Workspace} {callee : Callee}
    (h : q.lookup? id w = some callee) :
    runOn q.perform w = ((runOn (Action.lookup id callee) w).1.map fun _ => (),
      (runOn (Action.lookup id callee) w).2) := by
  -- only a lookup and a predicate look a callee up
  cases q with
  | lookup i other =>
    simp only [lookup?, Option.ite_none_right_eq_some, Option.some.injEq] at h
    obtain ⟨rfl, rfl⟩ := h
    exact runOn_only _ w
  | holds p i? other =>
    simp only [lookup?, Option.ite_none_right_eq_some, Option.some.injEq] at h
    obtain ⟨hid, rfl⟩ := h
    rw [perform, runOn_only, runOn_holds p hid]
    rcases runOn (Action.lookup id other) w with ⟨_ | _, w'⟩ <;> rfl
  | _ => cases h

/-- One lookup in the registry. -/
theorem Runs.lookup {id cid : Nat} {c : Catalog} {widths : List Int} {trace : Trace} {r : Registry}
    {w : Workspace} (h : Runs id cid c widths trace r w) (callee : Callee) :
    ∃ r', Runs id cid c widths
      ((callee, (runOn (Action.lookup id callee) w).1.map fun _ => ()) :: trace) r'
      (runOn (Action.lookup id callee) w).2 := by
  rw [h.stays.runOn_lookup]
  cases hs : callee.toSymbol with
  | error e =>
    -- nothing was looked up
    refine ⟨r, h.stays, h.catalog, h.pipeline, ?_⟩
    have hraised : Trace.raised ((callee, .error (.callee e)) :: trace) = trace.raised :=
      Trace.raised_cons _
    show Registry.Faithful r _ (Trace.Answered ((callee, .error (.callee e)) :: trace))
      (Trace.raised ((callee, .error (.callee e)) :: trace))
    rw [hraised]
    exact h.faithful.congr fun s => Trace.answered_cons_error
  | ok s =>
    -- the lookup answers as the pipeline does, and the registry stays faithful
    have hanswer := h.faithful.lookup_eq s
    obtain ⟨hcatalog, hpipeline⟩ := h.faithful.lookup_pipeline s
    refine ⟨(r.lookup (r.pipeline c) s).2, h.stays.withRegistry hcatalog, hcatalog.trans h.catalog,
      (congrFun hpipeline c).trans h.pipeline, ?_⟩
    rw [hpipeline]
    dsimp only
    rw [hanswer]
    cases hresult : Build.answer (r.pipeline c) s with
    | ok info =>
      have hraised : Trace.raised ((callee, .ok ()) :: trace) = trace.raised := Trace.raised_cons _
      show Registry.Faithful _ _ (Trace.Answered ((callee, .ok ()) :: trace))
        (Trace.raised ((callee, .ok ()) :: trace))
      rw [hraised]
      exact (h.faithful.lookup_ok hresult).congr fun s' => Trace.answered_cons_ok hs
    | error e =>
      obtain ⟨f, -, rfl⟩ := Build.exists_of_answer_error hresult
      have hraised : Trace.raised ((callee, .error (.registry (.fault f))) :: trace) =
          trace.raised + 1 := Trace.raised_cons _
      show Registry.Faithful _ _
        (Trace.Answered ((callee, .error (.registry (.fault f))) :: trace))
        (Trace.raised ((callee, .error (.registry (.fault f))) :: trace))
      rw [hraised]
      exact (h.faithful.lookup_error hresult).2.congr fun s' => Trace.answered_cons_error

/-- A request is a lookup in the registry, or leaves it and its catalog as they are. -/
theorem Runs.step {id cid : Nat} {c : Catalog} {widths : List Int} {trace : Trace} {r : Registry}
    {w : Workspace} (h : Runs id cid c widths trace r w) {q : Request} (hq : q.Spares id cid w) :
    ∃ r', Runs id cid c widths
      (((q.lookup? id w).map fun callee => (callee, (runOn q.perform w).1)).toList ++ trace) r'
      (runOn q.perform w).2 := by
  cases hlookup : q.lookup? id w with
  | some callee =>
    rw [Request.runOn_perform_of_lookup hlookup]
    exact h.lookup callee
  | none =>
    have hspared : q.Spares id r.catalog w := h.catalog ▸ hq
    have hstays := Request.stays hspared hlookup h.faithful.lasting h.stays
    exact ⟨r, hstays, h.catalog, h.pipeline, h.faithful⟩

/-- How a registry answers after a session in which its pipeline gave the same all the time. -/
structure Transparent (id : Nat) (uncached : Build) (trace : Trace) (r : Registry)
    (w : Workspace) : Prop where
  /-- A lookup ends as the pipeline does on the symbol of the callee. -/
  lookup : ∀ callee, (runOn (Action.lookup id callee) w).1 =
    (callee.toSymbol.mapError .callee).bind fun s => (uncached.answer s).mapError .registry
  /-- A predicate holds of the description that the pipeline gives. -/
  holds : ∀ p callee, (runOn (Action.holds p (some id) callee) w).1 =
    ((callee.toSymbol.mapError .callee).bind fun s =>
      (uncached.answer s).mapError .registry).map p.holds
  /-- So does the pipeline when it is run alone. -/
  build : ∀ s, (runOn (Action.build id s) w).1 = (uncached s).mapError .fault
  /-- There is no failure for a symbol without an answer. -/
  failure_none : ∀ callee s, callee.toSymbol = .ok s → ¬ trace.Answered s →
    (runOn (failure? id callee) w).1 = .ok none
  /-- For a symbol with an answer it is the failure that the pipeline gives. -/
  failure_some : ∀ callee s, callee.toSymbol = .ok s → trace.Answered s →
    ∃ info failure, uncached s = .ok (info, failure) ∧
      (runOn (failure? id callee) w).1 = .ok failure
  /-- The symbols that are kept are those with an answer. -/
  contains : ∀ s, r.contains s = true ↔ trace.Answered s
  /-- Failures are kept of those with the invalid description. -/
  failures : ∀ s, (r.failure? s).isSome ↔
    ∃ info, Table.find? s r.cache = some info ∧ info.isValid = false
  /-- No symbol is kept twice. -/
  distinct : r.cache.Distinct
  /-- The runs are those of the symbols that are kept and those that raised a fault. -/
  counted : r.buildCount = r.size + trace.raised
  /-- A lookup without an answer leaves everything that is kept as it is. -/
  unanswered : ∀ callee e w', runOn (Action.lookup id callee) w = (.error e, w') →
    ∃ r', w'.pool.get? id = some r' ∧ r'.cache = r.cache ∧ r'.failures = r.failures ∧
      r'.pending = r.pending

/-- A lookup of a callee ends as the pipeline does on its symbol. -/
theorem Runs.lookup_fst {id cid : Nat} {c : Catalog} {widths : List Int} {trace : Trace}
    {r : Registry} {w : Workspace} (h : Runs id cid c widths trace r w) (callee : Callee) :
    (runOn (Action.lookup id callee) w).1 = (callee.toSymbol.mapError .callee).bind fun s =>
      (Build.answer (r.pipeline c) s).mapError .registry := by
  rw [h.stays.runOn_lookup]
  cases callee.toSymbol with
  | error e => rfl
  | ok s =>
    dsimp only
    rw [h.faithful.lookup_eq]
    rfl

/-- A registry that keeps what its pipeline gave answers everything as the pipeline does. -/
theorem transparent_of_runs {id cid : Nat} {c : Catalog} {widths : List Int} {trace : Trace}
    {r : Registry} {w : Workspace} (h : Runs id cid c widths trace r w) :
    Transparent id (KernelCalls.build (.ofCatalog c) c widths) trace r w := by
  have hfaithful := h.faithful
  rw [← h.pipeline]
  -- each clause is read off what the registry keeps
  constructor
  case lookup => exact h.lookup_fst
  case holds =>
    intro p callee
    rw [runOn_holds p rfl callee, h.lookup_fst]
  case build =>
    intro s
    rw [h.stays.runOn_build hfaithful.lasting]
  case failure_none =>
    intro callee s hs hnone
    rw [h.stays.runOn_failure hs]
    cases hfailure : r.failure? s with
    | none => rfl
    | some f => exact absurd ((hfaithful.failures s f).mp hfailure).1 hnone
  case failure_some =>
    intro callee s hs hanswered
    obtain ⟨info, failure, hbuild⟩ := hfaithful.described s hanswered
    refine ⟨info, failure, hbuild, ?_⟩
    rw [h.stays.runOn_failure hs]
    refine congrArg Except.ok (Option.ext fun f => ?_)
    rw [Registry.failure?, hfaithful.failures]
    simp [hanswered, hbuild]
  case contains => exact hfaithful.contains_iff
  case failures =>
    refine hfaithful.failure_iff fun s info failure hbuild => ?_
    rw [h.pipeline] at hbuild
    exact build_failure_iff hbuild
  case distinct => exact hfaithful.distinct
  case counted => exact hfaithful.counted
  case unanswered =>
    intro callee e w' hrun
    rw [h.stays.runOn_lookup] at hrun
    cases hs : callee.toSymbol with
    | error missing =>
      rw [hs] at hrun
      cases hrun
      exact ⟨r, h.stays.registry, rfl, rfl, rfl⟩
    | ok s =>
      rw [hs] at hrun
      -- without an answer the pipeline raised a fault, which only counts the run
      obtain ⟨hresult, rfl⟩ := Prod.mk.inj hrun
      rw [hfaithful.lookup_eq] at hresult
      cases hanswer : Build.answer (r.pipeline c) s with
      | ok info =>
        rw [hanswer] at hresult
        cases hresult
      | error raised =>
        obtain ⟨hsame, -⟩ := hfaithful.lookup_error hanswer
        have hafter := h.stays.withRegistry (hfaithful.lookup_pipeline s).1
        exact ⟨_, hafter.registry, by rw [hsame], by rw [hsame], by rw [hsame]⟩

/-- **Transparency.** A registry that was made over a catalog with some widths answers after any
    session as the pipeline over that catalog with those widths does, whatever the settings and the
    other registries have become. -/
theorem Session.transparent {id cid : Nat} {c : Catalog} {widths : List Int} {w₀ w : Workspace}
    {trace : Trace} (hregistry : w₀.pool.get? id = some (.ofCatalog cid c widths))
    (hcatalog : w₀.catalogs[cid]? = some c) (h : Session id cid w₀ trace w) :
    ∃ r, w.pool.get? id = some r ∧
      Transparent id (KernelCalls.build (.ofCatalog c) c widths) trace r w := by
  obtain ⟨r, hruns⟩ : ∃ r, Runs id cid c widths trace r w := by
    -- induction on the session: a fresh registry is faithful, and every request keeps it so
    induction h with
    | start =>
      refine ⟨_, ⟨hregistry, hcatalog⟩, rfl, rfl, ?_⟩
      refine Registry.faithful_ofCatalog cid c widths _ fun s => ?_
      rintro ⟨callee, -, hmem⟩
      cases hmem
    | step _ q hq ih =>
      obtain ⟨r, hruns⟩ := ih
      exact hruns.step hq
  exact ⟨r, hruns.stays.registry, transparent_of_runs hruns⟩

/-- A workspace with a registry over a catalog of conversions. -/
def conversionRegistry : Workspace :=
  { Workspace.initial fun _ => .refused .missing with
    catalogs := [conversions]
    pool := ⟨[.ofCatalog 0 conversions [2, 16]], none⟩ }

/-- The call of a conversion to sixteen numbers. -/
def conversionCall : Text := "_Z21convert_int16_sat_rteDv16_f"

/-- Its description. -/
def conversionInfo : CallInfo :=
  ⟨true, .convert, "convert_int16_sat_rte", { Scalar.int.type with width := 16 },
    [{ Scalar.float.type with width := 16 }], conversionMatch.variant⟩

/-- What is asked: a call, then the same once more after the settings are gone and another registry,
    which only accepts other widths, was asked about it, a name that is no symbol, and a symbol that
    stops the pipeline. -/
def conversionRequests : List Request :=
  [.lookup 0 (.symbol conversionCall), .changeSettings fun _ => ⟨[], []⟩,
    .newRegistry (some 0) (some [2]), .lookup 1 (.symbol conversionCall),
    .lookup 0 (.symbol conversionCall), .lookup 0 (.symbol "bar"),
    .lookup 0 (.symbol Registry.onesSymbol), .close 1]

/-- The registry keeps the call and the name, has run the pipeline once more than that, and goes on
    to answer as before. -/
theorem transparent_conversionRegistry :
    let w := conversionRequests.foldl (fun w q => (runOn q.perform w).2) conversionRegistry
    ∃ r, w.pool.get? 0 = some r ∧ r.contains conversionCall = true ∧ r.contains "bar" = true ∧
      r.contains Registry.onesSymbol = false ∧ r.buildCount = r.size + 1 ∧
      (runOn (Action.lookup 0 (.symbol conversionCall)) w).1 = .ok conversionInfo ∧
      (runOn (failure? 0 (.symbol "bar")) w).1 = .ok (some (.miss "bar")) ∧
      ∃ k, (runOn (Action.lookup 0 (.symbol Registry.onesSymbol)) w).1 =
        .error (.registry (.fault (.number (.tooLongToRead k)))) := by
  -- what the pipeline comes to
  have hcall : KernelCalls.build (.ofCatalog conversions) conversions [2, 16] conversionCall =
      .ok (conversionInfo, none) := by
    rw [Matcher.ofCatalog_conversions]
    decide +kernel
  have hname : KernelCalls.build (.ofCatalog conversions) conversions [2, 16] "bar" =
      .ok (.invalid, some (.miss "bar")) := by
    rw [Matcher.ofCatalog_conversions]
    decide +kernel
  obtain ⟨k, hfault⟩ :=
    Registry.exists_build_onesSymbol (.ofCatalog conversions) conversions [2, 16]
  -- a lookup in the registry comes to the same at any time
  have hanswers : ∀ {trace w}, Session 0 0 conversionRegistry trace w → ∃ r,
      w.pool.get? 0 = some r ∧
      Transparent 0 (KernelCalls.build (.ofCatalog conversions) conversions [2, 16]) trace r w :=
    fun h => Session.transparent rfl rfl h
  have hlookup : ∀ {trace w s}, Session 0 0 conversionRegistry trace w →
      (runOn (Action.lookup 0 (.symbol s)) w).1 = (Build.answer (KernelCalls.build
        (.ofCatalog conversions) conversions [2, 16]) s).mapError .registry := by
    intro trace w s h
    obtain ⟨r, -, htransparent⟩ := hanswers h
    exact htransparent.lookup (.symbol s)
  have hlook : ∀ {trace w s result}, Session 0 0 conversionRegistry trace w →
      KernelCalls.build (.ofCatalog conversions) conversions [2, 16] s = result →
      Session 0 0 conversionRegistry
        ((.symbol s, (result.mapError fun f => .registry (.fault f)).map fun _ => ()) :: trace)
        (runOn (Request.lookup 0 (.symbol s)).perform w).2 := by
    intro trace w s result h hresult
    refine h.look ?_
    rw [Request.perform, runOn_only, hlookup h, Build.answer, hresult]
    cases result <;> rfl
  have hfirst := hlook .start hcall
  have hchanged := hfirst.pass (.changeSettings fun _ => ⟨[], []⟩) trivial rfl
  have hadded := hchanged.pass (.newRegistry (some 0) (some [2])) trivial rfl
  have hother := hadded.pass (.lookup 1 (.symbol conversionCall)) trivial rfl
  have hagain := hlook hother hcall
  have hnamed := hlook hagain hname
  have hraised := hlook hnamed hfault
  have hclosed := hraised.pass (.close 1) (by decide : (1 : Nat) ≠ 0) rfl
  obtain ⟨r, hr, htransparent⟩ := hanswers hclosed
  refine ⟨r, hr, ?call, ?name, ?ones, htransparent.counted, ?again, ?failure, k, ?raised⟩
  case call =>
    refine (htransparent.contains _).mpr ⟨.symbol conversionCall, rfl, ?_⟩
    exact List.mem_cons_of_mem _ (List.mem_cons_of_mem _ List.mem_cons_self)
  case name =>
    refine (htransparent.contains _).mpr ⟨.symbol "bar", rfl, ?_⟩
    exact List.mem_cons_of_mem _ List.mem_cons_self
  case ones =>
    -- the only lookup of the symbol was not answered
    refine Bool.eq_false_iff.mpr fun hcontains => ?_
    obtain ⟨callee, hs, hmem⟩ := (htransparent.contains _).mp hcontains
    simp only [List.mem_cons, List.not_mem_nil, or_false, Prod.mk.injEq] at hmem
    rcases hmem with ⟨-, hraised⟩ | ⟨rfl, -⟩ | ⟨rfl, -⟩ | ⟨rfl, -⟩
    · cases hraised
    · exact absurd (Except.ok.inj hs) (by decide)
    · exact absurd (Except.ok.inj hs) (by decide)
    · exact absurd (Except.ok.inj hs) (by decide)
  case again =>
    refine (hlookup hclosed).trans ?_
    rw [Build.answer, hcall]
    rfl
  case failure =>
    obtain ⟨info, failure, hbuild, hfailure⟩ := htransparent.failure_some (.symbol "bar") "bar" rfl
      ⟨.symbol "bar", rfl, List.mem_cons_of_mem _ List.mem_cons_self⟩
    rw [hname] at hbuild
    cases hbuild
    exact hfailure
  case raised =>
    refine (hlookup hclosed).trans ?_
    rw [Build.answer, hfault]
    rfl

end KernelCalls
