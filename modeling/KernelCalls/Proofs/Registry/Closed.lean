import KernelCalls.Proofs.Registry.Sharing
import KernelCalls.Proofs.Registry.Transparent

namespace KernelCalls

/-!
# Closed registries

A close may come between any two steps of any lookups, also when the pipeline of one of them starts.
From then on nothing is kept and no run begins.  A lookup whose run is still going ends as that run
does, and every other lookup is told that the registry is closed.

* `Registry.Emptied`, `Reachable.emptied` : a registry that is closed keeps nothing.
* `Turn.of_emptied`, `Machine.emptied_moves` : it stays so, and no run begins.
* `Machine.after_turns` : what a lookup comes to in a number of turns, whatever the others do.
* `Phase.result?`, `Machine.answer_of_turns` : what a run has come to is what its lookup answers.
* `StaysClosed`, `Reachable.staysClosed` : what holds of a closed registry from then on.
* `Closes`, `Reachable.closes_close`, `Reachable.closes_building` : a close closes the registry, and
  so does the start of a pipeline that closes it.
* `Reachable.answers_and_staysClosed` : all this together.
-/

/-! ### Registries that keep nothing -/

namespace Registry

/-- The registry is closed and keeps nothing. -/
structure Emptied (r : Registry) : Prop where
  closed : r.closed = true
  cache : r.cache = []
  failures : r.failures = []

/-- A close drops all that is kept. -/
theorem emptied_close (r : Registry) : r.close.Emptied := ⟨rfl, rfl, rfl⟩

variable {r : Registry}

/-- Closing once more changes nothing. -/
theorem Emptied.close_eq (h : r.Emptied) : r.close = r := by
  obtain ⟨hclosed, hcache, hfailures⟩ := h
  cases r
  subst hclosed hcache hfailures
  rfl

/-- A pipeline that closes the registry finds it closed. -/
theorem Emptied.startBuild_eq (h : r.Emptied) : r.startBuild = r := by
  unfold startBuild
  split
  · exact h.close_eq
  · rfl

/-- The end of a run keeps nothing either. -/
theorem Emptied.release (h : r.Emptied) (s : Text) : (r.release s).Emptied :=
  ⟨h.closed, h.cache, h.failures⟩

/-- A lookup is refused, and its pipeline plays no part. -/
theorem Emptied.lookup_eq (h : r.Emptied) (build : Build) (s : Text) :
    r.lookup build s = (.error .closed, r) := by
  simp [lookup, claim, h.cache, h.closed]

end Registry

/-! ### Moves -/

/-- A turn in which the registry is closed also empties it. -/
theorem Turn.emptied {build : Build} {r r' : Registry} {ended : List Nat} {s : Text} {p p' : Phase}
    {e : Option Nat} (h : Turn build r ended s p p' r' e) (hr : r.closed = true → r.Emptied)
    (hclosed : r'.closed = true) : r'.Emptied := by
  -- turns that close the registry are the starts of a pipeline; the others find it closed
  cases h with
  | own hopen =>
    rw [show r.closed = true from hclosed] at hopen
    cases hopen
  | describe | raise =>
    unfold Registry.startBuild at hclosed ⊢
    split
    · exact r.emptied_close
    · next hlasting =>
      rw [if_neg hlasting] at hclosed
      exact hr hclosed
  | publish =>
    rw [Registry.closed_publish] at hclosed
    rw [Registry.publish_of_closed hclosed]
    exact hr hclosed
  | release => exact (hr hclosed).release s
  | _ => exact hr hclosed

/-- Wherever moves lead from an open registry, it keeps nothing once it is closed. -/
theorem Reachable.emptied {r : Registry} (hopen : r.closed = false) {m : Machine} {log : RunLog}
    (h : Reachable r m log) : m.registry.closed = true → m.registry.Emptied := by
  induction h with
  | start =>
    intro hclosed
    rw [show r.closed = true from hclosed] at hopen
    cases hopen
  | @move m log before next ih =>
    cases next with
    | spawn s => exact ih
    | close => exact fun _ => m.registry.emptied_close
    | step i build =>
      rcases m.step_cases i build with ⟨-, heq⟩ | ⟨t, p, r', e, -, hturn, heq⟩
      · rw [Machine.move, heq]
        exact ih
      · rw [Machine.move, heq]
        exact hturn.emptied ih

/-- On a registry that keeps nothing, a turn keeps nothing either, and nobody takes on a run. -/
theorem Turn.of_emptied {build : Build} {r r' : Registry} {ended : List Nat} {s : Text}
    {p p' : Phase} {e : Option Nat} (h : Turn build r ended s p p' r' e) (hr : r.Emptied) :
    r'.Emptied ∧ r'.buildCount = r.buildCount ∧
      ∀ run, p'.run? = some run → p.run? = some run := by
  -- a run cannot be claimed any more, and what is published is dropped
  cases h with
  | own hopen =>
    rw [hr.closed] at hopen
    cases hopen
  | describe | raise =>
    rw [hr.startBuild_eq]
    exact ⟨hr, rfl, fun _ => id⟩
  | publish =>
    rw [Registry.publish_of_closed hr.closed]
    exact ⟨hr, rfl, fun _ => id⟩
  | release => exact ⟨hr.release s, rfl, nofun⟩
  | _ => exact ⟨hr, rfl, nofun⟩

namespace Machine

/-- A move on a registry that keeps nothing leaves it so, counts no run, and gives no lookup a run
    that it did not own. -/
theorem emptied_move {m : Machine} (h : m.registry.Emptied) (next : Move) :
    (m.move next).registry.Emptied ∧
      (m.move next).registry.buildCount = m.registry.buildCount ∧
      ∀ i s run, (m.move next).Owner i s run → m.Owner i s run := by
  cases next with
  | spawn s =>
    refine ⟨h, rfl, ?_⟩
    rintro i s' run ⟨t, ht, hsymbol, hrun⟩
    rcases getElem?_spawn ht with ht | rfl
    · exact ⟨t, ht, hsymbol, hrun⟩
    · cases hrun
  | close => exact ⟨m.registry.emptied_close, rfl, fun _ _ _ => id⟩
  | step i build =>
    rcases m.step_cases i build with ⟨-, heq⟩ | ⟨t, p, r, e, ht, hturn, heq⟩
    · rw [move, heq]
      exact ⟨h, rfl, fun _ _ _ => id⟩
    · obtain ⟨hemptied, hcount, howns⟩ := hturn.of_emptied h
      rw [move, heq]
      refine ⟨hemptied, hcount, fun j s run hj => ?_⟩
      -- the lookup that took the turn owns nothing new, and the others stay as they are
      rw [owner_turned ht] at hj
      split at hj
      · next hij =>
        subst hij
        exact (owner_iff ht).mpr ⟨hj.1, howns run hj.2⟩
      · exact hj

/-- So do moves, one after the other. -/
theorem emptied_moves {m : Machine} (h : m.registry.Emptied) (moves : List Move) :
    (moves.foldl move m).registry.Emptied ∧
      (moves.foldl move m).registry.buildCount = m.registry.buildCount ∧
      ∀ i s run, (moves.foldl move m).Owner i s run → m.Owner i s run := by
  induction moves generalizing m with
  | nil => exact ⟨h, rfl, fun _ _ _ => id⟩
  | cons next rest ih =>
    obtain ⟨hemptied, hcount, howns⟩ := emptied_move h next
    obtain ⟨hemptied', hcount', howns'⟩ := ih hemptied
    exact ⟨hemptied', hcount'.trans hcount, fun i s run hi => howns i s run (howns' i s run hi)⟩

/-! ### One lookup among others -/

/-- To a lookup, a move is a turn of its own or nothing. -/
theorem getElem?_move {m : Machine} {i : Nat} {t : Task} (ht : m.tasks[i]? = some t)
    (next : Move) :
    (next.isTurnOf i = false ∧ (m.move next).tasks[i]? = some t) ∨
      ∃ build p r e, next = .step i build ∧
        Turn build m.registry m.ended t.symbol t.phase p r e ∧
        m.move next = m.turned i t.symbol p r e := by
  cases next with
  | spawn s => exact .inl ⟨rfl, getElem?_spawn_of_some ht⟩
  | close => exact .inl ⟨rfl, ht⟩
  | step j build =>
    -- a turn is one of this lookup only where it is the one that is stepped
    rcases m.step_cases j build with ⟨hnone, heq⟩ | ⟨u, p, r, e, hu, hturn, heq⟩
    · have hne : i ≠ j := by
        rintro rfl
        rw [hnone] at ht
        cases ht
      refine .inl ⟨by simp [Move.isTurnOf, hne], ?_⟩
      rw [move, heq, ht]
    · by_cases hij : i = j
      · subst hij
        cases ht.symm.trans hu
        exact .inr ⟨build, p, r, e, rfl, hturn, heq⟩
      · refine .inl ⟨by simp [Move.isTurnOf, hij], ?_⟩
        rw [move, heq, getElem?_turned_of_ne (Ne.symm hij), ht]

/-- Without a turn of its own a lookup stays where it is. -/
theorem getElem?_moves {m : Machine} {i : Nat} {t : Task} (ht : m.tasks[i]? = some t)
    {moves : List Move} (hnone : moves.countP (Move.isTurnOf i) = 0) :
    (moves.foldl move m).tasks[i]? = some t := by
  induction moves generalizing m with
  | nil => exact ht
  | cons next rest ih =>
    rw [List.countP_cons, Nat.add_eq_zero_iff] at hnone
    obtain ⟨hrest, hnext⟩ := hnone
    rcases getElem?_move ht next with ⟨-, hsame⟩ | ⟨build, p, r, e, rfl, -, -⟩
    · exact ih hsame hrest
    · exact absurd hnext (by simp [Move.isTurnOf])

/-- What every turn of a lookup brings closer is reached in as many turns, whatever the others do,
    as long as they keep what the turns rely on. -/
theorem after_turns (relied : Machine → Prop) (near : Nat → Phase → Prop)
    (hrelied : ∀ m next, relied m → relied (m.move next)) {s : Text}
    (hnear : ∀ {m build n p p' r e}, relied m → near n p →
      Turn build m.registry m.ended s p p' r e → near (n - 1) p')
    {m : Machine} (hm : relied m) {i n : Nat} {p : Phase} (hi : m.tasks[i]? = some ⟨s, p⟩)
    (hp : near n p) (moves : List Move) :
    ∃ p', (moves.foldl move m).tasks[i]? = some ⟨s, p'⟩ ∧
      near (n - moves.countP (Move.isTurnOf i)) p' := by
  -- induction on the moves: a turn of the lookup itself brings the end closer, any other move keeps
  -- what is relied on
  induction moves generalizing m n p with
  | nil => exact ⟨p, hi, hp⟩
  | cons next rest ih =>
    rw [List.foldl_cons, List.countP_cons]
    rcases getElem?_move hi next with ⟨hother, hsame⟩ | ⟨build, p', r, e, rfl, hturn, heq⟩
    · rw [hother]
      exact ih (hrelied m next hm) hsame hp
    · have hturned : (m.move (.step i build)).tasks[i]? = some ⟨s, p'⟩ := by
        rw [heq]
        exact getElem?_turned_self hi s p' r e
      obtain ⟨q, hq, hnearer⟩ := ih (hrelied m _ hm) hturned (hnear hm hp hturn)
      refine ⟨q, hq, ?_⟩
      simp only [Move.isTurnOf, beq_self_eq_true, if_true]
      rwa [Nat.sub_sub, Nat.add_comm 1] at hnearer

end Machine

/-! ### Answers -/

/-- What a lookup is going to answer, once its run has come to it. -/
def Phase.result? : Phase → Option (Except Registry.LookupError CallInfo)
  | .publishing _ info _ => some (.ok info)
  | .releasing _ result | .finished result => some result
  | _ => none

/-- What a run has come to stays, and the end of the lookup comes closer. -/
theorem Turn.result {build : Build} {r r' : Registry} {ended : List Nat} {s : Text} {p p' : Phase}
    {e : Option Nat} (h : Turn build r ended s p p' r' e)
    {result : Except Registry.LookupError CallInfo} (hresult : p.result? = some result) :
    p'.result? = some result ∧ p'.turnsLeft ≤ p.turnsLeft - 1 := by
  cases h with
  | publish | release | rest => exact ⟨hresult, by simp [Phase.turnsLeft]⟩
  | _ => cases hresult

/-- The pipeline comes to what the lookup is going to answer. -/
theorem Turn.result_of_building {build : Build} {r r' : Registry} {ended : List Nat} {s : Text}
    {p' : Phase} {e : Option Nat} {run : Nat} (h : Turn build r ended s (.building run) p' r' e) :
    p'.result? = some (build.answer s) ∧ p'.turnsLeft ≤ 2 := by
  cases h with
  | describe hbuild | raise hbuild =>
    rw [Build.answer, hbuild]
    exact ⟨rfl, by simp [Phase.turnsLeft]⟩

/-- A lookup that has nothing left to do has its answer. -/
theorem Phase.eq_finished {p : Phase} {result : Except Registry.LookupError CallInfo}
    (hresult : p.result? = some result) (hleft : p.turnsLeft = 0) : p = .finished result := by
  cases p with
  | finished =>
    cases hresult
    rfl
  | publishing | releasing => cases hleft
  | _ => cases hresult

/-- **Answers.** What a run has come to is what its lookup answers, whatever else happens. -/
theorem Machine.answer_of_turns {m : Machine} {i : Nat} {s : Text} {p : Phase}
    {result : Except Registry.LookupError CallInfo} (hi : m.tasks[i]? = some ⟨s, p⟩)
    (hresult : p.result? = some result) {moves : List Move}
    (hturns : p.turnsLeft ≤ moves.countP (Move.isTurnOf i)) :
    (moves.foldl move m).tasks[i]? = some ⟨s, .finished result⟩ := by
  obtain ⟨p', hi', hresult', hleft⟩ := after_turns (fun _ => True)
    (fun n p => p.result? = some result ∧ p.turnsLeft ≤ n) (fun _ _ _ => trivial)
    (fun _ hnear hturn => by
      obtain ⟨hsame, hless⟩ := hturn.result hnear.1
      exact ⟨hsame, by omega⟩) trivial hi ⟨hresult, Nat.le_refl _⟩ moves
  rw [hi', Phase.eq_finished hresult' (by omega)]

/-- A lookup that runs the pipeline answers what the pipeline comes to. -/
theorem Machine.answer_of_building {m : Machine} {i : Nat} {s : Text} {run : Nat}
    (hi : m.tasks[i]? = some ⟨s, .building run⟩) {before rest : List Move} (build : Build)
    (hbefore : before.countP (Move.isTurnOf i) = 0) (hrest : 2 ≤ rest.countP (Move.isTurnOf i)) :
    ((before ++ .step i build :: rest).foldl move m).tasks[i]? =
      some ⟨s, .finished (build.answer s)⟩ := by
  rw [List.foldl_append, List.foldl_cons]
  have hstill := getElem?_moves hi hbefore
  -- the turn runs the pipeline; from then on the answer is settled
  rcases getElem?_move hstill (.step i build) with ⟨hother, -⟩ | ⟨build', p, r, e, heq, hturn, hm⟩
  · simp [Move.isTurnOf] at hother
  · cases heq
    obtain ⟨hresult, hleft⟩ := hturn.result_of_building
    refine answer_of_turns ?_ hresult (Nat.le_trans hleft hrest)
    rw [hm]
    exact getElem?_turned_self hstill s p r e

/-! ### Refusals -/

/-- The lookup owns no run, and if it has an answer, it is that the registry is closed. -/
def Phase.Refused (p : Phase) : Prop :=
  p.run? = none ∧ ∀ result, p.result? = some result → result = .error .closed

/-- A lookup without a run and without an answer has not been told anything else. -/
theorem Phase.refused_of_none {p : Phase} (hrun : p.run? = none) (hresult : p.result? = none) :
    p.Refused :=
  ⟨hrun, by simp [hresult]⟩

/-- On a registry that keeps nothing, a lookup without a run and without an answer is refused. -/
theorem Turn.refused {build : Build} {r r' : Registry} {ended : List Nat} {s : Text} {p p' : Phase}
    {e : Option Nat} (h : Turn build r ended s p p' r' e) (hr : r.Emptied) (hp : p.Refused) :
    p'.Refused := by
  -- nothing is kept to be found, nothing can be claimed, and it owns no run to go on with
  cases h with
  | hit hinfo | share _ hinfo =>
    rw [hr.cache] at hinfo
    cases hinfo
  | own hopen =>
    rw [hr.closed] at hopen
    cases hopen
  | refuse =>
    refine ⟨rfl, fun result hresult => ?_⟩
    cases hresult
    rfl
  | rest => exact hp
  | miss | wait | wake | sleep => exact Phase.refused_of_none rfl rfl
  | describe | raise | publish | release => cases hp.1

/-- The lookup is refused within so many turns. -/
def Phase.RefusedIn (n : Nat) : Phase → Prop
  | .reading => 2 ≤ n
  | .claiming => 1 ≤ n
  | .finished result => result = .error .closed
  | _ => False

/-- Every turn of a lookup that begins on a closed registry brings its refusal closer. -/
theorem Turn.refusedIn {build : Build} {r r' : Registry} {ended : List Nat} {s : Text}
    {p p' : Phase} {e : Option Nat} {n : Nat} (h : Turn build r ended s p p' r' e)
    (hr : r.Emptied) (hp : p.RefusedIn n) : p'.RefusedIn (n - 1) := by
  cases h with
  | hit hinfo | share _ hinfo =>
    rw [hr.cache] at hinfo
    cases hinfo
  | wait hopen | own hopen =>
    rw [hr.closed] at hopen
    cases hopen
  | miss => exact Nat.le_sub_one_of_lt hp
  | refuse => rfl
  | rest => exact hp
  | wake | sleep | describe | raise | publish | release => exact hp.elim

namespace Machine

/-- A lookup that begins once the registry is closed is refused in two turns. -/
theorem refused_of_spawn {m : Machine} (h : m.registry.Emptied) (s : Text) {moves : List Move}
    (hturns : 2 ≤ moves.countP (Move.isTurnOf m.tasks.length)) :
    (moves.foldl move (m.move (.spawn s))).tasks[m.tasks.length]? =
      some ⟨s, .finished (.error .closed)⟩ := by
  have hnew : (m.move (.spawn s)).tasks[m.tasks.length]? = some ⟨s, .reading⟩ := by
    show (m.tasks ++ [⟨s, .reading⟩])[m.tasks.length]? = _
    rw [List.getElem?_append_right (Nat.le_refl _), Nat.sub_self]
    rfl
  obtain ⟨p, hp, hnear⟩ := after_turns (fun m => m.registry.Emptied) Phase.RefusedIn
    (fun _ next hm => (emptied_move hm next).1)
    (fun hm hnear hturn => hturn.refusedIn hm hnear) (show (m.move (.spawn s)).registry.Emptied
      from h) hnew (show Phase.RefusedIn 2 .reading from Nat.le_refl 2) moves
  -- no turns are left, so it has its answer
  rw [Nat.sub_eq_zero_of_le hturns] at hnear
  rw [hp]
  cases p with
  | reading | claiming => exact absurd hnear (by simp [Phase.RefusedIn])
  | finished result => rw [show result = .error .closed from hnear]
  | _ => exact hnear.elim

/-- Once the registry is closed, lookups without a run and without an answer are refused, those
    that begin later among them. -/
theorem refused_moves {m : Machine} (h : m.registry.Emptied) {i : Nat}
    (hbefore : ∀ t, m.tasks[i]? = some t → t.phase.Refused) (moves : List Move) :
    ∀ t, (moves.foldl move m).tasks[i]? = some t → t.phase.Refused := by
  -- induction on the moves, for a lookup that is there or will be
  induction moves generalizing m with
  | nil => exact hbefore
  | cons next rest ih =>
    refine ih (emptied_move h next).1 fun t ht => ?_
    cases hi : m.tasks[i]? with
    | some u =>
      rcases getElem?_move hi next with ⟨-, hsame⟩ | ⟨build, p, r, e, rfl, hturn, heq⟩
      · cases hsame.symm.trans ht
        exact hbefore _ hi
      · rw [heq, getElem?_turned_self hi] at ht
        cases ht
        exact hturn.refused h (hbefore u hi)
    | none =>
      -- the lookup has just begun
      cases next with
      | spawn s =>
        rcases getElem?_spawn ht with ht | rfl
        · cases hi.symm.trans ht
        · exact Phase.refused_of_none rfl rfl
      | close => cases hi.symm.trans ht
      | step j build =>
        rcases m.step_cases j build with ⟨-, heq⟩ | ⟨u, p, r, e, hu, -, heq⟩
        · rw [move, heq] at ht
          cases hi.symm.trans ht
        · have hij : j ≠ i := by
            rintro rfl
            cases hi.symm.trans hu
          rw [move, heq, getElem?_turned_of_ne hij] at ht
          cases hi.symm.trans ht

end Machine

/-! ### After a close -/

/-- What holds of a machine with a closed registry, and of the machine that any moves make of it. -/
structure StaysClosed (m : Machine) (moves : List Move) : Prop where
  /-- Nothing is kept. -/
  emptied : (moves.foldl Machine.move m).registry.Emptied
  /-- No run has begun. -/
  counted : (moves.foldl Machine.move m).registry.buildCount = m.registry.buildCount
  /-- Closing once more changes nothing. -/
  again : (moves.foldl Machine.move m).move .close = moves.foldl Machine.move m
  /-- The pipeline runs only for lookups that had claimed their symbol. -/
  pipeline : ∀ next s outcome,
    (moves.foldl Machine.move m).outcome? next = some (s, outcome) → ∃ i run, m.Owner i s run
  /-- A lookup that begins now is refused in its first two turns. -/
  late : ∀ s (more : List Move),
    2 ≤ more.countP (Move.isTurnOf (moves.foldl Machine.move m).tasks.length) →
    (more.foldl Machine.move ((moves.foldl Machine.move m).move (.spawn s))).tasks[
      (moves.foldl Machine.move m).tasks.length]? = some ⟨s, .finished (.error .closed)⟩
  /-- So is a lookup without others, whatever its pipeline. -/
  alone : ∀ build s, (moves.foldl Machine.move m).registry.lookup build s =
    (.error .closed, (moves.foldl Machine.move m).registry)
  /-- A lookup that had neither a run nor an answer, or begins later, has no other answer. -/
  refused : ∀ i : Nat,
    (∀ t, m.tasks[i]? = some t → t.phase.run? = none ∧ t.phase.result? = none) →
    ∀ t, (moves.foldl Machine.move m).tasks[i]? = some t → t.phase.Refused
  /-- A lookup whose run had come to something answers just that. -/
  settled : ∀ (i : Nat) s p result, m.tasks[i]? = some ⟨s, p⟩ → p.result? = some result →
    2 ≤ moves.countP (Move.isTurnOf i) →
    (moves.foldl Machine.move m).tasks[i]? = some ⟨s, .finished result⟩
  /-- Once the owner of a run has taken three turns, nothing is written down for the symbol. -/
  released : ∀ i s run, m.Owner i s run → 3 ≤ moves.countP (Move.isTurnOf i) →
    Table.find? s (moves.foldl Machine.move m).registry.pending = none

/-- The pipeline runs for the owner of a run. -/
theorem Machine.owner_of_outcome {m : Machine} {next : Move} {s : Text}
    {outcome : Except Fault CallInfo} (h : m.outcome? next = some (s, outcome)) :
    ∃ i run, m.Owner i s run := by
  cases next with
  | spawn | close => cases h
  | step i build =>
    obtain ⟨t, ht, hrun⟩ := Option.bind_eq_some_iff.mp h
    unfold Task.outcome? at hrun
    split at hrun
    · next run hphase =>
      cases hrun
      exact ⟨i, run, t, ht, rfl, by rw [hphase]; rfl⟩
    · cases hrun

/-- In a closed registry a symbol is no longer written down once the owner of its run has taken
    three turns. -/
theorem Reachable.released_of_turns {r : Registry} (hpending : r.pending = []) {m : Machine}
    {log : RunLog} (h : Reachable r m log) (hempty : m.registry.Emptied) {i : Nat} {s : Text}
    {run : Nat} (hi : m.Owner i s run) (moves : List Move)
    (hturns : 3 ≤ moves.countP (Move.isTurnOf i)) :
    Table.find? s (moves.foldl Machine.move m).registry.pending = none := by
  obtain ⟨log', hafter⟩ := h.moves moves
  have howned := hafter.owned hpending
  obtain ⟨-, -, howns⟩ := Machine.emptied_moves hempty moves
  obtain ⟨t, ht, rfl, hrun⟩ := hi
  have hended := Machine.ended_of_turns ht hrun (Nat.le_trans t.phase.turnsLeft_le hturns)
  cases hfound : Table.find? t.symbol (moves.foldl Machine.move m).registry.pending with
  | none => rfl
  | some run' =>
    -- whoever owns it now owned it before, and the only owner has ended its run
    obtain ⟨j, hj⟩ := (howned.registered _ _).mp hfound
    obtain ⟨-, rfl⟩ := (h.owned hpending).unique ⟨t, ht, rfl, hrun⟩ (howns j _ run' hj)
    exact absurd hended (howned.current hj).2

/-- What a move does that closes the registry. -/
structure Closes (m m' : Machine) : Prop where
  /-- Nothing is kept any more. -/
  emptied : m'.registry.Emptied
  /-- No run is counted. -/
  counted : m'.registry.buildCount = m.registry.buildCount
  /-- Everybody keeps the run that they own. -/
  owners : ∀ i s run, m'.Owner i s run ↔ m.Owner i s run
  /-- And so it stays, whatever moves follow. -/
  stays : ∀ moves, StaysClosed m' moves

/-- Once a registry is closed, nothing is kept and nothing begins, whatever moves follow. -/
theorem Reachable.staysClosed {r : Registry} (hopen : r.closed = false) (hpending : r.pending = [])
    {m : Machine} {log : RunLog} (h : Reachable r m log) (hclosed : m.registry.closed = true)
    (moves : List Move) : StaysClosed m moves := by
  have hempty := h.emptied hopen hclosed
  obtain ⟨hemptied, hcount, howns⟩ := Machine.emptied_moves hempty moves
  constructor
  case emptied => exact hemptied
  case counted => exact hcount
  case again =>
    show Machine.close _ = _
    rw [Machine.close, hemptied.close_eq]
  case pipeline =>
    intro next s outcome houtcome
    obtain ⟨i, run, hi⟩ := Machine.owner_of_outcome houtcome
    exact ⟨i, run, howns i s run hi⟩
  case late => exact fun s more => Machine.refused_of_spawn hemptied s
  case alone => exact hemptied.lookup_eq
  case refused =>
    intro i hbefore
    refine Machine.refused_moves hempty (fun t ht => ?_) moves
    obtain ⟨hrun, hresult⟩ := hbefore t ht
    exact Phase.refused_of_none hrun hresult
  case settled =>
    intro i s p result hi hresult hturns
    -- who has an answer has at most two turns left
    refine Machine.answer_of_turns hi hresult (Nat.le_trans ?_ hturns)
    cases p with
    | building => cases hresult
    | _ => simp [Phase.turnsLeft]
  case released => exact fun i s run hi => h.released_of_turns hpending hempty hi moves

/-- A close that comes between the steps of the lookups closes the registry. -/
theorem Reachable.closes_close {r : Registry} (hopen : r.closed = false)
    (hpending : r.pending = []) {m : Machine} {log : RunLog} (h : Reachable r m log) :
    Closes m (m.move .close) where
  emptied := m.registry.emptied_close
  counted := rfl
  owners _ _ _ := Iff.rfl
  stays moves := (h.move .close).staysClosed hopen hpending rfl moves

/-- No turn changes whether the pipeline closes the registry. -/
theorem Turn.closesItself_eq {build : Build} {r r' : Registry} {ended : List Nat} {s : Text}
    {p p' : Phase} {e : Option Nat} (h : Turn build r ended s p p' r' e) :
    r'.closesItself = r.closesItself := by
  cases h with
  | describe | raise =>
    unfold Registry.startBuild
    split <;> rfl
  | publish =>
    unfold Registry.publish
    split <;> rfl
  | _ => rfl

/-- Nor does any other move. -/
theorem Reachable.closesItself_eq {r : Registry} {m : Machine} {log : RunLog}
    (h : Reachable r m log) : m.registry.closesItself = r.closesItself := by
  induction h with
  | start => rfl
  | @move m _ _ next ih =>
    cases next with
    | spawn | close => exact ih
    | step i build =>
      rcases m.step_cases i build with ⟨-, heq⟩ | ⟨t, p, r', e, -, hturn, heq⟩
      · rw [Machine.move, heq, ih]
      · rw [Machine.move, heq]
        exact hturn.closesItself_eq.trans ih

/-- A pipeline that closes the registry does so when it starts, also in the run of a lookup that
    still has to publish. -/
theorem Reachable.closes_building {r : Registry} (hopen : r.closed = false)
    (hpending : r.pending = []) (hcloses : r.closesItself = true) {m : Machine} {log : RunLog}
    (h : Reachable r m log) {i : Nat} {s : Text} {run : Nat}
    (hi : m.tasks[i]? = some ⟨s, .building run⟩) (build : Build) :
    Closes m (m.move (.step i build)) := by
  have hstart : m.registry.startBuild = m.registry.close :=
    if_pos (h.closesItself_eq.trans hcloses)
  -- however the pipeline ends, its start is a close, and the lookup keeps its run
  obtain ⟨p, hp, heq⟩ : ∃ p, p.run? = some run ∧
      m.move (.step i build) = m.turned i s p m.registry.close none := by
    rcases Machine.getElem?_move hi (.step i build) with ⟨hother, -⟩ | ⟨_, p, _, _, -, hturn, heq⟩
    · simp [Move.isTurnOf] at hother
    · cases hturn with
      | describe | raise => exact ⟨_, rfl, hstart ▸ heq⟩
  constructor
  case emptied =>
    rw [heq]
    exact m.registry.emptied_close
  case counted => rw [heq]; rfl
  case owners =>
    intro j s' run'
    rw [heq, Machine.owner_turned hi]
    split
    · next hij =>
      subst hij
      rw [Machine.owner_iff hi, hp]
      rfl
    · exact Iff.rfl
  case stays =>
    intro moves
    refine (h.move _).staysClosed hopen hpending ?_ moves
    rw [heq]
    rfl

/-- **After a close.** Wherever moves lead from a fresh registry, whose pipeline may also close it,
    a lookup answers what its run of the pipeline comes to, closes in between or not.  Once the
    registry is closed, nothing is kept and nothing begins, whatever moves follow.  It is closed by
    a close, wherever that comes, and by the start of a pipeline that closes it. -/
theorem Reachable.answers_and_staysClosed {id : Nat} {c : Catalog} {widths : List Int}
    {closesItself : Bool} {m : Machine} {log : RunLog}
    (h : Reachable { Registry.ofCatalog id c widths with closesItself } m log) :
    (∀ i s run before build rest, m.tasks[i]? = some ⟨s, .building run⟩ →
      before.countP (Move.isTurnOf i) = 0 → 2 ≤ rest.countP (Move.isTurnOf i) →
      ((before ++ Move.step i build :: rest).foldl Machine.move m).tasks[i]? =
        some ⟨s, .finished (build.answer s)⟩) ∧
    (m.registry.closed = true → ∀ moves, StaysClosed m moves) ∧
    Closes m (m.move .close) ∧
    (closesItself = true → ∀ i s run build, m.tasks[i]? = some ⟨s, .building run⟩ →
      Closes m (m.move (.step i build))) := by
  refine ⟨?answers, ?closed, ?close, ?building⟩
  case answers =>
    exact fun i s run before build rest hi => Machine.answer_of_building hi build
  case closed => exact h.staysClosed rfl rfl
  case close => exact h.closes_close rfl rfl
  case building =>
    exact fun hcloses i s run build hi => h.closes_building rfl rfl hcloses hi build

/-- A lookup whose run closes the registry, up to where it is about to publish. -/
def closingMoves : List Move :=
  let describes : Build := fun _ => .ok (.invalid, none)
  [.spawn "f", .step 0 describes, .step 0 describes, .step 0 describes]

/-- It ends. -/
def closedMoves : List Move :=
  let describes : Build := fun _ => .ok (.invalid, none)
  [.step 0 describes, .step 0 describes, .step 0 describes]

/-- One lookup has its answer, and two others have claimed their symbols. -/
def claimingMoves : List Move :=
  let describes : Build := fun _ => .ok (.invalid, none)
  [.spawn "e", .step 0 describes, .step 0 describes, .step 0 describes, .step 0 describes,
    .step 0 describes, .spawn "f", .spawn "g", .step 1 describes, .step 1 describes,
    .step 2 describes, .step 2 describes]

/-- Of the two, one describes its symbol and the other raises a fault, and both end. -/
def endedMoves : List Move :=
  let describes : Build := fun _ => .ok (.invalid, none)
  let raises : Build := fun _ => .error (.number .tooLongToWrite)
  [.step 1 describes, .step 2 raises, .step 1 describes, .step 2 raises, .step 1 describes,
    .step 2 raises]

/-- The lookup that closed the registry answers what its run described, the next one is refused, and
    nothing is kept, counted or written down.  So it is where a close comes from outside, between
    the claims of two lookups and what they publish: both answer what their runs come to. -/
theorem staysClosed_closing :
    (let r : Registry := { Registry.ofCatalog 0 .empty [2] with closesItself := true }
    let describes : Build := fun _ => .ok (.invalid, none)
    let before := closingMoves.foldl Machine.move (.start r [])
    let after := closedMoves.foldl Machine.move before
    before.registry.closed = true ∧ before.Owner 0 "f" 0 ∧
      after.tasks[0]? = some ⟨"f", .finished (.ok .invalid)⟩ ∧
      Table.find? ("f" : Text) after.registry.pending = none ∧
      after.registry.Emptied ∧ after.registry.buildCount = before.registry.buildCount ∧
      ([.step 1 describes, .step 1 describes].foldl Machine.move
        (after.move (.spawn "f"))).tasks[1]? = some ⟨"f", .finished (.error .closed)⟩) ∧
    (let r : Registry := { Registry.ofCatalog 0 .empty [2] with closesItself := false }
    let before := claimingMoves.foldl Machine.move (.start r [])
    let after := endedMoves.foldl Machine.move (before.move .close)
    before.registry.closed = false ∧ before.registry.size = 1 ∧
      before.Owner 1 "f" 1 ∧ before.Owner 2 "g" 2 ∧
      (before.move .close).registry.Emptied ∧
      (before.move .close).registry.buildCount = before.registry.buildCount ∧
      after.tasks[1]? = some ⟨"f", .finished (.ok .invalid)⟩ ∧
      after.tasks[2]? = some ⟨"g", .finished (.error (.fault (.number .tooLongToWrite)))⟩ ∧
      Table.find? ("f" : Text) after.registry.pending = none ∧
      Table.find? ("g" : Text) after.registry.pending = none ∧
      after.registry.Emptied ∧ after.registry.buildCount = before.registry.buildCount ∧
      after.move .close = after) := by
  constructor
  · intro r describes before after
    obtain ⟨log, hbefore⟩ := Reachable.start.moves (r := r) closingMoves
    have hclosed : before.registry.closed = true := by decide +kernel
    have hfirst : before.tasks[0]? = some ⟨"f", .publishing 0 .invalid none⟩ := by
      decide +kernel
    have howner : before.Owner 0 "f" 0 := ⟨_, hfirst, rfl, rfl⟩
    have hstays : StaysClosed before closedMoves :=
      (@Reachable.answers_and_staysClosed 0 .empty [2] true _ _ hbefore).2.1 hclosed _
    have hsettled := hstays.settled 0 "f" _ _ hfirst rfl (by decide)
    have hreleased := hstays.released 0 "f" 0 howner (by decide)
    have hlate := hstays.late "f" [.step 1 describes, .step 1 describes]
    rw [show (closedMoves.foldl Machine.move before).tasks.length = 1 by decide +kernel] at hlate
    rw [show after = closedMoves.foldl Machine.move before from rfl]
    exact ⟨hclosed, howner, hsettled, hreleased, hstays.emptied, hstays.counted, hlate (by decide)⟩
  · intro r before after
    obtain ⟨log, hbefore⟩ : ∃ log, Reachable r before log := Reachable.start.moves claimingMoves
    have hopen : before.registry.closed = false := by decide +kernel
    have hsize : before.registry.size = 1 := by decide +kernel
    have hfirst : before.tasks[1]? = some ⟨"f", .building 1⟩ := by decide +kernel
    have hsecond : before.tasks[2]? = some ⟨"g", .building 2⟩ := by decide +kernel
    -- from here on it only counts where the two lookups stand
    clear_value before
    have howner : before.Owner 1 "f" 1 := ⟨_, hfirst, rfl, rfl⟩
    have howner' : before.Owner 2 "g" 2 := ⟨_, hsecond, rfl, rfl⟩
    obtain ⟨hanswers, -, hcloses, -⟩ :=
      @Reachable.answers_and_staysClosed 0 .empty [2] false _ _ hbefore
    have hstays := hcloses.stays endedMoves
    have hdescribed := hanswers 1 "f" 1 [.close] (fun _ => .ok (.invalid, none)) endedMoves.tail
      hfirst (by decide) (by decide)
    have hraised := hanswers 2 "g" 2 (.close :: endedMoves.take 1)
      (fun _ => .error (.number .tooLongToWrite)) (endedMoves.drop 2) hsecond (by decide)
      (by decide)
    have hreleased := hstays.released 1 "f" 1 ((hcloses.owners 1 "f" 1).mpr howner) (by decide)
    have hreleased' := hstays.released 2 "g" 2 ((hcloses.owners 2 "g" 2).mpr howner') (by decide)
    exact ⟨hopen, hsize, howner, howner', hcloses.emptied, hcloses.counted, hdescribed, hraised,
      hreleased, hreleased', hstays.emptied, hstays.counted.trans hcloses.counted, hstays.again⟩

end KernelCalls
