import KernelCalls.Registry.Concurrent
import KernelCalls.Proofs.Table

namespace KernelCalls

/-!
# Interleaved lookups

Any number of lookups on one registry take their steps in any order, closes in between, and every
run of the pipeline may end in any way. A symbol that is worked on has one lookup that owns the
work, and whoever waits for the end of a run waits for one that has ended or is owned.

* `Turn`, `turn_step` : the steps that a lookup can take, one by one.
* `Move`, `Machine.move`, `Reachable` : the machines that interleaved steps lead to, with what the
  pipeline came to in each of its runs.
* `Reachable.runRounds` : taking turns is one way to interleave.
* `Machine.Owner`, `Owned` : who owns which run, and that the registry has written this down.
* `Waits` : those who wait are not forgotten.
* `Reachable.owned`, `Reachable.waits` : both hold wherever steps lead.
* `ended_of_turns` : three turns of an owner end its run, whatever happens in between.
-/

/-! ### Steps -/

deriving instance DecidableEq for Phase, Task

/-- The run that a lookup owns where it stands. -/
def Phase.run? : Phase → Option Nat
  | .building run | .publishing run _ _ | .releasing run _ => some run
  | _ => none

/-- One step of a lookup of a symbol: where it stood and stands, the registry after it, and the run
    that it ended. -/
inductive Turn (build : Build) (r : Registry) (ended : List Nat) (s : Text) :
    Phase → Phase → Registry → Option Nat → Prop where
  | hit {info : CallInfo} (h : Table.find? s r.cache = some info) :
    Turn build r ended s .reading (.finished (.ok info)) r none
  | miss (h : Table.find? s r.cache = none) : Turn build r ended s .reading .claiming r none
  | refuse (h : r.closed = true) :
    Turn build r ended s .claiming (.finished (.error .closed)) r none
  | share {info : CallInfo} (hopen : r.closed = false) (h : Table.find? s r.cache = some info) :
    Turn build r ended s .claiming (.finished (.ok info)) r none
  | wait {run : Nat} (hopen : r.closed = false) (hcache : Table.find? s r.cache = none)
    (h : Table.find? s r.pending = some run) :
    Turn build r ended s .claiming (.waiting run) r none
  | own (hopen : r.closed = false) (hcache : Table.find? s r.cache = none)
    (hpending : Table.find? s r.pending = none) :
    Turn build r ended s .claiming (.building r.buildCount)
      { r with
        pending := r.pending.insert s r.buildCount
        buildCount := r.buildCount + 1 } none
  | wake {run : Nat} (h : run ∈ ended) : Turn build r ended s (.waiting run) .reading r none
  | sleep {run : Nat} (h : run ∉ ended) :
    Turn build r ended s (.waiting run) (.waiting run) r none
  | describe {run : Nat} {info : CallInfo} {failure : Option LookupFailure}
    (h : build s = .ok (info, failure)) :
    Turn build r ended s (.building run) (.publishing run info failure) r.startBuild none
  | raise {run : Nat} {f : Fault} (h : build s = .error f) :
    Turn build r ended s (.building run) (.releasing run (.error (.fault f))) r.startBuild none
  | publish {run : Nat} {info : CallInfo} {failure : Option LookupFailure} :
    Turn build r ended s (.publishing run info failure) (.releasing run (.ok info))
      (r.publish s info failure) none
  | release {run : Nat} {result : Except Registry.LookupError CallInfo} :
    Turn build r ended s (.releasing run result) (.finished result) (r.release s) (some run)
  | rest {result : Except Registry.LookupError CallInfo} :
    Turn build r ended s (.finished result) (.finished result) r none

/-- A lookup takes one of these steps. -/
theorem turn_step (build : Build) (r : Registry) (ended : List Nat) (t : Task) :
    Turn build r ended t.symbol t.phase (t.step build r ended).1 (t.step build r ended).2.1
      (t.step build r ended).2.2 := by
  obtain ⟨s, phase⟩ := t
  -- one case for each phase, and in it for each answer of the registry
  cases phase with
  | reading =>
    cases h : Table.find? s r.cache with
    | none => simpa [Task.step, h] using Turn.miss h
    | some info => simpa [Task.step, h] using Turn.hit h
  | claiming =>
    cases hclosed : r.closed with
    | true => simpa [Task.step, Registry.claim, hclosed] using Turn.refuse hclosed
    | false =>
      cases hcache : Table.find? s r.cache with
      | some info =>
        simpa [Task.step, Registry.claim, hclosed, hcache] using Turn.share hclosed hcache
      | none =>
        cases hpending : Table.find? s r.pending with
        | some run =>
          simpa [Task.step, Registry.claim, hclosed, hcache, hpending] using
            Turn.wait hclosed hcache hpending
        | none =>
          simpa [Task.step, Registry.claim, hclosed, hcache, hpending] using
            Turn.own hclosed hcache hpending
  | waiting run =>
    by_cases h : run ∈ ended
    · simpa [Task.step, h] using Turn.wake h
    · simpa [Task.step, h] using Turn.sleep h
  | building run =>
    cases h : build s with
    | error f => simpa [Task.step, h] using Turn.raise h
    | ok result => simpa [Task.step, h] using Turn.describe h
  | publishing run info failure => exact .publish
  | releasing run result => exact .release
  | finished result => exact .rest

/-! ### Moves -/

/-- What the pipeline comes to, where the next step of a lookup runs it. -/
def Task.outcome? (build : Build) (t : Task) : Option (Text × Except Fault CallInfo) :=
  match t.phase with
  | .building _ => some (t.symbol, (build t.symbol).map Prod.fst)
  | _ => none

/-- What can happen next: a lookup begins, one takes a step, in which the pipeline may end in any
    way, or the registry is closed. -/
inductive Move where
  | spawn (symbol : Text)
  | step (i : Nat) (build : Build)
  | close

namespace Machine

/-- The machine after a move. -/
def move (m : Machine) : Move → Machine
  | .spawn symbol => { m with tasks := m.tasks ++ [⟨symbol, .reading⟩] }
  | .step i build => m.step build i
  | .close => m.close

/-- What the pipeline comes to in a move, if it runs. -/
def outcome? (m : Machine) : Move → Option (Text × Except Fault CallInfo)
  | .step i build => m.tasks[i]?.bind (Task.outcome? build)
  | _ => none

/-- The machine after a turn of the lookup with the given number. -/
def turned (m : Machine) (i : Nat) (s : Text) (p : Phase) (r : Registry) (e : Option Nat) :
    Machine :=
  ⟨r, e.toList ++ m.ended, m.tasks.set i ⟨s, p⟩⟩

/-- A lookup after one has begun was there before, or is the new one. -/
theorem getElem?_spawn {m : Machine} {s : Text} {i : Nat} {t : Task}
    (h : (m.move (.spawn s)).tasks[i]? = some t) : m.tasks[i]? = some t ∨ t = ⟨s, .reading⟩ := by
  change (m.tasks ++ [⟨s, .reading⟩])[i]? = some t at h
  rcases Nat.lt_or_ge i m.tasks.length with hi | hi
  · rw [List.getElem?_append_left hi] at h
    exact .inl h
  · rw [List.getElem?_append_right hi] at h
    exact .inr (List.mem_singleton.mp (List.mem_of_getElem? h))

/-- The lookups that were there keep their numbers. -/
theorem getElem?_spawn_of_some {m : Machine} {s : Text} {i : Nat} {t : Task}
    (h : m.tasks[i]? = some t) : (m.move (.spawn s)).tasks[i]? = some t := by
  show (m.tasks ++ [⟨s, .reading⟩])[i]? = some t
  rw [List.getElem?_append_left (List.getElem?_eq_some_iff.mp h).1, h]

/-- The lookup that took the turn stands where the turn leads. -/
theorem getElem?_turned_self {m : Machine} {i : Nat} {t : Task} (ht : m.tasks[i]? = some t)
    (s : Text) (p : Phase) (r : Registry) (e : Option Nat) :
    (m.turned i s p r e).tasks[i]? = some ⟨s, p⟩ :=
  List.getElem?_set_self (List.getElem?_eq_some_iff.mp ht).1

/-- The others stand where they stood. -/
theorem getElem?_turned_of_ne {m : Machine} {i j : Nat} (hne : i ≠ j) (s : Text) (p : Phase)
    (r : Registry) (e : Option Nat) : (m.turned i s p r e).tasks[j]? = m.tasks[j]? :=
  List.getElem?_set_ne hne

/-- A step is a turn of the lookup, if there is one of that number. -/
theorem step_cases (m : Machine) (i : Nat) (build : Build) :
    (m.tasks[i]? = none ∧ m.step build i = m) ∨
      ∃ t p r e, m.tasks[i]? = some t ∧
        Turn build m.registry m.ended t.symbol t.phase p r e ∧
        m.step build i = m.turned i t.symbol p r e := by
  unfold step
  cases h : m.tasks[i]? with
  | none => exact .inl ⟨rfl, rfl⟩
  | some t => exact .inr ⟨t, _, _, _, rfl, turn_step build m.registry m.ended t, rfl⟩

/-- The lookup with the given number owns a run for the symbol. -/
def Owner (m : Machine) (i : Nat) (s : Text) (run : Nat) : Prop :=
  ∃ t, m.tasks[i]? = some t ∧ t.symbol = s ∧ t.phase.run? = some run

/-- Whether a lookup owns a run shows from where it stands. -/
theorem owner_iff {m : Machine} {i : Nat} {t : Task} (ht : m.tasks[i]? = some t) {s : Text}
    {run : Nat} : m.Owner i s run ↔ t.symbol = s ∧ t.phase.run? = some run := by
  constructor
  · rintro ⟨u, hu, h⟩
    cases ht.symm.trans hu
    exact h
  · exact fun h => ⟨t, ht, h⟩

/-- A turn of a lookup changes what that lookup owns. -/
theorem owner_turned {m : Machine} {i : Nat} {t : Task} (ht : m.tasks[i]? = some t) {p : Phase}
    {r : Registry} {e : Option Nat} {j run : Nat} {s : Text} :
    (m.turned i t.symbol p r e).Owner j s run ↔
      if i = j then t.symbol = s ∧ p.run? = some run else m.Owner j s run := by
  split
  · next h =>
    subst h
    exact owner_iff (getElem?_turned_self ht t.symbol p r e)
  · next h =>
    unfold Owner
    rw [getElem?_turned_of_ne h]

end Machine

/-- What the pipeline came to in each of its runs, the last one first. -/
abbrev RunLog := List (Text × Except Fault CallInfo)

/-- The machines that interleaved moves lead to from a registry without lookups, with what the
    pipeline came to in each of its runs. -/
inductive Reachable (r : Registry) : Machine → RunLog → Prop where
  | start : Reachable r (.start r []) []
  | move {m : Machine} {log : RunLog} (before : Reachable r m log) (next : Move) :
    Reachable r (m.move next) ((m.outcome? next).toList ++ log)

/-- Moves lead on from wherever moves have led. -/
theorem Reachable.moves {r : Registry} {m : Machine} {log : RunLog} (h : Reachable r m log)
    (moves : List Move) : ∃ log', Reachable r (moves.foldl Machine.move m) log' := by
  induction moves generalizing m log with
  | nil => exact ⟨log, h⟩
  | cons next rest ih => exact ih (h.move next)

/-- A machine with lookups about to begin is reached by beginning them. -/
theorem reachable_start (r : Registry) (symbols : List Text) :
    ∃ log, Reachable r (.start r symbols) log := by
  have hspawn : ∀ (m : Machine), (symbols.map Move.spawn).foldl Machine.move m =
      { m with tasks := m.tasks ++ symbols.map fun s => ⟨s, .reading⟩ } := by
    induction symbols with
    | nil => intro m; simp
    | cons s rest ih => intro m; simp [ih, Machine.move]
  obtain ⟨log, h⟩ := Reachable.start.moves (r := r) (symbols.map Move.spawn)
  rw [hspawn] at h
  exact ⟨log, h⟩

/-- Lookups that take their steps in turn are interleaved in one of the possible ways. -/
theorem Reachable.runRounds {r : Registry} {m : Machine} {log : RunLog} (h : Reachable r m log)
    (build : Build) (rounds : Nat) : ∃ log', Reachable r (m.runRounds build rounds) log' := by
  induction rounds generalizing m log with
  | zero => exact ⟨log, h⟩
  | succ rounds ih =>
    obtain ⟨log', h'⟩ := h.moves ((List.range m.tasks.length).map fun i => Move.step i build)
    rw [List.foldl_map] at h'
    exact ih h'

/-! ### Owners -/

/-- How a turn changes what a lookup owns: not at all, or it takes on the next run, or ends its
    own. -/
theorem Turn.owning {build : Build} {r r' : Registry} {ended : List Nat} {s : Text} {p p' : Phase}
    {e : Option Nat} (h : Turn build r ended s p p' r' e) :
    (p'.run? = p.run? ∧ r'.pending = r.pending ∧ r'.buildCount = r.buildCount ∧ e = none) ∨
      (p.run? = none ∧ p'.run? = some r.buildCount ∧ Table.find? s r.pending = none ∧
        r'.pending = r.pending.insert s r.buildCount ∧ r'.buildCount = r.buildCount + 1 ∧
        e = none) ∨
      ∃ run, p.run? = some run ∧ p'.run? = none ∧ r'.pending = r.pending.filter (·.1 ≠ s) ∧
        r'.buildCount = r.buildCount ∧ e = some run := by
  -- only a claim takes on a run, and only a release ends one
  cases h with
  | own _ _ hpending => exact .inr (.inl ⟨rfl, rfl, hpending, rfl, rfl, rfl⟩)
  | release => exact .inr (.inr ⟨_, rfl, rfl, rfl, rfl, rfl⟩)
  | describe | raise =>
    refine .inl ⟨rfl, ?_, ?_, rfl⟩ <;> unfold Registry.startBuild <;> split <;> rfl
  | publish =>
    refine .inl ⟨rfl, ?_, ?_, rfl⟩ <;> unfold Registry.publish <;> split <;> rfl
  | _ => exact .inl ⟨rfl, rfl, rfl, rfl⟩

/-- The registry has written down who works on what: the symbols that are worked on have one owner
    each, whose run is still going. -/
structure Owned (m : Machine) : Prop where
  registered : ∀ s run, Table.find? s m.registry.pending = some run ↔ ∃ i, m.Owner i s run
  single : ∀ {i j s s' run}, m.Owner i s run → m.Owner j s' run → i = j
  current : ∀ {i s run}, m.Owner i s run → run < m.registry.buildCount ∧ run ∉ m.ended
  past : ∀ run ∈ m.ended, run < m.registry.buildCount

/-- Whoever works on a symbol is the only one. -/
theorem Owned.unique {m : Machine} (h : Owned m) {i j run run' : Nat} {s : Text}
    (hi : m.Owner i s run) (hj : m.Owner j s run') : i = j ∧ run = run' := by
  have hrun := (h.registered s run).mpr ⟨i, hi⟩
  rw [(h.registered s run').mpr ⟨j, hj⟩] at hrun
  cases hrun
  exact ⟨h.single hi hj, rfl⟩

/-- At first nobody works on anything. -/
theorem Owned.start {r : Registry} (hpending : r.pending = []) : Owned (.start r []) where
  registered s run := by
    simp [Machine.start, Machine.Owner, hpending]
  single h := by simp [Machine.start, Machine.Owner] at h
  current h := by simp [Machine.start, Machine.Owner] at h
  past run h := by cases h

/-- What is owned only depends on the lookups, what is written down, and the runs so far. -/
theorem Owned.congr {m m' : Machine} (h : Owned m)
    (howner : ∀ i s run, m'.Owner i s run ↔ m.Owner i s run)
    (hpending : m'.registry.pending = m.registry.pending)
    (hcount : m'.registry.buildCount = m.registry.buildCount) (hended : m'.ended = m.ended) :
    Owned m' where
  registered s run := by simp only [hpending, howner, h.registered]
  single hi hj := h.single ((howner _ _ _).mp hi) ((howner _ _ _).mp hj)
  current hi := by
    rw [hcount, hended]
    exact h.current ((howner _ _ _).mp hi)
  past := by
    rw [hcount, hended]
    exact h.past

section Turned

variable {m : Machine} {i : Nat} {t : Task} {p : Phase} {r : Registry}

/-- A lookup takes on the next run for a symbol that nobody works on. -/
theorem Owned.own (h : Owned m) (ht : m.tasks[i]? = some t) (hnone : t.phase.run? = none)
    (hown : p.run? = some m.registry.buildCount)
    (hfree : Table.find? t.symbol m.registry.pending = none)
    (hpending : r.pending = m.registry.pending.insert t.symbol m.registry.buildCount)
    (hcount : r.buildCount = m.registry.buildCount + 1) :
    Owned (m.turned i t.symbol p r none) := by
  -- after the turn the owners are those of before and the lookup itself
  have howner : ∀ j s run, (m.turned i t.symbol p r none).Owner j s run ↔
      (i = j ∧ t.symbol = s ∧ m.registry.buildCount = run) ∨ m.Owner j s run := by
    intro j s run
    rw [Machine.owner_turned ht, hown, Option.some.injEq]
    split
    · next hij =>
      subst hij
      simp [Machine.owner_iff ht, hnone]
    · next hij => simp [hij]
  -- the new run is later than all others
  have hlater : ∀ {j s}, ¬ m.Owner j s m.registry.buildCount :=
    fun hj => Nat.lt_irrefl _ (h.current hj).1
  constructor
  case registered =>
    intro s run
    show Table.find? s r.pending = some run ↔ _
    simp only [hpending, Table.find?_insert, howner]
    split
    · next hs =>
      subst hs
      constructor
      · intro hrun
        cases hrun
        exact ⟨i, .inl ⟨rfl, rfl, rfl⟩⟩
      · rintro ⟨j, ⟨-, -, rfl⟩ | hj⟩
        · rfl
        · rw [(h.registered t.symbol run).mpr ⟨j, hj⟩] at hfree
          cases hfree
    · next hs => simp [hs, h.registered]
  case single =>
    intro j k s s' run hj hk
    rcases (howner _ _ _).mp hj with ⟨rfl, -, rfl⟩ | hj
    · rcases (howner _ _ _).mp hk with ⟨rfl, -, -⟩ | hk
      · rfl
      · exact absurd hk hlater
    · rcases (howner _ _ _).mp hk with ⟨rfl, -, rfl⟩ | hk
      · exact absurd hj hlater
      · exact h.single hj hk
  case current =>
    intro j s run hj
    show run < r.buildCount ∧ run ∉ m.ended
    rw [hcount]
    rcases (howner _ _ _).mp hj with ⟨-, -, rfl⟩ | hj
    · exact ⟨Nat.lt_succ_self _, fun hmem => Nat.lt_irrefl _ (h.past _ hmem)⟩
    · exact ⟨Nat.lt_succ_of_lt (h.current hj).1, (h.current hj).2⟩
  case past =>
    intro run hrun
    show run < r.buildCount
    rw [hcount]
    exact Nat.lt_succ_of_lt (h.past run hrun)

/-- A lookup ends its run. -/
theorem Owned.release (h : Owned m) (ht : m.tasks[i]? = some t) {run : Nat}
    (hrun : t.phase.run? = some run) (hnone : p.run? = none)
    (hpending : r.pending = m.registry.pending.filter (·.1 ≠ t.symbol))
    (hcount : r.buildCount = m.registry.buildCount) :
    Owned (m.turned i t.symbol p r (some run)) := by
  have hi : m.Owner i t.symbol run := ⟨t, ht, rfl, hrun⟩
  -- after the turn the owners are those of before but for the lookup itself
  have howner : ∀ j s run', (m.turned i t.symbol p r (some run)).Owner j s run' ↔
      i ≠ j ∧ m.Owner j s run' := by
    intro j s run'
    rw [Machine.owner_turned ht, hnone]
    split <;> simp_all
  constructor
  case registered =>
    intro s run'
    show Table.find? s r.pending = some run' ↔ _
    simp only [hpending, Table.find?_filter_ne, howner]
    split
    · next hs =>
      subst hs
      constructor
      · intro hnone
        cases hnone
      · rintro ⟨j, hne, hj⟩
        exact absurd (h.unique hi hj).1 hne
    · next hs =>
      rw [h.registered]
      refine exists_congr fun j => ⟨fun hj => ⟨?_, hj⟩, And.right⟩
      rintro rfl
      exact hs ((Machine.owner_iff ht).mp hj).1.symm
  case single =>
    intro j k s s' run' hj hk
    exact h.single ((howner _ _ _).mp hj).2 ((howner _ _ _).mp hk).2
  case current =>
    intro j s run' hj
    obtain ⟨hne, hbefore⟩ := (howner _ _ _).mp hj
    show run' < r.buildCount ∧ run' ∉ run :: m.ended
    rw [hcount, List.mem_cons, not_or]
    refine ⟨(h.current hbefore).1, ?_, (h.current hbefore).2⟩
    rintro rfl
    exact hne (h.single hi hbefore)
  case past =>
    intro run' hmem
    show run' < r.buildCount
    rw [hcount]
    rcases List.mem_cons.mp hmem with rfl | hmem
    · exact (h.current hi).1
    · exact h.past run' hmem

/-- A turn keeps the owners and what is written down in step. -/
theorem Owned.turned (h : Owned m) (ht : m.tasks[i]? = some t) {build : Build} {e : Option Nat}
    (hturn : Turn build m.registry m.ended t.symbol t.phase p r e) :
    Owned (m.turned i t.symbol p r e) := by
  rcases hturn.owning with ⟨hsame, hpending, hcount, rfl⟩ |
    ⟨hnone, hown, hfree, hpending, hcount, rfl⟩ | ⟨run, hrun, hnone, hpending, hcount, rfl⟩
  · refine h.congr (fun j s run => ?_) hpending hcount rfl
    rw [Machine.owner_turned ht, hsame]
    split
    · next hij =>
      subst hij
      exact (Machine.owner_iff ht).symm
    · exact Iff.rfl
  · exact h.own ht hnone hown hfree hpending hcount
  · exact h.release ht hrun hnone hpending hcount

end Turned

/-- A lookup that begins owns nothing. -/
theorem Owned.spawn {m : Machine} (h : Owned m) (s : Text) : Owned (m.move (.spawn s)) := by
  refine h.congr (fun i s' run => ?_) rfl rfl rfl
  constructor
  · rintro ⟨t, ht, hsymbol, hrun⟩
    rcases Machine.getElem?_spawn ht with ht | rfl
    · exact ⟨t, ht, hsymbol, hrun⟩
    · cases hrun
  · rintro ⟨t, ht, h⟩
    exact ⟨t, Machine.getElem?_spawn_of_some ht, h⟩

/-- A move keeps the owners and what is written down in step. -/
theorem Owned.move {m : Machine} (h : Owned m) (next : Move) : Owned (m.move next) := by
  cases next with
  | spawn s => exact h.spawn s
  | close => exact h.congr (fun _ _ _ => Iff.rfl) rfl rfl rfl
  | step i build =>
    rcases m.step_cases i build with ⟨-, heq⟩ | ⟨t, p, r, e, ht, hturn, heq⟩
    · rw [Machine.move, heq]
      exact h
    · rw [Machine.move, heq]
      exact h.turned ht hturn

/-- **Owners.** Wherever moves lead, every symbol that is worked on has one owner, which is what the
    registry has written down. -/
theorem Reachable.owned {r : Registry} (hpending : r.pending = []) {m : Machine}
    {log : RunLog} (h : Reachable r m log) : Owned m := by
  induction h with
  | start => exact .start hpending
  | move _ next ih => exact ih.move next

/-! ### Those who wait -/

/-- Whoever waits for a run of a symbol waits for one that has ended or is written down for the
    symbol. -/
def Waits (m : Machine) : Prop :=
  ∀ t ∈ m.tasks, ∀ run, t.phase = .waiting run →
    run ∈ m.ended ∨ Table.find? t.symbol m.registry.pending = some run

/-- Whoever waits has found the run written down, or waited before. -/
theorem Turn.waiting {build : Build} {r r' : Registry} {ended : List Nat} {s : Text} {p : Phase}
    {e : Option Nat} {run : Nat} (h : Turn build r ended s p (.waiting run) r' e) :
    r' = r ∧ e = none ∧ (p = .waiting run ∨ Table.find? s r.pending = some run) := by
  cases h with
  | wait _ _ h => exact ⟨rfl, rfl, .inr h⟩
  | sleep _ => exact ⟨rfl, rfl, .inl rfl⟩

/-- A run that is written down stays so, or it has ended. -/
theorem Turn.pending {build : Build} {r r' : Registry} {ended : List Nat} {s s' : Text}
    {p p' : Phase} {e : Option Nat} (h : Turn build r ended s p p' r' e) {run : Nat}
    (howned : ∀ run, p.run? = some run → Table.find? s r.pending = some run)
    (hrun : Table.find? s' r.pending = some run) :
    run ∈ e.toList ++ ended ∨ Table.find? s' r'.pending = some run := by
  rcases h.owning with ⟨-, hpending, -, -⟩ | ⟨-, -, hfree, hpending, -, -⟩ |
    ⟨mine, hmine, -, hpending, -, rfl⟩
  · rw [hpending]
    exact .inr hrun
  · refine .inr ?_
    rw [hpending, Table.find?_insert, if_neg ?_, hrun]
    rintro rfl
    rw [hfree] at hrun
    cases hrun
  · rw [hpending, Table.find?_filter_ne]
    by_cases hs : s' = s
    · -- the run of this symbol is the one that has just ended
      subst hs
      rw [howned mine hmine] at hrun
      cases hrun
      exact .inl List.mem_cons_self
    · exact .inr (by rw [if_neg hs, hrun])

/-- A move forgets nobody who waits. -/
theorem Waits.move {m : Machine} (h : Waits m) (howned : Owned m) (next : Move) :
    Waits (m.move next) := by
  intro u hu run hwaiting
  cases next with
  | spawn s =>
    rcases List.mem_append.mp hu with hu | hu
    · exact h u hu run hwaiting
    · rw [List.mem_singleton.mp hu] at hwaiting
      cases hwaiting
  | close => exact h u hu run hwaiting
  | step i build =>
    rcases m.step_cases i build with ⟨-, heq⟩ | ⟨t, p, r, e, ht, hturn, heq⟩
    · rw [Machine.move, heq] at hu ⊢
      exact h u hu run hwaiting
    · rw [Machine.move, heq] at hu ⊢
      show run ∈ e.toList ++ m.ended ∨ Table.find? u.symbol r.pending = some run
      -- the lookup that waits is another one, or the one that took the turn
      rcases List.mem_or_eq_of_mem_set hu with hu | rfl
      · rcases h u hu run hwaiting with hended | hrun
        · exact .inl (List.mem_append_right _ hended)
        · exact hturn.pending
            (fun mine hmine => (howned.registered _ _).mpr ⟨i, t, ht, rfl, hmine⟩) hrun
      · cases hwaiting
        obtain ⟨rfl, rfl, hbefore | hrun⟩ := hturn.waiting
        · exact h t (List.mem_of_getElem? ht) run hbefore
        · exact .inr hrun

/-- **Waiting.** Wherever moves lead, nobody waits for a run that is neither written down nor ended.
    -/
theorem Reachable.waits {r : Registry} (hpending : r.pending = []) {m : Machine}
    {log : RunLog} (h : Reachable r m log) : Waits m := by
  induction h with
  | start =>
    intro t ht
    cases ht
  | move before next ih => exact ih.move (before.owned hpending) next

/-! ### Turns of an owner -/

/-- How many turns a lookup takes to end its run. -/
def Phase.turnsLeft : Phase → Nat
  | .building _ => 3
  | .publishing _ _ _ => 2
  | .releasing _ _ => 1
  | _ => 0

/-- The move is a step of the lookup with the given number. -/
def Move.isTurnOf (i : Nat) : Move → Bool
  | .step j _ => i == j
  | _ => false

/-- An owner ends its run or has less left to do after its turn. -/
theorem Turn.turnsLeft {build : Build} {r r' : Registry} {ended : List Nat} {s : Text}
    {p p' : Phase} {e : Option Nat} {run : Nat} (h : Turn build r ended s p p' r' e)
    (hrun : p.run? = some run) :
    e = some run ∨ (p'.run? = some run ∧ p'.turnsLeft < p.turnsLeft) := by
  -- the pipeline, the publish and the release are all that an owner does
  cases h with
  | describe _ | raise _ | publish =>
    cases hrun
    exact .inr ⟨rfl, by simp [Phase.turnsLeft]⟩
  | release =>
    cases hrun
    exact .inl rfl
  | _ => cases hrun

/-- A run that has ended stays ended. -/
theorem Machine.ended_move {m : Machine} {run : Nat} (h : run ∈ m.ended) (next : Move) :
    run ∈ (m.move next).ended := by
  cases next with
  | spawn s => exact h
  | close => exact h
  | step i build =>
    rcases m.step_cases i build with ⟨-, heq⟩ | ⟨t, p, r, e, -, -, heq⟩
    · rw [move, heq]
      exact h
    · rw [move, heq]
      exact List.mem_append_right _ h

/-- It stays so through many moves. -/
theorem Machine.ended_moves {m : Machine} {run : Nat} (h : run ∈ m.ended) (moves : List Move) :
    run ∈ (moves.foldl move m).ended := by
  induction moves generalizing m with
  | nil => exact h
  | cons next rest ih => exact ih (ended_move h next)

/-- What an owner has left to do gets less with each of its turns, and with nothing else. -/
theorem Machine.turnsLeft_move {m : Machine} {i run : Nat} {t : Task} (ht : m.tasks[i]? = some t)
    (hrun : t.phase.run? = some run) (next : Move) :
    run ∈ (m.move next).ended ∨ ∃ u, (m.move next).tasks[i]? = some u ∧
      u.phase.run? = some run ∧
      u.phase.turnsLeft + (if next.isTurnOf i then 1 else 0) ≤ t.phase.turnsLeft := by
  cases next with
  | spawn s => exact .inr ⟨t, getElem?_spawn_of_some ht, hrun, by simp [Move.isTurnOf]⟩
  | close => exact .inr ⟨t, ht, hrun, by simp [Move.isTurnOf]⟩
  | step j build =>
    rcases m.step_cases j build with ⟨hnone, heq⟩ | ⟨t', p, r, e, ht', hturn, heq⟩
    · have hne : i ≠ j := by
        rintro rfl
        rw [hnone] at ht
        cases ht
      rw [move, heq]
      exact .inr ⟨t, ht, hrun, by simp [Move.isTurnOf, hne]⟩
    · rw [move, heq]
      -- a turn of the owner itself leaves less, and one of another lookup leaves it alone
      by_cases hij : i = j
      · subst hij
        cases ht.symm.trans ht'
        rcases hturn.turnsLeft hrun with rfl | ⟨hsame, hless⟩
        · exact .inl List.mem_cons_self
        · refine .inr ⟨⟨t.symbol, p⟩, getElem?_turned_self ht _ _ _ _, hsame, ?_⟩
          simpa [Move.isTurnOf, Nat.succ_le_iff] using hless
      · refine .inr ⟨t, ?_, hrun, by simp [Move.isTurnOf, hij]⟩
        rw [getElem?_turned_of_ne (Ne.symm hij), ht]

/-- **Turns.** Whatever moves are made, a run has ended once its owner has taken the turns that it
    had left. -/
theorem Machine.ended_of_turns {m : Machine} {i run : Nat} {t : Task}
    (ht : m.tasks[i]? = some t) (hrun : t.phase.run? = some run) {moves : List Move}
    (hturns : t.phase.turnsLeft ≤ moves.countP (Move.isTurnOf i)) :
    run ∈ (moves.foldl move m).ended := by
  -- induction on the moves, with the turns that are left as what they count down
  induction moves generalizing m t with
  | nil =>
    -- an owner has at least one turn left
    cases hphase : t.phase with
    | building | publishing | releasing =>
      rw [hphase] at hturns
      exact absurd hturns (by simp [Phase.turnsLeft])
    | _ =>
      rw [hphase] at hrun
      cases hrun
  | cons next rest ih =>
    rw [List.foldl_cons]
    rcases turnsLeft_move ht hrun next with hended | ⟨u, hu, hown, hleft⟩
    · exact ended_moves hended rest
    · refine ih hu hown ?_
      rw [List.countP_cons] at hturns
      omega

end KernelCalls
