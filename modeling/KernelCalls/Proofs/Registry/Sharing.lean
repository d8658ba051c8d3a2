import KernelCalls.Proofs.Registry.Interleaving

namespace KernelCalls

/-!
# Shared work

While a registry is open, a symbol is described at most once, whatever the order in which the
lookups of the symbol take their steps: all of them are given the description that is kept.

* `RunLog.described`, `RunLog.raised` : the runs that described their symbol, and those that raised.
* `Answers`, `Stands` : what the registry and the runs say of a lookup, by where it stands.
* `Accounted` : every lookup and everything kept is accounted for by the runs, and the runs are
  counted.
* `Shares`, `Accounted.shared` : what holds of all lookups, and why.
* `Reachable.shares` : it holds wherever moves lead.
-/

/-! ### Runs -/

namespace RunLog

/-- The symbols of the runs that ended with a description. -/
def described (log : RunLog) : List Text :=
  log.filterMap fun p => p.2.toOption.map fun _ => p.1

/-- The number of runs that raised a fault. -/
def raised (log : RunLog) : Nat := log.countP fun p => !p.2.isOk

@[simp] theorem described_cons_ok (s : Text) (info : CallInfo) (log : RunLog) :
    described ((s, .ok info) :: log) = s :: described log := rfl

@[simp] theorem described_cons_error (s : Text) (f : Fault) (log : RunLog) :
    described ((s, .error f) :: log) = described log := rfl

@[simp] theorem raised_cons_ok (s : Text) (info : CallInfo) (log : RunLog) :
    raised ((s, .ok info) :: log) = raised log := by
  simp [raised, Except.isOk, Except.toBool]

@[simp] theorem raised_cons_error (s : Text) (f : Fault) (log : RunLog) :
    raised ((s, .error f) :: log) = raised log + 1 := by
  simp [raised, Except.isOk, Except.toBool]

/-- A symbol that was described has a run that ended with a description. -/
theorem exists_of_mem_described {log : RunLog} {s : Text} (h : s ∈ described log) :
    ∃ info, (s, .ok info) ∈ log := by
  obtain ⟨⟨s', outcome⟩, hmem, heq⟩ := List.mem_filterMap.mp h
  cases outcome with
  | error f => cases heq
  | ok info =>
    cases heq
    exact ⟨info, hmem⟩

/-- A run ends with a description or with a fault. -/
theorem length_eq (log : RunLog) : log.length = (described log).length + raised log := by
  induction log with
  | nil => rfl
  | cons p rest ih =>
    obtain ⟨s, outcome⟩ := p
    cases outcome with
    | ok info =>
      rw [described_cons_ok, raised_cons_ok, List.length_cons, List.length_cons, ih]
      omega
    | error f =>
      rw [described_cons_error, raised_cons_error, List.length_cons, ih]
      omega

end RunLog

/-! ### Phases that are counted -/

namespace Phase

/-- The lookup is about to start the pipeline. -/
def isBuilding : Phase → Bool
  | .building _ => true
  | _ => false

@[simp] theorem isBuilding_building (run : Nat) : (building run).isBuilding = true := rfl

/-- The lookup is about to publish. -/
def isPublishing : Phase → Bool
  | .publishing _ _ _ => true
  | _ => false

@[simp] theorem isPublishing_building (run : Nat) : (building run).isPublishing = false := rfl

/-- The lookup met a fault in its own run. -/
def isFaulted : Phase → Bool
  | .releasing _ (.error (.fault _)) | .finished (.error (.fault _)) => true
  | _ => false

end Phase

/-- A fault is counted from the end of the run on. -/
theorem Phase.isFaulted_releasing (run : Nat) (result : Except Registry.LookupError CallInfo) :
    (Phase.releasing run result).isFaulted = (Phase.finished result).isFaulted := by
  cases result with
  | ok info => rfl
  | error e => cases e <;> rfl

/-- The number of lookups that stand in a certain way. -/
def Machine.count (m : Machine) (q : Phase → Bool) : Nat := m.tasks.countP fun t => q t.phase

/-- A turn changes a count by the lookup that takes it. -/
theorem Machine.count_turned {m : Machine} {i : Nat} {t : Task} (ht : m.tasks[i]? = some t)
    (p : Phase) (r : Registry) (e : Option Nat) (q : Phase → Bool) :
    (m.turned i t.symbol p r e).count q + (if q t.phase then 1 else 0) =
      m.count q + if q p then 1 else 0 := by
  obtain ⟨hi, hget⟩ := List.getElem?_eq_some_iff.mp ht
  have hset := List.countP_set (p := fun u : Task => q u.phase) (a := ⟨t.symbol, p⟩) hi
  rw [hget] at hset
  show List.countP _ (m.tasks.set i ⟨t.symbol, p⟩) + _ = List.countP _ m.tasks + _
  cases hq : q t.phase with
  | false =>
    rw [hset, hq]
    simp
  | true =>
    -- the lookup itself was counted before
    have hpos : 0 < m.tasks.countP fun u => q u.phase :=
      List.countP_pos_iff.mpr ⟨t, List.mem_of_getElem? ht, hq⟩
    rw [hset, hq]
    simp only [if_true]
    omega

/-- A lookup that begins is not counted among those that have gone further. -/
theorem Machine.count_spawn (m : Machine) (s : Text) {q : Phase → Bool}
    (hq : q .reading = false) : (m.move (.spawn s)).count q = m.count q := by
  show List.countP _ (m.tasks ++ [⟨s, .reading⟩]) = List.countP _ m.tasks
  rw [List.countP_append]
  simp [hq]

/-- The lookup with the given number is about to publish the description of the symbol. -/
def Machine.Publishes (m : Machine) (i : Nat) (s : Text) (info : CallInfo) : Prop :=
  ∃ run failure, m.tasks[i]? = some ⟨s, .publishing run info failure⟩

/-- Where such a lookup stands. -/
theorem Machine.Publishes.stands {m : Machine} {i : Nat} {s : Text} {info : CallInfo}
    (h : m.Publishes i s info) {t : Task} (ht : m.tasks[i]? = some t) :
    t.symbol = s ∧ ∃ run failure, t.phase = .publishing run info failure := by
  obtain ⟨run, failure, hi⟩ := h
  cases ht.symm.trans hi
  exact ⟨rfl, run, failure, rfl⟩

/-- Such a lookup owns a run. -/
theorem Machine.Publishes.owner {m : Machine} {i : Nat} {s : Text} {info : CallInfo}
    (h : m.Publishes i s info) : ∃ run, m.Owner i s run := by
  obtain ⟨run, failure, hi⟩ := h
  exact ⟨run, _, hi, rfl, rfl⟩

/-! ### Accounts -/

/-- The answer of a lookup is accounted for: a description and a fault are what a run of the symbol
    came to, and a description is kept while the registry is open. -/
def Answers (r : Registry) (log : RunLog) (s : Text) :
    Except Registry.LookupError CallInfo → Prop
  | .ok info => (s, .ok info) ∈ log ∧ (r.closed = false → Table.find? s r.cache = some info)
  | .error (.fault f) => (s, .error f) ∈ log
  | .error .closed => r.closed = true
  | .error .stalled => False

/-- A lookup is accounted for where it stands. While the registry is open, a symbol that is worked
    on is not kept until its description is published. -/
def Stands (r : Registry) (log : RunLog) (t : Task) : Prop :=
  match t.phase with
  | .building _ => r.closed = false → Table.find? t.symbol r.cache = none
  | .publishing _ info _ =>
    (t.symbol, .ok info) ∈ log ∧ (r.closed = false → Table.find? t.symbol r.cache = none)
  | .releasing _ result | .finished result => Answers r log t.symbol result
  | _ => True

/-- All that lookups were told and all that is kept comes from the runs, and all runs are counted.
    While the registry is open, what a run came to is kept or about to be published. -/
structure Accounted (m : Machine) (log : RunLog) : Prop where
  stands : ∀ (i : Nat) t, m.tasks[i]? = some t → Stands m.registry log t
  cached : ∀ s info, Table.find? s m.registry.cache = some info → (s, .ok info) ∈ log
  kept : m.registry.closed = false → ∀ s info, (s, .ok info) ∈ log →
    Table.find? s m.registry.cache = some info ∨
      ∃ i, m.Publishes i s info
  once : m.registry.closed = false → log.described.Nodup
  started : m.registry.buildCount = log.length + m.count Phase.isBuilding
  faulted : m.count Phase.isFaulted = log.raised
  size : m.registry.closed = false →
    m.registry.cache.length + m.count Phase.isPublishing = log.described.length

/-- A lookup stays accounted for while its symbol is left as it is. -/
theorem Answers.mono {r r' : Registry} {log log' : RunLog} {s : Text}
    {result : Except Registry.LookupError CallInfo} (h : Answers r log s result)
    (hopen : r'.closed = false → r.closed = false) (hlog : log ⊆ log')
    (hsome : r'.closed = false → ∀ info, Table.find? s r.cache = some info →
      Table.find? s r'.cache = some info) : Answers r' log' s result := by
  -- a description has to be kept still, a fault is a run that stays, and a close is for good
  cases result with
  | ok info => exact ⟨hlog h.1, fun ho => hsome ho info (h.2 (hopen ho))⟩
  | error e =>
    cases e with
    | fault f => exact hlog h
    | stalled => exact h
    | closed =>
      cases hclosed : r'.closed with
      | true => exact hclosed
      | false =>
        have hbefore : r.closed = true := h
        rw [hopen hclosed] at hbefore
        cases hbefore

/-- A lookup stays accounted for where it stands while its symbol is left as it is. -/
theorem Stands.mono {r r' : Registry} {log log' : RunLog} {t : Task} (h : Stands r log t)
    (hopen : r'.closed = false → r.closed = false) (hlog : log ⊆ log')
    (hsome : r'.closed = false → ∀ info, Table.find? t.symbol r.cache = some info →
      Table.find? t.symbol r'.cache = some info)
    (hnone : r'.closed = false → ∀ run, t.phase.run? = some run →
      Table.find? t.symbol r.cache = none → Table.find? t.symbol r'.cache = none) :
    Stands r' log' t := by
  obtain ⟨s, phase⟩ := t
  -- owners rely on their symbol not being kept, the others on what is kept
  cases phase with
  | building run => exact fun ho => hnone ho run rfl (h (hopen ho))
  | publishing run info failure =>
    exact ⟨hlog h.1, fun ho => hnone ho run rfl (h.2 (hopen ho))⟩
  | releasing run result => exact Answers.mono h hopen hlog hsome
  | finished result => exact Answers.mono h hopen hlog hsome
  | _ => trivial

/-! ### Moves keep accounts -/

/-- At first there is nothing to account for. -/
theorem Accounted.start {r : Registry} (hcache : r.cache = []) (hcount : r.buildCount = 0) :
    Accounted (.start r []) [] where
  stands i t ht := by simp [Machine.start] at ht
  cached s info h := by
    change Table.find? s r.cache = some info at h
    rw [hcache] at h
    cases h
  kept _ s info h := by cases h
  once _ := List.nodup_nil
  started := hcount
  faulted := rfl
  size _ := by
    show r.cache.length + 0 = 0
    rw [hcache]
    rfl

/-- A lookup that begins has nothing to account for. -/
theorem Accounted.spawn {m : Machine} {log : RunLog} (h : Accounted m log) (s : Text) :
    Accounted (m.move (.spawn s)) log where
  stands i t ht := by
    -- the others stand where they stood, and the new one has nothing to account for
    rcases Machine.getElem?_spawn ht with ht | rfl
    · exact h.stands i t ht
    · trivial
  cached := h.cached
  kept ho s' info hinfo := by
    refine (h.kept ho s' info hinfo).imp id ?_
    rintro ⟨i, run, failure, hi⟩
    exact ⟨i, run, failure, Machine.getElem?_spawn_of_some hi⟩
  once := h.once
  started := by
    rw [Machine.count_spawn m s rfl]
    exact h.started
  faulted := by
    rw [Machine.count_spawn m s rfl]
    exact h.faulted
  size := by
    rw [Machine.count_spawn m s rfl]
    exact h.size

/-- A close keeps nothing, so that only the runs are left to account for. -/
theorem Accounted.close {m : Machine} {log : RunLog} (h : Accounted m log) :
    Accounted (m.move .close) log where
  stands i t ht := (h.stands i t ht).mono nofun (List.Subset.refl _) nofun nofun
  cached s info hinfo := by cases hinfo
  kept := nofun
  once := nofun
  started := h.started
  faulted := h.faulted
  size := nofun

section Turned

variable {m : Machine} {log : RunLog} {i : Nat} {t : Task} {p : Phase} {r : Registry}
  {e : Option Nat}

/-- After a turn everyone is accounted for if the lookup that took it is, and the others still
    are. -/
theorem stands_turned (ht : m.tasks[i]? = some t)
    (hself : Stands r log ⟨t.symbol, p⟩)
    (hothers : ∀ (j : Nat) u, i ≠ j → m.tasks[j]? = some u → Stands r log u) (j : Nat) (u : Task)
    (hu : (m.turned i t.symbol p r e).tasks[j]? = some u) : Stands r log u := by
  by_cases hij : i = j
  · subst hij
    rw [Machine.getElem?_turned_self ht] at hu
    cases hu
    exact hself
  · rw [Machine.getElem?_turned_of_ne hij] at hu
    exact hothers j u hij hu

/-- A lookup that is about to publish still is after the turn of another one. -/
theorem publishes_turned {j : Nat} {s s' : Text} {info : CallInfo} (h : m.Publishes j s info)
    (hij : i ≠ j) : (m.turned i s' p r e).Publishes j s info := by
  obtain ⟨run, failure, hj⟩ := h
  exact ⟨run, failure, by rw [Machine.getElem?_turned_of_ne hij, hj]⟩

/-- After a turn, what runs came to was kept before or is still about to be published, apart from
    what the lookup that took the turn was about to publish itself. -/
theorem Accounted.kept_turned (h : Accounted m log) (ht : m.tasks[i]? = some t)
    (ho : m.registry.closed = false) {s : Text} {info : CallInfo} (hinfo : (s, .ok info) ∈ log)
    (hother : t.symbol = s → t.phase.isPublishing = false) :
    Table.find? s m.registry.cache = some info ∨
      ∃ j, (m.turned i t.symbol p r e).Publishes j s info := by
  -- whoever was about to publish it is another lookup
  refine (h.kept ho s info hinfo).imp id ?_
  rintro ⟨j, hj⟩
  refine ⟨j, publishes_turned hj ?_⟩
  rintro rfl
  obtain ⟨hsymbol, run, failure, hphase⟩ := hj.stands ht
  have hnot := hother hsymbol
  rw [hphase] at hnot
  cases hnot

/-- A turn without the pipeline that leaves everything kept as it is. -/
theorem Accounted.quiet (h : Accounted m log) (ht : m.tasks[i]? = some t)
    (hcache : r.cache = m.registry.cache) (hclosed : r.closed = m.registry.closed)
    (hcount : r.buildCount + (if t.phase.isBuilding then 1 else 0) =
      m.registry.buildCount + if p.isBuilding then 1 else 0)
    (hpublishing : t.phase.isPublishing = false) (hpublishing' : p.isPublishing = false)
    (hfaulted : p.isFaulted = t.phase.isFaulted)
    (hstands : Stands m.registry log ⟨t.symbol, p⟩) :
    Accounted (m.turned i t.symbol p r e) log := by
  have hopen : r.closed = false → m.registry.closed = false := fun ho => hclosed.symm.trans ho
  -- nothing that is kept has changed, so everyone stays accounted for
  have hmono : ∀ u : Task, Stands m.registry log u → Stands r log u := by
    intro u hu
    refine hu.mono hopen (List.Subset.refl _) (fun _ info => ?_) fun _ run _ => ?_
    · rw [hcache]
      exact id
    · rw [hcache]
      exact id
  constructor
  case stands =>
    exact stands_turned ht (hmono _ hstands) fun j u _ hu => hmono u (h.stands j u hu)
  case cached =>
    show ∀ s info, Table.find? s r.cache = some info → _
    rw [hcache]
    exact h.cached
  case kept =>
    intro ho s info hinfo
    show Table.find? s r.cache = some info ∨ _
    rw [hcache]
    exact h.kept_turned ht (hopen ho) hinfo fun _ => hpublishing
  case once => exact fun ho => h.once (hopen ho)
  case started =>
    -- it counts as before: building and run on both sides
    have hturned := Machine.count_turned ht p r e Phase.isBuilding
    have hstarted := h.started
    show r.buildCount = _
    omega
  case faulted =>
    have hturned := Machine.count_turned ht p r e Phase.isFaulted
    rw [hfaulted] at hturned
    have := h.faulted
    omega
  case size =>
    intro ho
    have hturned := Machine.count_turned ht p r e Phase.isPublishing
    rw [hpublishing, hpublishing'] at hturned
    have hsize := h.size (hopen ho)
    show r.cache.length + _ = _
    rw [hcache]
    simp only [Bool.false_eq_true, if_false] at hturned
    omega

/-- While the registry is open, no run has described a symbol whose owner is about to start the
    pipeline. -/
theorem Accounted.not_described (h : Accounted m log) (howned : Owned m)
    (ho : m.registry.closed = false) {s : Text} {run : Nat}
    (ht : m.tasks[i]? = some ⟨s, .building run⟩) : s ∉ log.described := by
  intro hmem
  obtain ⟨info, hinfo⟩ := RunLog.exists_of_mem_described hmem
  -- it would be kept, which the owner has found it is not, or about to be published by another
  -- owner
  rcases h.kept ho s info hinfo with hcached | ⟨j, hj⟩
  · have hnone : Table.find? s m.registry.cache = none := h.stands i _ ht ho
    rw [hnone] at hcached
    cases hcached
  · obtain ⟨run', hrun'⟩ := hj.owner
    obtain ⟨rfl, -⟩ := howned.unique ⟨_, ht, rfl, rfl⟩ hrun'
    obtain ⟨-, _, _, hphase⟩ := hj.stands ht
    cases hphase

end Turned

namespace Registry

/-- A registry that is open after its pipeline has started was not touched by it. -/
theorem startBuild_of_open {r : Registry} (h : r.startBuild.closed = false) : r.startBuild = r := by
  unfold startBuild at h ⊢
  split
  · next hcloses =>
    rw [if_pos hcloses] at h
    cases h
  · rfl

@[simp] theorem buildCount_startBuild (r : Registry) : r.startBuild.buildCount = r.buildCount := by
  unfold startBuild
  split <;> rfl

/-- The start of a pipeline keeps nothing new. -/
theorem find?_of_find?_startBuild {r : Registry} {s : Text} {info : CallInfo}
    (h : Table.find? s r.startBuild.cache = some info) : Table.find? s r.cache = some info := by
  unfold startBuild at h
  split at h
  · cases h
  · exact h

@[simp] theorem closed_publish (r : Registry) (s : Text) (info : CallInfo)
    (failure : Option LookupFailure) : (r.publish s info failure).closed = r.closed := by
  unfold publish
  split <;> rfl

@[simp] theorem buildCount_publish (r : Registry) (s : Text) (info : CallInfo)
    (failure : Option LookupFailure) : (r.publish s info failure).buildCount = r.buildCount := by
  unfold publish
  split <;> rfl

/-- While the registry is open, a publish keeps the description. -/
theorem cache_publish_of_open {r : Registry} (h : r.closed = false) (s : Text) (info : CallInfo)
    (failure : Option LookupFailure) :
    (r.publish s info failure).cache = r.cache.insert s info := by
  unfold publish
  rw [if_neg (by simp [h])]

/-- While the registry is open, a publish keeps the description under its symbol, and leaves what is
    kept under others. -/
theorem find?_publish_of_open {r : Registry} (h : r.closed = false) (s : Text) (info : CallInfo)
    (failure : Option LookupFailure) (s' : Text) :
    Table.find? s' (r.publish s info failure).cache =
      if s = s' then some info else Table.find? s' r.cache := by
  rw [cache_publish_of_open h, Table.find?_insert]

/-- On a closed registry a publish does nothing. -/
theorem publish_of_closed {r : Registry} (h : r.closed = true) (s : Text) (info : CallInfo)
    (failure : Option LookupFailure) : r.publish s info failure = r := by
  unfold publish
  rw [if_pos h]

end Registry

/-- A run that starts leaves the other lookups accounted for. -/
theorem Stands.startBuild {r : Registry} {log : RunLog} {t : Task} (h : Stands r log t)
    (outcome : Text × Except Fault CallInfo) : Stands r.startBuild (outcome :: log) t := by
  -- a pipeline that leaves the registry open has not touched it
  refine h.mono (fun ho => ?_) (List.subset_cons_self _ _) (fun ho info => ?_) fun ho run _ => ?_
  · rwa [Registry.startBuild_of_open ho] at ho
  · rw [Registry.startBuild_of_open ho]
    exact id
  · rw [Registry.startBuild_of_open ho]
    exact id

/-- A publish under a symbol that is not kept leaves the lookups accounted for that do not work on
    that symbol. -/
theorem Stands.publish {r : Registry} {log : RunLog} {t : Task} (h : Stands r log t) {s : Text}
    (hfree : r.closed = false → Table.find? s r.cache = none)
    (hother : ∀ run, t.phase.run? = some run → s ≠ t.symbol) (info : CallInfo)
    (failure : Option LookupFailure) : Stands (r.publish s info failure) log t := by
  refine h.mono (fun ho => ?_) (List.Subset.refl _) (fun ho info' hinfo => ?_)
    fun ho run hrun hnone => ?_
  · rwa [Registry.closed_publish] at ho
  · rw [Registry.closed_publish] at ho
    rw [Registry.find?_publish_of_open ho, if_neg ?_, hinfo]
    -- what is kept is kept under another symbol
    rintro rfl
    rw [hfree ho] at hinfo
    cases hinfo
  · rw [Registry.closed_publish] at ho
    rw [Registry.find?_publish_of_open ho, if_neg (hother run hrun), hnone]

section Turned

variable {m : Machine} {log : RunLog} {i run : Nat} {s : Text} {e : Option Nat}

/-- A turn in which the pipeline runs. What it came to is accounted for by where the lookup stands
    then. -/
theorem Accounted.ran (h : Accounted m log) (ht : m.tasks[i]? = some ⟨s, .building run⟩)
    {p : Phase} {outcome : Except Fault CallInfo} (hbuilding : p.isBuilding = false)
    (hself : Stands m.registry.startBuild ((s, outcome) :: log) ⟨s, p⟩)
    (hpublishes : ∀ info, outcome = .ok info → ∃ failure, p = .publishing run info failure)
    (honce : m.registry.closed = false → (RunLog.described ((s, outcome) :: log)).Nodup)
    (hraised : log.raised + (if p.isFaulted then 1 else 0) = RunLog.raised ((s, outcome) :: log))
    (hdescribed : log.described.length + (if p.isPublishing then 1 else 0) =
      (RunLog.described ((s, outcome) :: log)).length) :
    Accounted (m.turned i s p m.registry.startBuild e) ((s, outcome) :: log) := by
  have hopen : m.registry.startBuild.closed = false → m.registry.closed = false :=
    fun ho => by rwa [Registry.startBuild_of_open ho] at ho
  constructor
  case stands => exact stands_turned ht hself fun j u _ hu => (h.stands j u hu).startBuild _
  case cached =>
    intro s' info' hinfo
    exact List.mem_cons_of_mem _ (h.cached s' info' (Registry.find?_of_find?_startBuild hinfo))
  case kept =>
    intro ho s' info' hinfo
    show Table.find? s' m.registry.startBuild.cache = some info' ∨ _
    -- the description of this run is about to be published; the others were accounted for before
    rcases List.mem_cons.mp hinfo with heq | hinfo
    · cases heq
      obtain ⟨failure, rfl⟩ := hpublishes info' rfl
      exact .inr ⟨i, run, failure, Machine.getElem?_turned_self ht _ _ _ _⟩
    · rw [Registry.startBuild_of_open ho]
      exact h.kept_turned ht (hopen ho) hinfo fun _ => rfl
  case once => exact fun ho => honce (hopen ho)
  case started =>
    have hturned := Machine.count_turned ht p m.registry.startBuild e Phase.isBuilding
    have hstarted := h.started
    show m.registry.startBuild.buildCount = log.length + 1 + _
    rw [Registry.buildCount_startBuild]
    simp only [Phase.isBuilding_building, hbuilding, if_true, Bool.false_eq_true, if_false]
      at hturned
    omega
  case faulted =>
    have hturned := Machine.count_turned ht p m.registry.startBuild e Phase.isFaulted
    rw [← hraised, ← h.faulted]
    exact hturned
  case size =>
    intro ho
    have hturned := Machine.count_turned ht p m.registry.startBuild e Phase.isPublishing
    have hsize := h.size (hopen ho)
    show m.registry.startBuild.cache.length + _ = _
    rw [← hdescribed, ← hsize]
    rw [Registry.startBuild_of_open ho] at hturned ⊢
    simp only [Phase.isPublishing_building, Bool.false_eq_true, if_false] at hturned
    omega

/-- A turn in which the pipeline describes the symbol. -/
theorem Accounted.describe (h : Accounted m log) (howned : Owned m)
    (ht : m.tasks[i]? = some ⟨s, .building run⟩) (info : CallInfo)
    (failure : Option LookupFailure) :
    Accounted (m.turned i s (.publishing run info failure) m.registry.startBuild e)
      ((s, .ok info) :: log) := by
  refine h.ran ht rfl ⟨List.mem_cons_self, fun ho => ?_⟩ (fun info' heq => ?_) (fun ho => ?_) ?_ rfl
  · have hsame := Registry.startBuild_of_open ho
    rw [hsame] at ho ⊢
    exact h.stands i _ ht ho
  · cases heq
    exact ⟨failure, rfl⟩
  · exact List.nodup_cons.mpr ⟨h.not_described howned ho ht, h.once ho⟩
  · exact (RunLog.raised_cons_ok s info log).symm

/-- A turn in which the pipeline raises a fault. -/
theorem Accounted.raise (h : Accounted m log) (ht : m.tasks[i]? = some ⟨s, .building run⟩)
    (f : Fault) :
    Accounted (m.turned i s (.releasing run (.error (.fault f))) m.registry.startBuild e)
      ((s, .error f) :: log) := by
  refine h.ran ht rfl List.mem_cons_self (fun info heq => ?_) h.once ?_ rfl
  · cases heq
  · exact (RunLog.raised_cons_error s f log).symm

section Publish

variable {info : CallInfo} {failure : Option LookupFailure}

/-- What is kept after a publish is what a run came to. -/
theorem Accounted.cached_publish (h : Accounted m log) (hrun : (s, .ok info) ∈ log) {s' : Text}
    {info' : CallInfo}
    (hinfo : Table.find? s' (m.registry.publish s info failure).cache = some info') :
    (s', .ok info') ∈ log := by
  cases hclosed : m.registry.closed with
  | true =>
    rw [Registry.publish_of_closed hclosed] at hinfo
    exact h.cached s' info' hinfo
  | false =>
    rw [Registry.find?_publish_of_open hclosed] at hinfo
    split at hinfo
    · next hs =>
      cases hinfo
      exact hs ▸ hrun
    · exact h.cached s' info' hinfo

/-- While the registry is open, what runs came to is kept after a publish or still about to be
    published. -/
theorem Accounted.kept_publish (h : Accounted m log) (howned : Owned m)
    (ht : m.tasks[i]? = some ⟨s, .publishing run info failure⟩)
    (hfree : Table.find? s m.registry.cache = none) (ho : m.registry.closed = false) {p : Phase}
    {r : Registry} {s' : Text} {info' : CallInfo} (hinfo : (s', .ok info') ∈ log) :
    Table.find? s' (m.registry.publish s info failure).cache = some info' ∨
      ∃ j, (m.turned i s p r e).Publishes j s' info' := by
  rw [Registry.find?_publish_of_open ho]
  split
  · next hs =>
    subst hs
    rcases h.kept ho s info' hinfo with hcached | ⟨j, hj⟩
    · rw [hfree] at hcached
      cases hcached
    · -- the only description of the symbol is the one that has just been published
      obtain ⟨run', hrun'⟩ := hj.owner
      obtain ⟨rfl, -⟩ := howned.unique ⟨_, ht, rfl, rfl⟩ hrun'
      obtain ⟨-, _, _, hphase⟩ := hj.stands ht
      cases hphase
      exact .inl rfl
  · next hs => exact h.kept_turned ht ho hinfo fun heq => absurd heq hs

/-- A turn in which a description is published, unless the registry was closed in the meantime. -/
theorem Accounted.publish (h : Accounted m log) (howned : Owned m)
    (ht : m.tasks[i]? = some ⟨s, .publishing run info failure⟩) :
    Accounted (m.turned i s (.releasing run (.ok info)) (m.registry.publish s info failure) e)
      log := by
  obtain ⟨hrun, hfree⟩ : (s, Except.ok info) ∈ log ∧ (m.registry.closed = false →
    Table.find? s m.registry.cache = none) := h.stands i _ ht
  have hopen : (m.registry.publish s info failure).closed = false → m.registry.closed = false :=
    fun ho => by rwa [Registry.closed_publish] at ho
  constructor
  case stands =>
    refine stands_turned ht ⟨hrun, fun ho => ?_⟩ fun j u hij hu => ?_
    · rw [Registry.find?_publish_of_open (hopen ho), if_pos rfl]
    · refine (h.stands j u hu).publish hfree (fun run' hrun' => ?_) info failure
      -- another owner works on another symbol
      rintro rfl
      exact hij (howned.unique ⟨_, ht, rfl, rfl⟩ ⟨u, hu, rfl, hrun'⟩).1
  case cached => exact fun s' info' => h.cached_publish hrun
  case kept => exact fun ho s' info' => h.kept_publish howned ht (hfree (hopen ho)) (hopen ho)
  case once => exact fun ho => h.once (hopen ho)
  case started =>
    have hturned := Machine.count_turned ht (.releasing run (.ok info))
      (m.registry.publish s info failure) e Phase.isBuilding
    show (m.registry.publish s info failure).buildCount = _
    rw [Registry.buildCount_publish, h.started]
    simpa [Phase.isBuilding] using hturned.symm
  case faulted =>
    have hturned := Machine.count_turned ht (.releasing run (.ok info))
      (m.registry.publish s info failure) e Phase.isFaulted
    rw [← h.faulted]
    simpa [Phase.isFaulted] using hturned
  case size =>
    intro ho
    have hturned := Machine.count_turned ht (.releasing run (.ok info))
      (m.registry.publish s info failure) e Phase.isPublishing
    have hsize := h.size (hopen ho)
    -- the description moves from those about to be published to those that are kept
    show (m.registry.publish s info failure).cache.length + _ = _
    rw [Registry.cache_publish_of_open (hopen ho), Table.insert_eq_append (hfree (hopen ho)),
      List.length_append, List.length_singleton, ← hsize]
    simp only [Phase.isPublishing, if_true, Bool.false_eq_true, if_false] at hturned
    omega

end Publish

end Turned

/-- What the pipeline comes to in the turn of a lookup. -/
theorem Accounted.turned {m : Machine} {log : RunLog} (h : Accounted m log) (howned : Owned m)
    {i : Nat} {t : Task} (ht : m.tasks[i]? = some t) {build : Build} {p : Phase} {r : Registry}
    {e : Option Nat} (hturn : Turn build m.registry m.ended t.symbol t.phase p r e) :
    Accounted (m.turned i t.symbol p r e) ((t.outcome? build).toList ++ log) := by
  obtain ⟨s, phase⟩ := t
  have hstands := h.stands i _ ht
  -- the turns without the pipeline are quiet; a run and a publish have their own lemmas
  cases hturn with
  | hit hinfo =>
    exact h.quiet ht rfl rfl rfl rfl rfl rfl ⟨h.cached s _ hinfo, fun _ => hinfo⟩
  | share _ hinfo =>
    exact h.quiet ht rfl rfl rfl rfl rfl rfl ⟨h.cached s _ hinfo, fun _ => hinfo⟩
  | refuse hclosed => exact h.quiet ht rfl rfl rfl rfl rfl rfl hclosed
  | own _ hcache _ => exact h.quiet ht rfl rfl rfl rfl rfl rfl fun _ => hcache
  | miss _ | wait _ _ _ | wake _ | sleep _ => exact h.quiet ht rfl rfl rfl rfl rfl rfl trivial
  | release =>
    exact h.quiet ht rfl rfl rfl rfl rfl (Phase.isFaulted_releasing _ _).symm hstands
  | rest => exact h.quiet ht rfl rfl rfl rfl rfl rfl hstands
  | @describe run info failure hbuild =>
    have := h.describe (e := none) howned ht info failure
    simpa [Task.outcome?, hbuild, Except.map] using this
  | @raise run f hbuild =>
    have := h.raise (e := none) ht f
    simpa [Task.outcome?, hbuild, Except.map] using this
  | publish => exact h.publish howned ht

/-- A move keeps the accounts, with what the pipeline came to in it. -/
theorem Accounted.move {m : Machine} {log : RunLog} (h : Accounted m log) (howned : Owned m)
    (next : Move) : Accounted (m.move next) ((m.outcome? next).toList ++ log) := by
  cases next with
  | spawn s => exact h.spawn s
  | close => exact h.close
  | step i build =>
    rcases m.step_cases i build with ⟨hnone, heq⟩ | ⟨t, p, r, e, ht, hturn, heq⟩
    · rw [Machine.move, heq, Machine.outcome?, hnone]
      exact h
    · rw [Machine.move, heq, Machine.outcome?, ht]
      exact h.turned howned ht hturn

/-- Wherever moves lead from a registry that keeps nothing, all is accounted for. -/
theorem Reachable.accounted {r : Registry} (hpending : r.pending = []) (hcache : r.cache = [])
    (hcount : r.buildCount = 0) {m : Machine} {log : RunLog} (h : Reachable r m log) :
    Accounted m log := by
  induction h with
  | start => exact .start hcache hcount
  | move before next ih => exact ih.move (before.owned hpending) next

/-! ### All lookups together -/

/-- What holds of the lookups on a registry. -/
structure Shares (m : Machine) (log : RunLog) : Prop where
  /-- A symbol has at most one owner. -/
  owner : ∀ {i j s run run'}, m.Owner i s run → m.Owner j s run' → i = j
  /-- A run is written down for a symbol exactly while somebody owns it. -/
  registered : ∀ s run, Table.find? s m.registry.pending = some run ↔ ∃ i, m.Owner i s run
  /-- What is waited for has ended, or has an owner who ends it in at most three turns, whatever
      else happens. -/
  awaited : ∀ t ∈ m.tasks, ∀ run, t.phase = .waiting run →
    run ∈ m.ended ∨ ∃ i, m.Owner i t.symbol run ∧ ∀ moves : List Move,
      3 ≤ moves.countP (Move.isTurnOf i) → run ∈ (moves.foldl Machine.move m).ended
  /-- Every answer is what a run of the symbol came to, or that the registry was closed. -/
  answered : ∀ t ∈ m.tasks, ∀ result, t.phase = .finished result →
    Answers m.registry log t.symbol result
  /-- While the registry is open, no symbol is described twice. -/
  once : m.registry.closed = false → log.described.Nodup
  /-- While the registry is open, all lookups of a symbol that end well are told the same. -/
  same : m.registry.closed = false → ∀ t ∈ m.tasks, ∀ u ∈ m.tasks, t.symbol = u.symbol →
    ∀ a b, t.phase = .finished (.ok a) → u.phase = .finished (.ok b) → a = b
  /-- While the registry is open, the runs so far are those of the symbols that are kept, those
      that raised a fault, each in a lookup of its own, and those that are still going. -/
  counted : m.registry.closed = false →
    m.registry.buildCount = m.registry.cache.length + m.count Phase.isFaulted +
      m.count Phase.isBuilding + m.count Phase.isPublishing

/-- An owner has at most three turns left. -/
theorem Phase.turnsLeft_le (p : Phase) : p.turnsLeft ≤ 3 := by
  cases p <;> simp [turnsLeft]

/-- Where every run has one owner, nobody waits in vain and all is accounted for, lookups share their
    work. -/
theorem Accounted.shared {m : Machine} {log : RunLog} (h : Accounted m log) (howned : Owned m)
    (hwaits : Waits m) : Shares m log := by
  have hanswered : ∀ t ∈ m.tasks, ∀ result, t.phase = .finished result →
      Answers m.registry log t.symbol result := by
    intro t ht result hphase
    obtain ⟨i, hi⟩ := List.getElem?_of_mem ht
    have hstands := h.stands i t hi
    rw [Stands, hphase] at hstands
    exact hstands
  constructor
  case owner => exact fun hi hj => (howned.unique hi hj).1
  case registered => exact howned.registered
  case awaited =>
    intro t ht run hwaiting
    refine (hwaits t ht run hwaiting).imp (fun hended => hended) fun hrun => ?_
    obtain ⟨i, u, hu, hsymbol, hown⟩ := (howned.registered t.symbol run).mp hrun
    exact ⟨i, ⟨u, hu, hsymbol, hown⟩, fun moves hturns =>
      Machine.ended_of_turns hu hown (Nat.le_trans u.phase.turnsLeft_le hturns)⟩
  case answered => exact hanswered
  case once => exact h.once
  -- both were told what is kept
  case same =>
    intro ho t ht u hu hsymbol a b ha hb
    have hkept := (hanswered t ht _ ha).2 ho
    rw [hsymbol, (hanswered u hu _ hb).2 ho] at hkept
    exact (Option.some.inj hkept).symm
  -- each run described its symbol, raised a fault, or is still going
  case counted =>
    intro ho
    have hstarted := h.started
    have hfaulted := h.faulted
    have hsize := h.size ho
    have hlength := log.length_eq
    omega

/-- **Shared work.** Wherever moves lead from a fresh registry, whose pipeline may also close it,
    lookups share their work: one owner for a symbol, nobody who waits in vain, and while the
    registry is open one description of each symbol for all. -/
theorem Reachable.shares {id : Nat} {c : Catalog} {widths : List Int} {closesItself : Bool}
    {m : Machine} {log : RunLog}
    (h : Reachable { Registry.ofCatalog id c widths with closesItself } m log) : Shares m log :=
  (h.accounted rfl rfl rfl).shared (h.owned rfl) (h.waits rfl)

/-- Two lookups of a symbol, of which the first owns a run that raises a fault, while the second
    waits. -/
def waitingMoves : List Move :=
  let raises : Build := fun _ => .error (.number .tooLongToWrite)
  [.spawn "f", .spawn "f", .step 0 raises, .step 0 raises, .step 1 raises, .step 1 raises,
    .step 0 raises]

/-- Then the first ends its run and the second starts over and describes the symbol. -/
def endingMoves : List Move :=
  let describes : Build := fun _ => .ok (.invalid, none)
  [.step 0 describes, .step 1 describes, .step 1 describes, .step 1 describes, .step 1 describes,
    .step 1 describes, .step 1 describes]

/-- The second lookup does not wait in vain, and both runs are counted in the end. -/
theorem shares_waiting :
    let r : Registry := { Registry.ofCatalog 0 .empty [2] with closesItself := false }
    let before := waitingMoves.foldl Machine.move (.start r [])
    let after := endingMoves.foldl Machine.move before
    (∃ i, before.Owner i "f" 0 ∧ ∀ moves : List Move, 3 ≤ moves.countP (Move.isTurnOf i) →
        0 ∈ (moves.foldl Machine.move before).ended) ∧
      after.registry.cache.length = 1 ∧ after.count Phase.isFaulted = 1 ∧
      after.registry.buildCount = after.registry.cache.length + after.count Phase.isFaulted +
        after.count Phase.isBuilding + after.count Phase.isPublishing := by
  intro r before after
  obtain ⟨log, hbefore⟩ := Reachable.start.moves (r := r) waitingMoves
  obtain ⟨log', hafter⟩ := hbefore.moves endingMoves
  have hwaits : Shares before log := @Reachable.shares 0 .empty [2] false _ _ hbefore
  have hended : Shares after log' := @Reachable.shares 0 .empty [2] false _ _ hafter
  have hsecond : before.tasks[1]? = some ⟨"f", .waiting 0⟩ := by decide +kernel
  have hgoing : 0 ∉ before.ended := by decide +kernel
  refine ⟨?_, by decide +kernel, by decide +kernel, hended.counted (by decide +kernel)⟩
  exact (hwaits.awaited _ (List.mem_of_getElem? hsecond) 0 rfl).resolve_left hgoing

/-- Lookups that are begun together and take their steps in turn share their work as well. -/
theorem shares_runRounds (id : Nat) (c : Catalog) (widths : List Int) (closesItself : Bool)
    (symbols : List Text) (build : Build) (rounds : Nat) :
    ∃ log, Shares ((Machine.start { Registry.ofCatalog id c widths with closesItself }
      symbols).runRounds build rounds) log := by
  obtain ⟨log, hstart⟩ :=
    reachable_start { Registry.ofCatalog id c widths with closesItself } symbols
  obtain ⟨log', hrounds⟩ := hstart.runRounds build rounds
  exact ⟨log', (hrounds.accounted rfl rfl rfl).shared (hrounds.owned rfl) (hrounds.waits rfl)⟩

end KernelCalls
