import KernelCalls.Registry.Basic

namespace KernelCalls

/-!
# Concurrent lookups

Any number of lookups on one registry, each going through its atomic steps in turn while the others
go through theirs. A lookup that finds its symbol worked on waits for the end of that run and starts
over.

* `Phase`, `Task` : where a lookup stands
* `Machine` : the registry with the lookups under way
* `Machine.step` : the next step of one lookup, `Machine.close` : a close in between
* `Machine.runRounds` : all lookups in turn
-/

/-- Where a lookup stands. -/
inductive Phase where
  /-- It is about to look at what is kept. -/
  | reading
  /-- It is about to enter the section that claims the symbol. -/
  | claiming
  /-- It waits for the end of a run. -/
  | waiting (run : Nat)
  /-- It owns the run and is about to start the pipeline. -/
  | building (run : Nat)
  /-- It owns the run and is about to publish. -/
  | publishing (run : Nat) (info : CallInfo) (failure : Option LookupFailure)
  /-- It owns the run and is about to end it. -/
  | releasing (run : Nat) (result : Except Registry.LookupError CallInfo)
  /-- It has its answer. -/
  | finished (result : Except Registry.LookupError CallInfo)
  deriving Repr

/-- A lookup under way. -/
structure Task where
  symbol : Text
  phase : Phase
  deriving Repr

/-- A registry with the lookups under way and the runs that have ended. -/
structure Machine where
  registry : Registry
  ended : List Nat
  tasks : List Task
  deriving Repr

/-- The next step of a lookup: where it stands then, the registry, and the run that it ended. A
lookup that waits for a run still going stays where it is. -/
def Task.step (build : Build) (r : Registry) (ended : List Nat) (t : Task) :
    Phase × Registry × Option Nat :=
  match t.phase with
  | .reading =>
    match Table.find? t.symbol r.cache with
    | some info => (.finished (.ok info), r, none)
    | none => (.claiming, r, none)
  | .claiming =>
    match r.claim t.symbol with
    | (.refused, r) => (.finished (.error .closed), r, none)
    | (.cached info, r) => (.finished (.ok info), r, none)
    | (.wait run, r) => (.waiting run, r, none)
    | (.own run, r) => (.building run, r, none)
  | .waiting run => (if run ∈ ended then .reading else .waiting run, r, none)
  | .building run =>
    let r := r.startBuild
    match build t.symbol with
    | .ok (info, failure) => (.publishing run info failure, r, none)
    | .error f => (.releasing run (.error (.fault f)), r, none)
  | .publishing run info failure =>
    (.releasing run (.ok info), r.publish t.symbol info failure, none)
  | .releasing run result => (.finished result, r.release t.symbol, some run)
  | .finished result => (.finished result, r, none)

namespace Machine

/-- A registry with a lookup of each of the symbols about to begin. -/
def start (r : Registry) (symbols : List Text) : Machine :=
  ⟨r, [], symbols.map fun s => ⟨s, .reading⟩⟩

/-- The next step of the lookup with the given number. -/
def step (build : Build) (m : Machine) (i : Nat) : Machine :=
  match m.tasks[i]? with
  | none => m
  | some t =>
    let (phase, registry, run) := t.step build m.registry m.ended
    ⟨registry, run.toList ++ m.ended, m.tasks.set i { t with phase }⟩

/-- A close of the registry between the steps of the lookups. -/
def close (m : Machine) : Machine := { m with registry := m.registry.close }

/-- One step of every lookup in turn. -/
def round (build : Build) (m : Machine) : Machine :=
  (List.range m.tasks.length).foldl (step build) m

/-- So many rounds. -/
def runRounds (build : Build) : Nat → Machine → Machine
  | 0, m => m
  | n + 1, m => runRounds build n (round build m)

/-- The answer of a lookup, if it has one. -/
def answer? (t : Task) : Option (Except Registry.LookupError CallInfo) :=
  match t.phase with
  | .finished result => some result
  | _ => none

end Machine

namespace Registry

/-- Looks symbols up all at once, each by so many lookups, and gives one answer for each symbol. A
lookup takes at most six steps between waits, and waits at most once for each of the others. -/
def lookupTogether (r : Registry) (build : Build) (symbols : List Text) (threads : Nat) :
    List (Except LookupError CallInfo) × Registry :=
  let tasks := symbols.flatMap fun s => List.replicate threads s
  let m := Machine.runRounds build (6 * (tasks.length + 1)) (.start r tasks)
  let answerOf := fun s =>
    ((m.tasks.find? (·.symbol == s)).bind Machine.answer?).getD (.error .stalled)
  (symbols.map answerOf, m.registry)

end Registry

end KernelCalls
