import KernelCalls.Recognition

namespace KernelCalls

/-!
# Registries

A registry keeps the description of every symbol that was looked up in it. Work on a symbol begins
when it is claimed, and several lookups of a symbol share one run of the pipeline.

* `Registry` : the state, `Registry.ofCatalog` : a fresh one
* `Registry.claim`, `publish`, `release` : the locked sections of a lookup
* `Registry.lookup` : a whole lookup, `Registry.close` : the end of the session
-/

/-- The pipeline that describes a symbol. -/
abbrev Build := Text → Except Fault (CallInfo × Option LookupFailure)

/-- The state of a registry. -/
structure Registry where
  /-- The number of the catalog that names are matched against. -/
  catalog : Nat
  matcher : Matcher
  /-- The vector widths that were accepted when the registry was made. -/
  widths : List Int
  cache : Table Text CallInfo
  failures : Table Text LookupFailure
  /-- The symbols that are being worked on, each with the number of the run. -/
  pending : Table Text Nat
  closed : Bool
  /-- How often the pipeline ran. -/
  buildCount : Nat
  /-- The pipeline closes the registry when it starts. -/
  closesItself : Bool
  deriving Repr

namespace Registry

/-- A fresh registry over a catalog. -/
def ofCatalog (id : Nat) (c : Catalog) (widths : List Int) : Registry where
  catalog := id
  matcher := .ofCatalog c
  widths := widths
  cache := []
  failures := []
  pending := []
  closed := false
  buildCount := 0
  closesItself := false

/-- The pipeline of a registry over the present state of its catalog. -/
def pipeline (r : Registry) (c : Catalog) : Build := build r.matcher c r.widths

/-- The number of symbols that are kept. -/
def size (r : Registry) : Nat := r.cache.length

/-- The symbol is kept. -/
def contains (r : Registry) (symbol : Text) : Bool := Table.contains symbol r.cache

/-- Why a symbol that is kept is no recognised call. -/
def failure? (r : Registry) (symbol : Text) : Option LookupFailure :=
  Table.find? symbol r.failures

/-- Ends the session: nothing is kept any more. -/
def close (r : Registry) : Registry :=
  { r with closed := true, cache := [], failures := [] }

/-- What happens to the registry when the pipeline starts. -/
def startBuild (r : Registry) : Registry := if r.closesItself then r.close else r

/-! ### Lookups -/

/-- Why a lookup has no answer. -/
inductive LookupError where
  /-- The registry is closed. -/
  | closed
  /-- The symbol is being worked on, and nobody is left to finish it. -/
  | stalled
  /-- The pipeline met a fault. -/
  | fault (f : Fault)
  deriving DecidableEq, Repr

/-- The text that reports the error. -/
def LookupError.message : LookupError → Text
  | .closed => "lookup on a closed builtin registry"
  | .stalled => "lookup of a symbol that is being looked up"
  | .fault f => f.message

/-- What a lookup finds when it holds the lock. -/
inductive Claim where
  | refused
  | cached (info : CallInfo)
  | wait (run : Nat)
  | own (run : Nat)
  deriving DecidableEq, Repr

/-- The section in which a lookup finds the registry closed, the symbol kept or worked on, or takes
the work on itself. -/
def claim (r : Registry) (symbol : Text) : Claim × Registry :=
  if r.closed then (.refused, r)
  else
    match Table.find? symbol r.cache with
    | some info => (.cached info, r)
    | none =>
      match Table.find? symbol r.pending with
      | some run => (.wait run, r)
      | none =>
        (.own r.buildCount,
          { r with
            pending := r.pending.insert symbol r.buildCount
            buildCount := r.buildCount + 1 })

/-- The section in which a result is kept, unless the registry was closed in the meantime. -/
def publish (r : Registry) (symbol : Text) (info : CallInfo) (failure : Option LookupFailure) :
    Registry :=
  if r.closed then r
  else
    { r with
      cache := r.cache.insert symbol info
      failures := match failure with
        | some f => r.failures.insert symbol f
        | none => r.failures }

/-- The section in which work on a symbol ends. -/
def release (r : Registry) (symbol : Text) : Registry :=
  { r with pending := r.pending.filter (·.1 ≠ symbol) }

/-- The description of a symbol, worked out at its first lookup, when no other lookup is under
way. -/
def lookup (r : Registry) (build : Build) (symbol : Text) :
    Except LookupError CallInfo × Registry :=
  match Table.find? symbol r.cache with
  | some info => (.ok info, r)
  | none =>
    match r.claim symbol with
    | (.refused, r) => (.error .closed, r)
    | (.cached info, r) => (.ok info, r)
    | (.wait _, r) => (.error .stalled, r)
    | (.own _, r) =>
      let r := r.startBuild
      match build symbol with
      | .ok (info, failure) => (.ok info, (r.publish symbol info failure).release symbol)
      | .error f => (.error (.fault f), r.release symbol)

/-- Two answers of one registry are one shared description: all invalid symbols share one, and each
other symbol has its own. -/
def shared (a b : Text × CallInfo) : Bool :=
  a.1 == b.1 || (!a.2.isValid && !b.2.isValid)

end Registry

end KernelCalls
