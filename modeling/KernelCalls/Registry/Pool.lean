import KernelCalls.Registry.Basic

namespace KernelCalls

/-!
# Pools of registries

The registries of a process, one of which may be the default. The default is made when it is first
asked for; installing another one closes it.

* `Pool` : the registries by number, and the number of the default
* `Pool.add`, `get?`, `modify` : the registries
* `Pool.default`, `Pool.reset` : the default
-/

/-- The registries of a process. -/
structure Pool where
  registries : List Registry
  default? : Option Nat
  deriving Repr

namespace Pool

/-- No registries. -/
def empty : Pool := ⟨[], none⟩

/-- The registry with a number. -/
def get? (p : Pool) (id : Nat) : Option Registry := p.registries[id]?

/-- Adds a registry and gives its number. -/
def add (p : Pool) (r : Registry) : Nat × Pool :=
  (p.registries.length, { p with registries := p.registries ++ [r] })

/-- Changes the registry with a number. -/
def modify (p : Pool) (id : Nat) (f : Registry → Registry) : Pool :=
  { p with registries := p.registries.modify id f }

/-- Closes the registry with a number. -/
def close (p : Pool) (id : Nat) : Pool := p.modify id Registry.close

/-- The number of the default registry, which is `fresh` if there is none yet. -/
def default (p : Pool) (fresh : Registry) : Nat × Pool :=
  match p.default? with
  | some id => (id, p)
  | none =>
    let (id, p) := p.add fresh
    (id, { p with default? := some id })

/-- Closes the default registry and installs another, or none until one is asked for. -/
def reset (p : Pool) (id? : Option Nat) : Pool :=
  let p := match p.default? with
    | some id => p.close id
    | none => p
  { p with default? := id? }

end Pool

end KernelCalls
