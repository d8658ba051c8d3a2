import KernelCalls.Yaml.Node
import KernelCalls.Yaml.Plain

namespace KernelCalls.Yaml

/-!
# Reading YAML

The data value of a YAML text. A mapping takes in, in front of its own pairs, those that its merge
keys bring.

* `Reading` : a value, or the error that is met first when a tree is gone through level by level
* `datum` : the value of a tree
* `parse` : the value of a whole text
-/

/-! ### Levels of a tree -/

/-- An error in a tree, with the number of lists and mappings around it. -/
structure Misfit where
  depth : Nat
  error : Error
  deriving DecidableEq, Repr

/-- A value, or the error that is met first. -/
abbrev Reading (α : Type) := Except Misfit α

namespace Reading

variable {α β : Type}

/-- A result that is not inside any list or mapping. -/
def outermost (r : Except Error α) : Reading α := r.mapError fun e => ⟨0, e⟩

/-- A result inside one more list or mapping. -/
def deeper (r : Reading α) : Reading α := r.mapError fun m => { m with depth := m.depth + 1 }

/-- Both results. Of two errors the less deep is met first, of equally deep ones the first. -/
def both : Reading α → Reading β → Reading (α × β)
  | .ok a, .ok b => .ok (a, b)
  | .ok _, .error m => .error m
  | .error m, .ok _ => .error m
  | .error m, .error n => .error (if n.depth < m.depth then n else m)

/-- All results. -/
def all : List (Reading α) → Reading (List α)
  | [] => .ok []
  | r :: rest => (both r (all rest)).map fun p => p.1 :: p.2

end Reading

/-! ### Trees -/

/-- A value as the key of a mapping, if it can be one. -/
def keyOf : Datum → Except Error Key
  | .null => .ok .null
  | .bool b => .ok (.bool b)
  | .int i => .ok (.int i)
  | .float f => .ok (.float f)
  | .date d => .ok (.date d)
  | .moment m => .ok (.moment m)
  | .text t => .ok (.text t)
  | .list _ | .map _ => malformed

/-- The key that a node is. Lists and mappings are none, whatever is in them. -/
def key : Node → Except Error Key
  | .plain cs =>
    if String.ofList cs = defaultMark then .ok (.text defaultMark)
    else (plainDatum cs).bind keyOf
  | .quoted t => .ok (.text t)
  | .list _ | .map _ => malformed

mutual

/-- The value of a tree. -/
def datum : Node → Reading Datum
  | .plain cs => .outermost (plainDatum cs)
  | .quoted t => .ok (.text t)
  | .list items => Reading.deeper ((Reading.all (datumItems items)).map .list)
  | .map pairs =>
    .deeper
      (match members pairs with
        | .error e => .outermost (.error e)
        | .ok (brought, own) => (Reading.all (brought ++ own)).map .ofPairs)

/-- The values of the items of a list. -/
def datumItems : List Node → List (Reading Datum)
  | [] => []
  | n :: rest => datum n :: datumItems rest

/-- The pairs that the merge keys among pairs bring, and the other pairs. -/
def members : List (Node × Node) →
    Except Error (List (Reading (Key × Datum)) × List (Reading (Key × Datum)))
  | [] => .ok ([], [])
  | (k, v) :: rest =>
    if k.isMark mergeMark then do
      let first ← brought v
      let (more, own) ← members rest
      return (first ++ more, own)
    else do
      let (brought, own) ← members rest
      return (brought, Reading.both (.outermost (key k)) (datum v) :: own)

/-- The pairs that a value under a merge key brings: those of a mapping, or of all mappings of a
list, the last one first. -/
def brought : Node → Except Error (List (Reading (Key × Datum)))
  | .map pairs => (members pairs).map fun r => r.1 ++ r.2
  | .list items => broughtByAll items
  | _ => malformed

/-- The pairs that all mappings of a list bring, the last one first. -/
def broughtByAll : List Node → Except Error (List (Reading (Key × Datum)))
  | [] => .ok []
  | .map pairs :: rest => do
    let (more, own) ← members pairs
    return (← broughtByAll rest) ++ more ++ own
  | _ => malformed

end

/-- The value of a whole text. -/
def parse (s : String) : Except Error Datum := do
  (datum (← Node.ofTokens (tokens s))).mapError (·.error)

end KernelCalls.Yaml
