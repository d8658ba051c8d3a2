namespace KernelCalls

/-!
# Tables

Finite maps that remember the order in which their keys arrived. Storing under a known key changes
the value and keeps the place.

* `Table.find?` : the value stored under a key
* `Table.insert` : stores a value
* `Table.find?_insert` : what is found after storing
-/

/-- A finite map with its keys in order of arrival. -/
abbrev Table (κ : Type) (α : Type) := List (κ × α)

namespace Table

variable {κ α : Type} [DecidableEq κ]

/-- The value stored under a key. -/
def find? (k : κ) : Table κ α → Option α
  | [] => none
  | (k', a) :: rest => if k' = k then some a else find? k rest

/-- Stores a value: in the place of the old one, or at the end for a new key. -/
def insert (k : κ) (a : α) : Table κ α → Table κ α
  | [] => [(k, a)]
  | (k', b) :: rest => if k' = k then (k', a) :: rest else (k', b) :: insert k a rest

/-- The key has a value. -/
def contains (k : κ) (t : Table κ α) : Bool := (find? k t).isSome

/-- Stores values one after the other, so that the last one of a key stays. -/
def insertAll (t : Table κ α) (pairs : List (κ × α)) : Table κ α :=
  pairs.foldl (fun t p => insert p.1 p.2 t) t

@[simp] theorem find?_nil (k : κ) : find? k ([] : Table κ α) = none := rfl

/-- Storing changes what is found under the key, and nothing else. -/
theorem find?_insert (k k' : κ) (a : α) (t : Table κ α) :
    find? k' (insert k a t) = if k = k' then some a else find? k' t := by
  induction t with
  | nil => simp [insert, find?]
  | cons p rest ih =>
    obtain ⟨l, b⟩ := p
    by_cases h : l = k
    · subst h
      by_cases h' : l = k' <;> simp [insert, find?, h']
    · by_cases h' : l = k'
      · subst h'
        simp [insert, find?, h, Ne.symm h]
      · simp [insert, find?, h, h', ih]

/-- What was stored is found. -/
@[simp] theorem find?_insert_self (k : κ) (a : α) (t : Table κ α) :
    find? k (insert k a t) = some a := by
  simp [find?_insert]

end Table

end KernelCalls
