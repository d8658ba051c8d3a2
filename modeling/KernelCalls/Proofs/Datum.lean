import KernelCalls.Datum
import KernelCalls.Proofs.Outcome

namespace KernelCalls.Datum

open Outcome

/-!
# Values that can be written

The text of a value is refused only where an integer in it has too many digits.

* `HasInt` : an integer occurs somewhere in a value, `Writable` : none that occurs is too long.
* `exists_written`, `exists_bare` : such a value has a text.
-/

/-- An integer occurs in a value: it is the value, or occurs in an item, a key or a value of it. -/
inductive HasInt (i : Int) : Datum → Prop where
  | self : HasInt i (.int i)
  | item {items : List Datum} {d : Datum} (hd : d ∈ items) (h : HasInt i d) : HasInt i (.list items)
  | key {pairs : List (Key × Datum)} {d : Datum} (hd : (Key.int i, d) ∈ pairs) :
    HasInt i (.map pairs)
  | value {pairs : List (Key × Datum)} {k : Key} {d : Datum} (hd : (k, d) ∈ pairs)
    (h : HasInt i d) : HasInt i (.map pairs)

/-- No integer that occurs in the value has more digits than can be written. -/
def Writable (d : Datum) : Prop := ∀ i, HasInt i d → i.natAbs < Text.tenTo Text.maxDigits

/-- What is in a list that can be written can be written. -/
theorem Writable.item {items : List Datum} (h : Writable (.list items)) {d : Datum}
    (hd : d ∈ items) : d.Writable := fun i hi => h i (.item hd hi)

/-- So can the values of a mapping that can be written. -/
theorem Writable.value {pairs : List (Key × Datum)} (h : Writable (.map pairs)) {k : Key}
    {d : Datum} (hd : (k, d) ∈ pairs) : d.Writable := fun i hi => h i (.value hd hi)

/-- And so can its keys. -/
theorem Writable.key {pairs : List (Key × Datum)} (h : Writable (.map pairs)) {k : Key}
    {d : Datum} (hd : (k, d) ∈ pairs) : k.toDatum.Writable := by
  intro i hi
  cases k with
  | int j =>
    cases hi
    exact h i (.key hd)
  | _ => cases hi

theorem writable_text (t : Text) : (Datum.text t).Writable := fun _ hi => nomatch hi

/-- A mapping is writable if its keys and values are. -/
theorem writable_map {pairs : List (Key × Datum)}
    (h : ∀ p ∈ pairs, p.1.toDatum.Writable ∧ p.2.Writable) : (Datum.map pairs).Writable := by
  intro i hi
  cases hi with
  | key hd => exact (h _ hd).1 i .self
  | value hd hv => exact (h _ hd).2 i hv

/-- A mapping that can be written can be written without its first pair. -/
theorem Writable.tail {p : Key × Datum} {pairs : List (Key × Datum)}
    (h : Writable (.map (p :: pairs))) : Writable (.map pairs) :=
  writable_map fun _ hq => ⟨h.key (List.mem_cons_of_mem p hq), h.value (List.mem_cons_of_mem p hq)⟩

/-- An integer with few enough digits is written in full. -/
theorem writeInt_of_lt {i : Int} (h : i.natAbs < Text.tenTo Text.maxDigits) :
    Text.writeInt i = .ok i.repr := by
  rw [Text.writeInt, if_pos h]

/-- The text of a key that can be written. -/
theorem exists_keyWritten {k : Key} (h : k.toDatum.Writable) : ∃ text, keyWritten k = .ok text := by
  cases k with
  | int i => exact ⟨i.repr, by rw [keyWritten, writeInt_of_lt (h i .self)]⟩
  | _ => exact ⟨_, rfl⟩

mutual

/-- The text of a value that can be written, by recursion on the value. -/
theorem exists_written : (d : Datum) → d.Writable → ∃ text, d.written = .ok text
  | .int i, h => ⟨i.repr, by rw [written, writeInt_of_lt (h i .self)]⟩
  | .list items, h => by
    obtain ⟨parts, hparts⟩ := exists_writtenItems items fun d hd => h.item hd
    refine ⟨"[" ++ ", ".intercalate parts ++ "]", ?_⟩
    rw [written, hparts]
    rfl
  | .map pairs, h => by
    obtain ⟨parts, hparts⟩ := exists_writtenPairs pairs fun p hp => ⟨h.key hp, h.value hp⟩
    refine ⟨"\x7b" ++ ", ".intercalate parts ++ "\x7d", ?_⟩
    rw [written, hparts]
    rfl
  | .null, _ => ⟨_, by rw [written]⟩
  | .bool _, _ => ⟨_, by rw [written]⟩
  | .float _, _ => ⟨_, by rw [written]⟩
  | .date _, _ => ⟨_, by rw [written]⟩
  | .moment _, _ => ⟨_, by rw [written]⟩
  | .text _, _ => ⟨_, by rw [written]⟩

/-- The texts of the items of a list. -/
theorem exists_writtenItems :
    (items : List Datum) → (∀ d ∈ items, d.Writable) → ∃ parts, writtenItems items = .ok parts
  | [], _ => ⟨[], by rw [writtenItems]⟩
  | d :: rest, h => by
    obtain ⟨part, hpart⟩ := exists_written d (h d List.mem_cons_self)
    obtain ⟨parts, hparts⟩ := exists_writtenItems rest fun e he => h e (List.mem_cons_of_mem d he)
    refine ⟨part :: parts, ?_⟩
    rw [writtenItems, hpart, hparts]
    rfl

/-- The texts of the pairs of a mapping. -/
theorem exists_writtenPairs :
    (pairs : List (Key × Datum)) → (∀ p ∈ pairs, p.1.toDatum.Writable ∧ p.2.Writable) →
      ∃ parts, writtenPairs pairs = .ok parts
  | [], _ => ⟨[], by rw [writtenPairs]⟩
  | (k, d) :: rest, h => by
    obtain ⟨hkey, hvalue⟩ := h (k, d) List.mem_cons_self
    obtain ⟨key, hk⟩ := exists_keyWritten hkey
    obtain ⟨value, hv⟩ := exists_written d hvalue
    obtain ⟨parts, hparts⟩ := exists_writtenPairs rest fun p hp => h p (List.mem_cons_of_mem _ hp)
    refine ⟨(key ++ ": " ++ value) :: parts, ?_⟩
    rw [writtenPairs, hk, hv, hparts]
    rfl

end

/-- A value in which no integer is too long has a text. -/
theorem exists_bare {d : Datum} (h : d.Writable) : ∃ text, d.bare = .ok text := by
  obtain ⟨text, htext⟩ := exists_written d h
  cases d with
  | text t => exact ⟨_, rfl⟩
  | date _ => exact ⟨_, rfl⟩
  | moment _ => exact ⟨_, rfl⟩
  | _ => exact ⟨Text.ofString text, by simp [bare, htext]⟩

end KernelCalls.Datum
