namespace KernelCalls

/-!
# Texts

A text is a list of code points. Most of them are characters, but an escape can also put half of a
surrogate pair into a text, which no character is. Two halves side by side stay two.

* `CodePoint`, `Text` : code points and texts
* `CodePoint.number`, `CodePoint.ofNumber?` : the number of a code point and back
* `ofNumber?_eq_some_iff` : the two agree
* `Text.ofString`, `Text.toString?` : texts of characters, and `toString?_ofString`
-/

/-- A code point. -/
inductive CodePoint where
  | char (c : Char)
  /-- The half of a surrogate pair with the number `0xd800 + k`. -/
  | half (k : Fin 0x800)
  deriving DecidableEq, Repr

/-- A list of code points. -/
abbrev Text := List CodePoint

instance : Coe Char CodePoint := ⟨.char⟩

namespace CodePoint

/-- The number of a code point. -/
def number : CodePoint → Nat
  | char c => c.toNat
  | half k => 0xd800 + k

/-- The code point with a number, of which there are 1114112. -/
def ofNumber? (n : Nat) : Option CodePoint :=
  if h : 0xd800 ≤ n ∧ n < 0xe000 then some (half ⟨n - 0xd800, by omega⟩)
  else if n < 0x110000 then some (char (Char.ofNat n))
  else none

/-- The character that a code point is. -/
def char? : CodePoint → Option Char
  | char c => some c
  | half _ => none

/-- The character that stands for a code point where there must be one; for a half it is the
replacement character. -/
def shown : CodePoint → Char
  | char c => c
  | half _ => '\ufffd'

/-- The code point is a character of a kind. -/
def is (p : Char → Bool) : CodePoint → Bool
  | char c => p c
  | half _ => false

/-- The code point is half of a surrogate pair. -/
def isHalf : CodePoint → Bool
  | char _ => false
  | half _ => true

/-- The size of a code point as bytes. Of the halves only those count that stand for one byte. -/
def byteSize : CodePoint → Nat
  | char c => c.utf8Size
  | half _ => 1

/-- The character of a number that has one has that number. -/
theorem toNat_ofNat_of_isValidChar {n : Nat} (h : n.isValidChar) : (Char.ofNat n).toNat = n := by
  rw [Char.ofNat, dif_pos h]
  rfl

/-- The number of a character has one. -/
theorem isValidChar_toNat (c : Char) : c.toNat.isValidChar := c.valid

/-- The code point of a number has that number. -/
theorem number_of_ofNumber? {n : Nat} {c : CodePoint} (h : ofNumber? n = some c) :
    c.number = n := by
  unfold ofNumber? at h
  split at h
  · next hn =>
    cases h
    simp only [number]
    omega
  · next hn =>
    split at h
    · cases h
      exact toNat_ofNat_of_isValidChar (by unfold Nat.isValidChar; omega)
    · cases h

/-- Every code point is that of its own number. -/
theorem ofNumber?_number (c : CodePoint) : ofNumber? c.number = some c := by
  cases c with
  | char c =>
    have hv := isValidChar_toNat c
    unfold Nat.isValidChar at hv
    rw [ofNumber?, number, dif_neg (by omega), if_pos (by omega), Char.ofNat_toNat]
  | half k =>
    have := k.isLt
    rw [ofNumber?, number, dif_pos (by omega)]
    simp

/-- A number is that of at most one code point, and each code point has its number. -/
theorem ofNumber?_eq_some_iff {n : Nat} {c : CodePoint} : ofNumber? n = some c ↔ c.number = n :=
  ⟨number_of_ofNumber?, fun h => h ▸ ofNumber?_number c⟩

end CodePoint

namespace Text

/-- The text of the same characters. -/
def ofString (s : String) : Text := s.toList.map CodePoint.char

instance : Coe String Text := ⟨ofString⟩

/-- The characters of a text without halves. -/
def toString? (t : Text) : Option String := (t.mapM CodePoint.char?).map String.ofList

/-- The characters of a text of characters are those that it was made of. -/
theorem toString?_ofString (s : String) : toString? (ofString s) = some s := by
  have h : ∀ cs : List Char, (cs.map CodePoint.char).mapM CodePoint.char? = some cs := by
    intro cs
    induction cs with
    | nil => rfl
    | cons c rest ih => simp [CodePoint.char?, ih]
  rw [toString?, ofString, h, Option.map_some, String.ofList_toList]

/-- Texts in the order of the numbers of their code points. -/
def precedes : Text → Text → Bool
  | [], _ => true
  | _ :: _, [] => false
  | c :: s, d :: t => c.number < d.number || (c == d && precedes s t)

/-- The size of a text as bytes. -/
def byteSize (t : Text) : Nat := t.foldl (fun n c => n + c.byteSize) 0

/-- Texts one after the other with a separator between them. -/
def joined (separator : Text) (parts : List Text) : Text := separator.intercalate parts

end Text

end KernelCalls
