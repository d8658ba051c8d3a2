import KernelCalls.Proofs.Mangling.Maximal
import KernelCalls.Proofs.Outcome

namespace KernelCalls.Mangling

open Outcome
open Text (IsNumeral)

/-!
# Reading names and qualifiers

Every number, counted name and maximal group of qualifiers is read, whatever follows it, and only a
numeral that is too long can stop the reading.

* `Reads` : the value is read, or a numeral is too long and stops the reading.
* `reads_readNumber`, `reads_readSourceName`, `reads_readQualifiers` : one statement for each
  reader.
-/

/-- Reading gives the value, or one of the numerals is too long and that is what stops it. -/
structure Reads {α : Type} (numerals : List Text) (reading : Except Halt α) (a : α) : Prop where
  ok : Readable numerals → reading = .ok a
  tooLong : ¬ Readable numerals → ∃ k, reading = .error (.fault (.number (.tooLongToRead k)))

section Reads

variable {α β : Type} {numerals numerals' : List Text} {reading : Except Halt α} {a : α}

/-- Numerals can be read together if each part of them can. -/
theorem readable_append :
    Readable (numerals ++ numerals') ↔ Readable numerals ∧ Readable numerals' := by
  simp [Readable, or_imp, forall_and]

/-- One numeral can be read if it is short enough. -/
theorem readable_singleton {digits : Text} :
    Readable [digits] ↔ digits.length ≤ Text.maxDigits := by
  simp [Readable]

/-- What needs no numeral is always read. -/
theorem Reads.of_eq_ok (h : reading = .ok a) : Reads [] reading a where
  ok _ := h
  tooLong hn := absurd (by simp [Readable]) hn

/-- One reading after another needs the numerals of both, and the first numeral that is too long is
    what stops it. -/
theorem Reads.bind {f : α → Except Halt β} {b : β} (h : Reads numerals reading a)
    (hf : Reads numerals' (f a) b) : Reads (numerals ++ numerals') (reading.bind f) b where
  ok hr := by
    -- all numerals can be read: both readings give their values
    obtain ⟨h1, h2⟩ := readable_append.mp hr
    rw [h.ok h1, ok_bind, hf.ok h2]
  tooLong hr := by
    -- some numeral is too long: it belongs to the second reading only if the first one is done
    by_cases h1 : Readable numerals
    · rw [h.ok h1, ok_bind]
      exact hf.tooLong fun h2 => hr (readable_append.mpr ⟨h1, h2⟩)
    · obtain ⟨k, hk⟩ := h.tooLong h1
      exact ⟨k, by rw [hk, error_bind]⟩

/-- A step that needs no numeral follows. -/
theorem Reads.bind_ok {f : α → Except Halt β} {b : β} (h : Reads numerals reading a)
    (hf : f a = .ok b) : Reads numerals (reading.bind f) b := by
  have hb := h.bind (Reads.of_eq_ok hf)
  rwa [List.append_nil] at hb

/-- What is made of the value afterwards needs no further numeral. -/
theorem Reads.map {f : α → β} (h : Reads numerals reading a) :
    Reads numerals (reading.map f) (f a) where
  ok hr := by rw [h.ok hr, map_ok]
  tooLong hr := by
    obtain ⟨k, hk⟩ := h.tooLong hr
    exact ⟨k, by rw [hk, map_error]⟩

end Reads

/-! ### Numbers and names -/

/-- A number takes all the digits that the text starts with. -/
theorem readNumber_append {digits rest : Text} (hdigits : ∀ c ∈ digits, c.is Text.isDigit = true)
    (hstop : ∀ c, rest.head? = some c → c.is Text.isDigit = false) :
    readNumber (digits ++ rest) =
      if digits.isEmpty then .error (.refused .expectedNumber (digits ++ rest))
      else if 1 < digits.length ∧ digits.head? = some (.char '0') then
        .error (.refused .leadingZero (digits ++ rest))
      else
        match Text.ofDigits 10 digits with
        | .ok n => .ok (n, rest)
        | .error e => .error (.fault (.number e)) := by
  cases hvalue : Text.ofDigits 10 digits <;>
    simp only [readNumber, Text.takeWhile_append_of_stop hdigits hstop,
      Text.dropWhile_append_of_stop hdigits hstop, hvalue]

/-- A numeral is read with its value, up to the first character that is no digit. -/
theorem reads_readNumber {digits rest : Text} {n : Nat} (h : IsNumeral digits n)
    (hstop : ∀ c, rest.head? = some c → c.is Text.isDigit = false) :
    Reads [digits] (readNumber (digits ++ rest)) (n, rest) := by
  have hne : ¬ digits.isEmpty = true := fun hempty => h.ne_nil (List.isEmpty_iff.mp hempty)
  have hlead : ¬ (1 < digits.length ∧ digits.head? = some (.char '0')) := by
    rintro ⟨hlen, hhead⟩
    have := h.leading hhead
    omega
  -- a numeral is neither empty nor has it a leading zero, so its value alone is left
  rw [readNumber_append h.isDigit hstop, if_neg hne, if_neg hlead, Text.ofDigits]
  constructor
  · intro hr
    rw [if_pos (readable_singleton.mp hr), h.value]
  · intro hr
    rw [readable_singleton] at hr
    rw [if_neg hr]
    exact ⟨_, rfl⟩

/-- A counted name is a number and then as many characters. -/
theorem readSourceName_eq (cs : Text) :
    readSourceName cs = (readNumber cs).bind fun r =>
      if r.1 = 0 ∨ r.2.length < r.1 then .error (.refused (.nameTooLong r.1) r.2)
      else if isIdentifier (r.2.take r.1) then .ok (r.2.take r.1, r.2.drop r.1)
      else .error (.refused (.invalidIdentifier (r.2.take r.1)) r.2) := by
  unfold readSourceName
  cases readNumber cs <;> rfl

/-- A counted name is read, whatever follows it, since its length says where it ends. -/
theorem reads_readSourceName {text numeral name : Text} (h : IsSourceName text numeral name)
    (rest : Text) : Reads [numeral] (readSourceName (text ++ rest)) (name, rest) := by
  have hne : name.length ≠ 0 := fun h0 => h.name_ne_nil (List.eq_nil_of_length_eq_zero h0)
  rw [readSourceName_eq, h.text_eq, List.append_assoc]
  refine (reads_readNumber h.isNumeral (not_isDigit_of_isIdentifier h.identifier)).bind_ok ?_
  have hlen : ¬ (name.length = 0 ∨ (name ++ rest).length < name.length) := by
    rw [List.length_append]
    omega
  dsimp only
  rw [if_neg hlen, List.take_left, List.drop_left, if_pos h.identifier]

/-! ### Qualifiers -/

/-- What does not start with `U` has no vendor qualifier to be read. -/
theorem readVendorQualifiers_of_head_ne {cs : Text} (h : cs.head? ≠ some (.char 'U')) :
    readVendorQualifiers cs = .ok cs := by
  cases cs with
  | nil => rw [readVendorQualifiers]; simp
  | cons c tail =>
    simp only [List.head?_cons, ne_eq, Option.some.injEq] at h
    exact readVendorQualifiers_of_ne h

/-- A vendor qualifier and the qualifiers behind it. -/
theorem readVendorQualifiers_cons {cs : Text}
    (hdigit : cs.head?.any (·.is Text.isDigit) = true) :
    readVendorQualifiers (.char 'U' :: cs)
      = (readSourceName cs).bind fun r =>
          if r.2.head? = some (.char 'I') then .error (.refused .templatedQualifier r.2)
          else readVendorQualifiers r.2 := by
  rw [readVendorQualifiers, if_pos hdigit]
  split <;> simp_all

/-- Vendor qualifiers are read to the last one. Behind it stands neither another one nor the
    template arguments that the reader refuses. -/
theorem reads_readVendorQualifiers {vendors after : Text} {numerals : List Text}
    (h : VendorQualifiers vendors numerals) (hU : after.head? ≠ some (.char 'U'))
    (hI : after.head? ≠ some (.char 'I')) :
    Reads numerals (readVendorQualifiers (vendors ++ after)) after := by
  -- induction on the run of qualifiers; each is a counted name behind its `U`
  induction h with
  | nil => exact Reads.of_eq_ok (readVendorQualifiers_of_head_ne hU)
  | @cons source numeral name rest numerals head tail ih =>
    obtain ⟨c, digits, hsource, hc⟩ := head.head_isDigit (rest ++ after)
    have hdigit : (source ++ (rest ++ after)).head?.any (·.is Text.isDigit) = true := by
      simp [hsource, hc]
    rw [List.cons_append, List.append_assoc, readVendorQualifiers_cons hdigit]
    show Reads ([numeral] ++ numerals) _ _
    refine (reads_readSourceName head _).bind ?_
    -- what follows the name is another qualifier or the end of the group
    have hnotI : (rest ++ after).head? ≠ some (.char 'I') := by
      cases tail with
      | nil => exact hI
      | cons _ _ => simp
    dsimp only
    rw [if_neg hnotI]
    exact ih

/-- A maximal group is read as a whole: the vendor qualifiers one by one, then the flags, which stop
    where the group does. -/
theorem reads_readQualifiers {group text : Text} {numerals : List Text}
    (hg : QualifierGroup group numerals) (hmax : IsMaximal group text) (hfollows : Follows text)
    (rest : Text) :
    Reads numerals (readQualifiers (group ++ (text ++ rest))) (text ++ rest) := by
  obtain @⟨vendors, r, v, k, _, vendor, hr, hv, hk, hne⟩ := hg
  have hstops := hmax.stops vendor hr hv hfollows
  -- in the symbol, what follows the group still starts as `text` does
  have hsame : (text ++ rest).head? = text.head? := List.head?_append_of_ne_nil _ hfollows.ne_nil
  have hstops' : Stops r v k (text ++ rest) := by
    refine ⟨?_, ?_, ?_, ?_⟩ <;> rw [hsame]
    exacts [hstops.const, hstops.volatile, hstops.restrict, hstops.vendor]
  -- neither the flags nor what stops them look like a vendor qualifier or template arguments
  have hU : (r ++ (v ++ (k ++ (text ++ rest)))).head? ≠ some (.char 'U') :=
    head_flags_ne hr hv hk rfl hstops'.vendor
  have hI : (r ++ (v ++ (k ++ (text ++ rest)))).head? ≠ some (.char 'I') :=
    head_flags_ne hr hv hk rfl fun _ => hsame ▸ hfollows.notTemplate
  rw [List.append_assoc, List.append_assoc, List.append_assoc]
  -- the vendor qualifiers are read, and dropping the flags leaves what follows the group
  have hread := (reads_readVendorQualifiers vendor hU hI).map (f := dropFlags)
  rwa [hstops'.dropFlags hr hv hk] at hread

end KernelCalls.Mangling
