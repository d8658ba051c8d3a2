import KernelCalls.Text.Numeral
import Mathlib.Data.Nat.Digits.Lemmas

namespace KernelCalls.Text

/-!
# Numerals without leading zeros

A number has one decimal numeral that does not start with a needless zero.  This file names that
property of a text and gives a writer for it, in any base up to 36.

* `IsNumeral digits n` : the text is the plain decimal numeral of `n`.
* `numeral base n` : the digits of `n` in a base, with capital letters from ten on.
* `isNumeral_numeral`, `IsNumeral.eq_numeral` : in base ten the two agree, so that plain numerals
  are unique.
* `ofString_repr` : the decimal text that numbers are written with is this numeral.
* `takeWhile_append_of_stop`, `dropWhile_append_of_stop` : a run of characters ends where the next
  character is of another kind.
-/

/-! ### Runs of characters -/

section Runs

variable {p : CodePoint → Bool} {run rest : Text}

/-- A run ends where something else follows. -/
theorem takeWhile_append_of_stop (hrun : ∀ c ∈ run, p c = true)
    (hstop : ∀ c, rest.head? = some c → p c = false) : (run ++ rest).takeWhile p = run := by
  rw [List.takeWhile_append_of_pos hrun]
  cases rest with
  | nil => simp
  | cons c tail => simp [hstop c rfl]

/-- What follows a run is left. -/
theorem dropWhile_append_of_stop (hrun : ∀ c ∈ run, p c = true)
    (hstop : ∀ c, rest.head? = some c → p c = false) : (run ++ rest).dropWhile p = rest := by
  rw [List.dropWhile_append_of_pos hrun]
  cases rest with
  | nil => simp
  | cons c tail => simp [hstop c rfl]

/-- Every text is a run of characters of a kind, which may be empty, and what follows it. -/
theorem exists_run (p : CodePoint → Bool) (text : Text) :
    ∃ run rest, text = run ++ rest ∧ (∀ c ∈ run, p c = true) ∧
      ∀ c, rest.head? = some c → p c = false := by
  refine ⟨text.takeWhile p, text.dropWhile p, List.takeWhile_append_dropWhile.symm,
    List.all_eq_true.mp List.all_takeWhile, fun c hc => ?_⟩
  have hnot := List.head?_dropWhile_not p text
  rw [hc] at hnot
  exact hnot

end Runs

/-! ### Plain numerals -/

/-- The text is the decimal numeral of a number, without leading zeros. -/
structure IsNumeral (digits : Text) (n : Nat) : Prop where
  ne_nil : digits ≠ []
  isDigit : ∀ c ∈ digits, c.is isDigit = true
  leading : digits.head? = some (.char '0') → digits.length = 1
  value : ofDigitValues 10 (digits.map digitValue) = n

/-! ### Digits and their values -/

/-- A character that is a digit has its number among ten. -/
theorem eq_char_of_isDigit {c : CodePoint} (h : c.is isDigit = true) :
    ∃ d : Char, c = .char d ∧ 48 ≤ d.toNat ∧ d.toNat ≤ 57 := by
  cases c with
  | char d =>
    refine ⟨d, rfl, ?_⟩
    simp only [CodePoint.is, isDigit, Bool.and_eq_true, decide_eq_true_eq] at h
    exact ⟨h.1, h.2⟩
  | half k => exact absurd h (by simp [CodePoint.is])

/-- A decimal digit stands for less than ten. -/
theorem digitValue_lt_ten {c : CodePoint} (h : c.is isDigit = true) : digitValue c < 10 := by
  obtain ⟨d, rfl, _, hd⟩ := eq_char_of_isDigit h
  rw [digitValue, if_pos h]
  show d.toNat - 48 < 10
  omega

/-- Only the character zero is a digit of value zero. -/
theorem eq_zero_of_digitValue {c : CodePoint} (h : c.is isDigit = true) (hv : digitValue c = 0) :
    c = .char '0' := by
  obtain ⟨d, rfl, hd, _⟩ := eq_char_of_isDigit h
  rw [digitValue, if_pos h] at hv
  have hd' : d.toNat - 48 = 0 := hv
  have h48 : d.toNat = '0'.toNat := by
    show d.toNat = 48
    omega
  rw [Char.toNat_inj.mp h48]

/-- Folding digits from the front is the value of the reversed digit list. -/
theorem ofDigitValues_eq_ofDigits (base : Nat) (ds : List Nat) :
    ofDigitValues base ds = Nat.ofDigits base ds.reverse := by
  have h : ∀ n, ds.foldl (fun n d => n * base + d) n
      = Nat.ofDigits base ds.reverse + base ^ ds.length * n := by
    induction ds with
    | nil => simp
    | cons d rest ih =>
      intro n
      rw [List.foldl_cons, ih, List.reverse_cons, Nat.ofDigits_append, Nat.ofDigits_singleton,
        List.length_reverse, List.length_cons]
      ring
  rw [ofDigitValues, h 0, Nat.mul_zero, Nat.add_zero]

/-! ### Writing numerals -/

/-- The character of a digit value below 36. -/
def digit (v : Nat) : CodePoint :=
  if v < 10 then .char (Char.ofNat ('0'.toNat + v)) else .char (Char.ofNat ('A'.toNat + (v - 10)))

/-- The digits of a number in a base, the most significant first. -/
def numeral (base n : Nat) : Text :=
  if n = 0 then [digit 0] else (Nat.digits base n).reverse.map digit

/-- A digit stands for the value that it was written for. -/
theorem digitValue_digit {v : Nat} (h : v < 36) : digitValue (digit v) = v := by
  revert v
  decide

/-- Values below ten are written as decimal digits. -/
theorem isDigit_digit {v : Nat} (h : v < 10) : (digit v).is isDigit = true := by
  revert v
  decide

/-- A digit in any base is a decimal digit or a capital letter. -/
theorem isDigit_or_isUpper_digit {v : Nat} (h : v < 36) :
    (digit v).is (fun d => isDigit d || isUpper d) = true := by
  revert v
  decide

/-- Every number has a digit. -/
theorem numeral_ne_nil (base n : Nat) : numeral base n ≠ [] := by
  unfold numeral
  split
  · simp
  · next hn => simpa [Nat.digits_eq_nil_iff_eq_zero] using hn

/-- Every character of a numeral is the digit of a value below the base. -/
theorem mem_numeral {base n : Nat} (hb : 1 < base) {c : CodePoint} (hc : c ∈ numeral base n) :
    ∃ v < base, c = digit v := by
  unfold numeral at hc
  split at hc
  · rw [List.mem_singleton] at hc
    exact ⟨0, by omega, hc⟩
  · rw [List.mem_map] at hc
    obtain ⟨v, hv, rfl⟩ := hc
    exact ⟨v, Nat.digits_lt_base hb (List.mem_reverse.mp hv), rfl⟩

/-- Reading a numeral in its base gives the number back. -/
theorem ofDigitValues_numeral {base : Nat} (hb : 1 < base) (hb' : base ≤ 36) (n : Nat) :
    ofDigitValues base ((numeral base n).map digitValue) = n := by
  unfold numeral
  split
  · next hn => simp [hn, ofDigitValues, digitValue_digit]
  · have hvalues : (Nat.digits base n).reverse.map (digitValue ∘ digit)
        = (Nat.digits base n).reverse.map id := by
      apply List.map_congr_left
      intro v hv
      have hlt := Nat.digits_lt_base hb (List.mem_reverse.mp hv)
      exact digitValue_digit (by omega)
    rw [List.map_map, hvalues, List.map_id, ofDigitValues_eq_ofDigits, List.reverse_reverse,
      Nat.ofDigits_digits]

theorem tenTo_eq (n : Nat) : tenTo n = 10 ^ n := rfl

/-- A number is below the power of the base that has as many digits. -/
theorem lt_pow_length_numeral {base : Nat} (hb : 1 < base) (n : Nat) :
    n < base ^ (numeral base n).length := by
  unfold numeral
  split
  · next hn =>
    rw [hn]
    exact Nat.pow_pos (by omega)
  · rw [List.length_map, List.length_reverse]
    exact Nat.lt_base_pow_length_digits hb

/-- The numeral in base ten is plain. -/
theorem isNumeral_numeral (n : Nat) : IsNumeral (numeral 10 n) n where
  ne_nil := numeral_ne_nil 10 n
  isDigit := by
    intro c hc
    obtain ⟨v, hv, rfl⟩ := mem_numeral (by omega) hc
    exact isDigit_digit hv
  leading := by
    intro hhead
    unfold numeral at hhead ⊢
    split at hhead
    · next hn => simp [hn]
    · next hn =>
      -- the first digit is the last one of the reversed list, which is not zero
      exfalso
      have hne : Nat.digits 10 n ≠ [] := Nat.digits_ne_nil_iff_ne_zero.mpr hn
      rw [List.head?_map, List.head?_reverse, List.getLast?_eq_some_getLast hne, Option.map_some,
        Option.some.injEq] at hhead
      have hlt : (Nat.digits 10 n).getLast hne < 10 :=
        Nat.digits_lt_base (by omega) (List.getLast_mem hne)
      have hzero := congrArg digitValue hhead
      rw [digitValue_digit (by omega)] at hzero
      exact Nat.getLast_digit_ne_zero 10 hn hzero
  value := ofDigitValues_numeral (by omega) (by omega) n

/-! ### Plain numerals are unique -/

/-- A digit is the character of its value. -/
theorem digit_digitValue {c : CodePoint} (h : c.is isDigit = true) : digit (digitValue c) = c := by
  obtain ⟨d, rfl, hlo, hhi⟩ := eq_char_of_isDigit h
  have hv : digitValue (.char d) = d.toNat - 48 := by
    rw [digitValue, if_pos h]
    rfl
  rw [hv, digit, if_pos (by omega)]
  show CodePoint.char (Char.ofNat (48 + (d.toNat - 48))) = .char d
  rw [show 48 + (d.toNat - 48) = d.toNat by omega, Char.ofNat_toNat]

/-- The first digit of a plain numeral of a positive number is not zero. -/
theorem IsNumeral.head_ne_zero {digits : Text} {n : Nat} (h : IsNumeral digits n) (hn : n ≠ 0) :
    digits.head? ≠ some (.char '0') := by
  intro hhead
  have hlen := h.leading hhead
  match digits, hlen with
  | [c], _ =>
    simp only [List.head?_cons, Option.some.injEq] at hhead
    subst hhead
    exact hn h.value.symm

/-- The digits of a plain numeral of a positive number are the digits of the number. -/
theorem IsNumeral.digits_eq {digits : Text} {n : Nat} (h : IsNumeral digits n) (hn : n ≠ 0) :
    Nat.digits 10 n = (digits.map digitValue).reverse := by
  have hvalue := h.value
  rw [ofDigitValues_eq_ofDigits] at hvalue
  have hlt : ∀ v ∈ (digits.map digitValue).reverse, v < 10 := by
    intro v hv
    rw [List.mem_reverse, List.mem_map] at hv
    obtain ⟨c, hc, rfl⟩ := hv
    exact digitValue_lt_ten (h.isDigit c hc)
  rw [← hvalue]
  apply Nat.digits_ofDigits 10 (by omega) _ hlt
  -- the last of the reversed digits is the first character, which is not zero
  intro hne hlast
  cases hd : digits with
  | nil => exact absurd hd h.ne_nil
  | cons c rest =>
    simp only [hd, List.map_cons, List.reverse_cons, List.getLast_append_singleton] at hlast
    have hc0 := eq_zero_of_digitValue (h.isDigit c (by simp [hd])) hlast
    exact h.head_ne_zero hn (by simp [hd, hc0])

/-- The only plain numeral of zero is `0`. -/
theorem IsNumeral.eq_zero {digits : Text} (h : IsNumeral digits 0) : digits = [.char '0'] := by
  have hvalue := h.value
  rw [ofDigitValues_eq_ofDigits] at hvalue
  cases hd : digits with
  | nil => exact absurd hd h.ne_nil
  | cons c rest =>
    -- every digit is zero, so the numeral cannot be longer than one
    have hc : digitValue c = 0 := by
      have hsum := Nat.sum_le_ofDigits (p := 10) (digits.map digitValue).reverse (by omega)
      rw [hvalue, hd, List.sum_reverse, List.map_cons, List.sum_cons] at hsum
      omega
    have hc0 := eq_zero_of_digitValue (h.isDigit c (by simp [hd])) hc
    have hlen := h.leading (by simp [hd, hc0])
    rw [hd, List.length_cons] at hlen
    rw [List.eq_nil_of_length_eq_zero (by omega : rest.length = 0), hc0]

/-- **Uniqueness.** A plain decimal numeral is the one that is written for its number. -/
theorem IsNumeral.eq_numeral {digits : Text} {n : Nat} (h : IsNumeral digits n) :
    digits = numeral 10 n := by
  by_cases hn : n = 0
  · subst hn
    exact h.eq_zero
  · have hback : digits = (digits.map digitValue).map digit := by
      rw [List.map_map]
      conv_lhs => rw [← List.map_id digits]
      exact List.map_congr_left fun c hc => (digit_digitValue (h.isDigit c hc)).symm
    rw [numeral, if_neg hn, h.digits_eq hn, List.reverse_reverse]
    exact hback

/-- A power of ten is not zero. -/
theorem tenTo_pos (n : Nat) : 0 < tenTo n := by
  rw [tenTo_eq]
  exact Nat.pow_pos (by omega)

/-- A number whose plain numeral can be read can also be written. -/
theorem IsNumeral.lt_tenTo {digits : Text} {n : Nat} (h : IsNumeral digits n)
    (hlen : digits.length ≤ maxDigits) : n < tenTo maxDigits := by
  rw [h.eq_numeral] at hlen
  rw [tenTo_eq]
  exact Nat.lt_of_lt_of_le (lt_pow_length_numeral (by omega) n)
    (Nat.pow_le_pow_right (by omega) hlen)

/-- The numeral of a number that can be written can also be read. -/
theorem length_numeral_le {n : Nat} (h : n < tenTo maxDigits) :
    (numeral 10 n).length ≤ maxDigits := by
  unfold numeral
  split
  · show 1 ≤ maxDigits
    decide
  · rw [List.length_map, List.length_reverse, Nat.digits_length_le_iff (by omega), ← tenTo_eq]
    exact h

/-! ### The decimal text of a number -/

/-- A number below the base is a single digit. -/
theorem numeral_of_lt {base n : Nat} (h : n < base) : numeral base n = [digit n] := by
  unfold numeral
  split
  · next hn => rw [hn]
  · next hn => rw [Nat.digits_of_lt base n hn h, List.reverse_singleton, List.map_singleton]

/-- Any other number is written behind its quotient by the base. -/
theorem numeral_of_le {base n : Nat} (hb : 1 < base) (h : base ≤ n) :
    numeral base n = numeral base (n / base) ++ [digit (n % base)] := by
  have hn : n ≠ 0 := by omega
  have hq : n / base ≠ 0 := by
    have := Nat.div_pos h (by omega)
    omega
  rw [numeral, if_neg hn, Nat.digits_eq_cons_digits_div hb hn, List.reverse_cons, List.map_append,
    numeral, if_neg hq, List.map_singleton]

/-- The decimal digits are those of the library. -/
theorem char_digitChar {v : Nat} (h : v < 10) : CodePoint.char v.digitChar = digit v := by
  revert v
  decide

/-- The decimal text of a number is its plain numeral. -/
theorem ofString_repr (n : Nat) : ofString n.repr = numeral 10 n := by
  rw [ofString, Nat.toList_repr]
  induction n using Nat.strong_induction_on with
  | _ n ih =>
    by_cases h : n < 10
    · rw [Nat.toDigits_of_lt_base h, numeral_of_lt h, List.map_singleton, char_digitChar h]
    · rw [Nat.toDigits_of_base_le (by omega) (by omega), numeral_of_le (by omega) (by omega),
        List.map_append, ih (n / 10) (by omega), List.map_singleton,
        char_digitChar (Nat.mod_lt n (by omega))]

end KernelCalls.Text
