import KernelCalls.Recognition
import KernelCalls.Proofs.TypeInfo

namespace KernelCalls.TypeName

open Text (IsNumeral)

/-!
# What type names spell

A type name is the spelling of a scalar, and behind it for a vector the plain numeral of its width.

* `split_eq_some_iff` : where the letters of a name end.
* `Spells` : a name with its shape.
* `parse_vector`, `parse_eq_ok_some_iff` : reading finds the shape of a name and nothing else.
* `Spells.text` : the name is the text of its shape.
* `spells_iff_text_eq` : the shapes that a name can have are those with `Accepted` widths.
* `parse_eq_iff_text_eq` : reading undoes writing, and reads nothing that is not written.
-/

/-! ### Letters and digits -/

/-- A digit is no lower-case letter. -/
theorem not_isLower_of_isDigit {c : CodePoint} (h : c.is Text.isDigit = true) :
    c.is Text.isLower = false := by
  obtain ⟨d, rfl, -, hhi⟩ := Text.eq_char_of_isDigit h
  show Text.isLower d = false
  rw [← Bool.not_eq_true]
  intro hlower
  simp only [Text.isLower, Bool.and_eq_true, decide_eq_true_eq] at hlower
  have ha : 97 ≤ d.toNat := hlower.1
  omega

/-- A name is letters and digits, of which the first is not zero. -/
theorem split_eq_some_iff {name letters digits : Text} :
    split name = some (letters, digits) ↔
      name = letters ++ digits ∧ letters ≠ [] ∧ (∀ c ∈ letters, c.is Text.isLower = true) ∧
        digits.head? ≠ some (.char '0') ∧ ∀ c ∈ digits, c.is Text.isDigit = true := by
  unfold split
  dsimp only
  constructor
  · intro h
    split at h
    · next hcond =>
      cases h
      simp only [Bool.and_eq_true, Bool.not_eq_true', List.isEmpty_eq_false_iff, bne_iff_ne,
        List.all_eq_true] at hcond
      obtain ⟨hne, hhead, hdigits⟩ := hcond
      exact ⟨List.takeWhile_append_dropWhile.symm, hne, List.all_eq_true.mp List.all_takeWhile,
        hhead, hdigits⟩
    · cases h
  · rintro ⟨rfl, hne, hletters, hhead, hdigits⟩
    -- no digit is a letter, so the letters end where the digits begin
    have hstop : ∀ c, digits.head? = some c → c.is Text.isLower = false := by
      intro c hc
      exact not_isLower_of_isDigit (hdigits c (List.mem_of_mem_head? hc))
    rw [Text.takeWhile_append_of_stop hletters hstop, Text.dropWhile_append_of_stop hletters hstop,
      if_pos]
    simp only [Bool.and_eq_true, Bool.not_eq_true', List.isEmpty_eq_false_iff, bne_iff_ne,
      List.all_eq_true]
    exact ⟨hne, hhead, hdigits⟩

/-- Every scalar is spelled with at least one letter. -/
theorem spelling_ne_nil (s : Scalar) : Text.ofString s.spelling ≠ [] := by
  cases s <;> decide

/-- Scalars are spelled in lower-case letters, so that a width behind them stands out. -/
theorem isLower_spelling (s : Scalar) :
    ∀ c ∈ Text.ofString s.spelling, c.is Text.isLower = true := by
  cases s <;> decide

/-- A scalar is found by its own spelling only. -/
theorem spelling_of_ofSpelling? {letters : Text} {s : Scalar}
    (h : Scalar.ofSpelling? letters = some s) : letters = Text.ofString s.spelling := by
  unfold Scalar.ofSpelling? at h
  have hfound := List.find?_some h
  exact (beq_iff_eq.mp hfound).symm

/-! ### Names -/

/-- A name with its shape: a scalar, or a vector of numbers of one of the given widths. -/
inductive Spells (widths : List Int) : Text → TypeInfo → Prop where
  | scalar (s : Scalar) : Spells widths s.spelling s.type
  | vector (s : Scalar) {n : Nat} (ne_zero : n ≠ 0)
      (short : (Text.numeral 10 n).length ≤ Text.maxDigits) (allowed : (n : Int) ∈ widths)
      (isNumeric : s.kind.isNumeric = true) :
      Spells widths (s.spelling ++ Text.numeral 10 n) { s.type with width := n }

/-- A name is the text of the shape that it spells. -/
theorem Spells.text {widths : List Int} {name : Text} {t : TypeInfo} (h : Spells widths name t) :
    t.text = .ok name := by
  cases h with
  | scalar s => exact TypeInfo.text_scalar s
  | vector s ne_zero short => exact TypeInfo.text_vector s ne_zero short

/-- The spelling of a scalar is read as the scalar. -/
theorem parse_scalar (s : Scalar) (widths : List Int) :
    parse s.spelling widths = .ok (some s.type) := by
  have hsplit : split s.spelling = some (Text.ofString s.spelling, []) :=
    split_eq_some_iff.mpr
      ⟨(List.append_nil _).symm, spelling_ne_nil s, isLower_spelling s, by simp, by simp⟩
  simp only [parse, hsplit, Scalar.ofSpelling?_spelling, List.isEmpty_nil, if_true]

/-- A scalar with a width is read as a vector if the scalar is a number and the width is one of
    those given, and otherwise as no type. -/
theorem parse_vector (s : Scalar) (widths : List Int) {n : Nat} (hn : n ≠ 0)
    (hlen : (Text.numeral 10 n).length ≤ Text.maxDigits) :
    parse (s.spelling ++ Text.numeral 10 n) widths =
      .ok (if (n : Int) ∈ widths ∧ s.kind.isNumeric = true then some { s.type with width := n }
        else none) := by
  have hnumeral := Text.isNumeral_numeral n
  have hsplit : split (s.spelling ++ Text.numeral 10 n)
      = some (Text.ofString s.spelling, Text.numeral 10 n) :=
    split_eq_some_iff.mpr
      ⟨rfl, spelling_ne_nil s, isLower_spelling s, hnumeral.head_ne_zero hn, hnumeral.isDigit⟩
  have hne : (Text.numeral 10 n).isEmpty = false := List.isEmpty_eq_false_iff.mpr hnumeral.ne_nil
  have hdigits : Text.ofDigits 10 (Text.numeral 10 n) = .ok n := by
    rw [Text.ofDigits, if_pos hlen, hnumeral.value]
  simp only [parse, hsplit, Scalar.ofSpelling?_spelling, hne, hdigits, Bool.false_eq_true, if_false]
  split
  · next hallowed =>
    rw [TypeInfo.withWidth_eq_ok s.type_wellFormed hallowed.2]
  · rfl

/-- Digits that are read as a width are the plain numeral of a positive number. -/
theorem eq_numeral_of_ofDigits {digits : Text} {n : Nat} (hne : digits ≠ [])
    (hdigits : ∀ c ∈ digits, c.is Text.isDigit = true) (hhead : digits.head? ≠ some (.char '0'))
    (h : Text.ofDigits 10 digits = .ok n) :
    n ≠ 0 ∧ digits = Text.numeral 10 n ∧ digits.length ≤ Text.maxDigits := by
  rw [Text.ofDigits] at h
  split at h
  · next hlen =>
    cases h
    have hnumeral : IsNumeral digits _ := ⟨hne, hdigits, fun hzero => absurd hzero hhead, rfl⟩
    -- the numeral of zero is the one that starts with zero
    refine ⟨fun h0 => ?_, hnumeral.eq_numeral, hlen⟩
    rw [h0] at hnumeral
    exact hhead (by rw [hnumeral.eq_zero]; rfl)
  · cases h

/-- **Reading.** A name is read as the shape that it spells, and only then as a shape. -/
theorem parse_eq_ok_some_iff {widths : List Int} {name : Text} {t : TypeInfo} :
    parse name widths = .ok (some t) ↔ Spells widths name t := by
  constructor
  · intro h
    unfold parse at h
    split at h
    · cases h
    · next letters digits hsplit =>
      -- letters that are a scalar, and digits that are a number of lanes if there are any
      obtain ⟨rfl, -, -, hhead, hdigits⟩ := split_eq_some_iff.mp hsplit
      split at h
      · cases h
      · next s hs =>
        obtain rfl := spelling_of_ofSpelling? hs
        split at h
        · next hempty =>
          cases h
          rw [List.isEmpty_iff.mp hempty, List.append_nil]
          exact .scalar s
        · next hne =>
          split at h
          · cases h
          · next n hn =>
            obtain ⟨hzero, rfl, hlen⟩ :=
              eq_numeral_of_ofDigits (by simpa using hne) hdigits hhead hn
            split at h
            · next hallowed =>
              rw [TypeInfo.withWidth_eq_ok s.type_wellFormed hallowed.2] at h
              cases h
              exact .vector s hzero hlen hallowed.1 hallowed.2
            · cases h
  · intro h
    cases h with
    | scalar s => exact parse_scalar s widths
    | vector s ne_zero short allowed isNumeric =>
      rw [parse_vector s widths ne_zero short, if_pos ⟨allowed, isNumeric⟩]

/-- Only digits that are too long stop the reading of a name. -/
theorem exists_of_parse_eq_error {widths : List Int} {name : Text} {f : Fault}
    (h : parse name widths = .error f) :
    ∃ digits, digits <:+ name ∧ (∀ c ∈ digits, c.is Text.isDigit = true) ∧
      Text.maxDigits < digits.length ∧ f = .number (.tooLongToRead digits.length) := by
  unfold parse at h
  split at h
  · cases h
  · next letters digits hsplit =>
    obtain ⟨rfl, -, -, -, hdigits⟩ := split_eq_some_iff.mp hsplit
    split at h
    · cases h
    · next s _ =>
      split at h
      · cases h
      · split at h
        · next e he =>
          cases h
          -- all other tests give no shape, but no error either
          rw [Text.ofDigits] at he
          split at he
          · cases he
          · next hlen =>
            cases he
            exact ⟨digits, List.suffix_append _ _, hdigits, Nat.lt_of_not_le hlen, rfl⟩
        · split at h
          · next hallowed =>
            rw [TypeInfo.withWidth_eq_ok s.type_wellFormed hallowed.2] at h
            cases h
          · cases h

/-! ### Reading what was written -/

/-- Names can have the shape: it is a scalar, or a vector of numbers of one of the given widths. -/
def Accepted (widths : List Int) (t : TypeInfo) : Prop :=
  t.width = 0 ∨ 0 < t.width ∧ t.width ∈ widths ∧ t.kind ≠ .void ∧ t.kind ≠ .bool

/-- The shape that a name spells exists. -/
theorem Spells.check {widths : List Int} {name : Text} {t : TypeInfo} (h : Spells widths name t) :
    t.check = .ok t := by
  rw [TypeInfo.check_eq_ok_iff]
  refine ⟨rfl, ?_⟩
  cases h with
  | scalar s => exact s.type_wellFormed
  | vector s _ _ _ isNumeric =>
    exact TypeInfo.withWidth_wellFormed s.type_wellFormed isNumeric _

/-- No name spells a handle. -/
theorem Spells.not_isHandle {widths : List Int} {name : Text} {t : TypeInfo}
    (h : Spells widths name t) : t.isHandle = false := by
  cases h with
  | scalar s => exact TypeInfo.not_isHandle_type s
  | vector s => exact TypeInfo.not_isHandle_type s

/-- The shape that a name spells has a width that is accepted, or none. -/
theorem Spells.accepted {widths : List Int} {name : Text} {t : TypeInfo}
    (h : Spells widths name t) : Accepted widths t := by
  cases h with
  | scalar s => exact .inl rfl
  | vector s ne_zero _ allowed isNumeric =>
    have hkind := not_or.mp ((isNumeric_kind_iff s).mp isNumeric)
    exact .inr ⟨Int.natCast_pos.mpr (Nat.pos_of_ne_zero ne_zero), allowed, hkind⟩

/-- A text that a shape has is a name of it if the shape is accepted. -/
theorem spells_of_text_eq {widths : List Int} {name : Text} {t : TypeInfo} (ht : t.WellFormed)
    (hhandle : t.isHandle = false) (htext : t.text = .ok name) (haccepted : Accepted widths t) :
    Spells widths name t := by
  obtain ⟨s, hs⟩ := ht.exists_scalar hhandle
  rcases haccepted with hzero | ⟨hpos, hallowed, hvoid, hbool⟩
  · -- without lanes the shape is its scalar
    have hscalar : t = s.type := by
      rw [hs, hzero]
      rfl
    subst hscalar
    rw [TypeInfo.text_scalar] at htext
    cases htext
    exact .scalar s
  · obtain ⟨n, hn⟩ := Int.eq_ofNat_of_zero_le (Int.le_of_lt hpos)
    rw [hn] at hs hpos hallowed
    subst hs
    -- with lanes their number is written, which is possible only if it is short enough
    have hne : n ≠ 0 := by
      rintro rfl
      exact absurd hpos (by decide)
    have hlen := Text.length_numeral_le (TypeInfo.short_of_text_eq hhandle htext)
    rw [TypeInfo.text_vector s hne hlen] at htext
    cases htext
    exact .vector s hne hlen hallowed ((isNumeric_kind_iff s).mpr (not_or.mpr ⟨hvoid, hbool⟩))

/-- **Names.** A shape that is no handle has a name if and only if it is accepted, and that is its
    text. -/
theorem spells_iff_text_eq {widths : List Int} {name : Text} {t : TypeInfo} (ht : t.WellFormed)
    (hhandle : t.isHandle = false) :
    Spells widths name t ↔ t.text = .ok name ∧ Accepted widths t :=
  ⟨fun h => ⟨h.text, h.accepted⟩, fun h => spells_of_text_eq ht hhandle h.1 h.2⟩

/-- The digits that the text ends with are not too long to be read. -/
def ShortEnd (name : Text) : Prop :=
  ∀ digits, digits <:+ name → (∀ c ∈ digits, c.is Text.isDigit = true) →
    digits.length ≤ Text.maxDigits

/-- **Reading undoes writing.** A text is read as a shape if and only if the shape is accepted and
    has this text, so two texts are never read as one shape.  A text that no accepted shape has is
    read as no shape. -/
theorem parse_eq_iff_text_eq (widths : List Int) {name : Text} (hshort : ShortEnd name) :
    (∀ t : TypeInfo, t.check = .ok t → t.isHandle = false →
      (parse name widths = .ok (some t) ↔ t.text = .ok name ∧ Accepted widths t)) ∧
    (∀ other t, parse name widths = .ok (some t) → parse other widths = .ok (some t) →
      other = name) ∧
    ((∀ t : TypeInfo, t.check = .ok t → t.isHandle = false → t.text = .ok name →
        ¬ Accepted widths t) → parse name widths = .ok none) := by
  refine ⟨fun t ht hhandle => ?_, fun other t hname hother => ?_, fun hnone => ?_⟩
  · rw [parse_eq_ok_some_iff]
    exact spells_iff_text_eq (TypeInfo.check_eq_ok_iff.mp ht).2 hhandle
  · -- both are the text of the shape
    have htext := (parse_eq_ok_some_iff.mp hname).text
    rw [(parse_eq_ok_some_iff.mp hother).text] at htext
    exact Except.ok.inj htext
  · cases hparse : parse name widths with
    | error f =>
      obtain ⟨digits, hends, hdigits, hlong, -⟩ := exists_of_parse_eq_error hparse
      exact absurd (hshort digits hends hdigits) (Nat.not_le_of_lt hlong)
    | ok found =>
      cases found with
      | none => rfl
      | some t =>
        have hspells := parse_eq_ok_some_iff.mp hparse
        exact absurd hspells.accepted (hnone t hspells.check hspells.not_isHandle hspells.text)

/-- A vector of eight unsigned shorts is read back from its text, and only from it. -/
theorem parse_eq_ushort8 :
    let t : TypeInfo := { Scalar.ushort.type with width := 8 }
    ShortEnd "ushort8" ∧ t.check = .ok t ∧ t.isHandle = false ∧
      parse "ushort8" standardWidths = .ok (some t) ∧
      ∀ other, parse other standardWidths = .ok (some t) → other = "ushort8" := by
  intro t
  have hshort : ShortEnd "ushort8" := fun digits hends _ =>
    Nat.le_trans hends.length_le (by decide)
  have hcheck : t.check = .ok t := by decide
  have htext : t.text = .ok "ushort8" := by
    have hdigit : Text.numeral 10 8 = [.char '8'] := Text.numeral_of_lt (by decide)
    rw [← show Text.ofString "ushort" ++ Text.numeral 10 8 = "ushort8" by rw [hdigit]; rfl]
    exact TypeInfo.text_vector .ushort (by decide) (by rw [hdigit]; decide)
  obtain ⟨hiff, hunique, -⟩ := parse_eq_iff_text_eq standardWidths hshort
  have hparse : parse "ushort8" standardWidths = .ok (some t) :=
    (hiff t hcheck rfl).mpr ⟨htext, .inr (by decide)⟩
  exact ⟨hshort, hcheck, rfl, hparse, fun other => hunique other t hparse⟩

end KernelCalls.TypeName
