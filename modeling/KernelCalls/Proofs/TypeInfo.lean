import KernelCalls.TypeInfo
import KernelCalls.Proofs.Text.Numeral

namespace KernelCalls

/-!
# Shapes and their texts

* `TypeInfo.withWidth_eq_ok` : a shape that is a number has vectors of every width.
* `TypeInfo.WellFormed.exists_scalar` : a shape is a handle, or a spelled scalar with a width.
* `TypeInfo.text_scalar`, `TypeInfo.text_vector` : the texts of scalars and vectors.
* `TypeInfo.Presentable` : the shapes that have a text.
-/

/-! ### Kinds with a spelling -/

/-- All scalars but two are numbers. -/
theorem isNumeric_kind_iff (s : Scalar) :
    s.kind.isNumeric = true ↔ ¬ (s.kind = .void ∨ s.kind = .bool) := by
  cases s <;> decide

/-- Every kind but that of handles has a spelling for each sign that it can have. -/
theorem Scalar.exists_of_kind {kind : ElementKind} {isSigned : Bool} (hkind : kind ≠ .handle)
    (hsigned : isSigned = true → kind.isInteger = true) :
    ∃ s : Scalar, s.kind = kind ∧ s.isSigned = isSigned := by
  have hspelled : (ofKind? kind isSigned).isSome = true := by
    cases kind <;> cases isSigned <;>
      first
        | rfl
        | exact absurd rfl hkind
        | exact absurd (hsigned rfl) (by decide)
  obtain ⟨s, hs⟩ := Option.isSome_iff_exists.mp hspelled
  have hfound := List.find?_some hs
  simp only [Bool.and_eq_true, beq_iff_eq] at hfound
  exact ⟨s, hfound⟩

namespace TypeInfo

/-! ### Well-formed shapes -/

/-- A shape that is no handle is a scalar with a spelling, apart from its width. -/
theorem WellFormed.exists_scalar {t : TypeInfo} (ht : t.WellFormed) (hhandle : t.isHandle = false) :
    ∃ s : Scalar, t = { s.type with width := t.width } := by
  obtain ⟨isSigned, kind, byteLength, width, handleName⟩ := t
  have hkind : kind ≠ .handle := by
    rintro rfl
    cases hhandle
  obtain ⟨hname, hbytes, hsigned⟩ := ht.2 hkind
  obtain ⟨s, rfl, rfl⟩ := Scalar.exists_of_kind hkind hsigned
  -- name and size are those of any scalar of the kind
  dsimp only at hname hbytes
  subst hname hbytes
  exact ⟨s, rfl⟩

/-- A handle with a name is a shape that exists. -/
theorem handle_wellFormed {name : Text} (h : name ≠ []) : (handle name).WellFormed :=
  ⟨fun _ => ⟨h, rfl⟩, fun hk => absurd rfl hk⟩

/-- A number is no handle. -/
theorem isNumeric_ne_handle {t : TypeInfo} (h : t.kind.isNumeric = true) : t.kind ≠ .handle := by
  intro hk
  rw [hk] at h
  cases h

/-- Numbers with lanes are shapes too. -/
theorem withWidth_wellFormed {t : TypeInfo} (ht : t.WellFormed) (hn : t.kind.isNumeric = true)
    (width : Int) : WellFormed { t with width } := by
  have hk := isNumeric_ne_handle hn
  exact ⟨fun h => absurd h hk, fun _ => ht.2 hk⟩

/-- Every number has vectors of any width. -/
theorem withWidth_eq_ok {t : TypeInfo} (ht : t.WellFormed) (hn : t.kind.isNumeric = true)
    (width : Int) : t.withWidth width = .ok { t with width } := by
  have hname : t.handleName = [] := (ht.2 (isNumeric_ne_handle hn)).1
  have hwf := withWidth_wellFormed ht hn width
  rw [withWidth, check_eq_ok_iff, ← hname]
  exact ⟨rfl, hwf⟩

/-! ### Texts -/

theorem not_isHandle_type (s : Scalar) : s.type.isHandle = false := by
  cases s <;> rfl

/-- The text of a scalar is its spelling. -/
theorem text_scalar (s : Scalar) : s.type.text = .ok (Text.ofString s.spelling) := by
  have hkind : Scalar.ofKind? s.type.kind s.type.isSigned = some s := s.ofKind?_kind
  rw [text, not_isHandle_type, hkind]
  rfl

/-- The text of a vector is the spelling of the scalar and the numeral of the width. -/
theorem text_vector (s : Scalar) {n : Nat} (hn : n ≠ 0)
    (hlen : (Text.numeral 10 n).length ≤ Text.maxDigits) :
    TypeInfo.text { s.type with width := n } = .ok (s.spelling ++ Text.numeral 10 n) := by
  have hkind : Scalar.ofKind? s.type.kind s.type.isSigned = some s := s.ofKind?_kind
  have hhandle : isHandle { s.type with width := n } = false := not_isHandle_type s
  have hwidth : (n : Int) ≠ 0 := by omega
  have hwrite : Text.writeInt n = .ok n.repr := by
    have hlt := (Text.isNumeral_numeral n).lt_tenTo hlen
    rw [Text.writeInt, Int.natAbs_natCast, if_pos hlt]
    rfl
  rw [text, hhandle]
  simp only [hkind, hwidth, hwrite, Bool.false_eq_true, if_false]
  show Except.ok (Text.ofString s.spelling ++ Text.ofString n.repr) = _
  rw [Text.ofString_repr]

/-- A width that was written down is not too long. -/
theorem short_of_text_eq {t : TypeInfo} {name : Text} (hhandle : t.isHandle = false)
    (h : t.text = .ok name) : t.width.natAbs < Text.tenTo Text.maxDigits := by
  unfold text at h
  simp only [hhandle, Bool.false_eq_true, if_false] at h
  split at h
  · next hzero =>
    rw [hzero]
    exact Text.tenTo_pos _
  · rw [Text.writeInt] at h
    split at h
    · assumption
    · cases h

/-! ### Shapes that have a text -/

/-- The shape exists and can be written down: it is a handle or has the kind and the sign of a
    scalar with a spelling, and its width is not too long. -/
structure Presentable (t : TypeInfo) : Prop where
  wellFormed : t.WellFormed
  spelled : t.isHandle = true ∨ ∃ s : Scalar, s.kind = t.kind ∧ s.isSigned = t.isSigned
  short : t.width.natAbs < Text.tenTo Text.maxDigits

/-- Scalars can be written down. -/
theorem presentable_type (s : Scalar) : s.type.Presentable where
  wellFormed := s.type_wellFormed
  spelled := .inr ⟨s, rfl, rfl⟩
  short := Text.tenTo_pos _

/-- So can handles with a name. -/
theorem presentable_handle {name : Text} (h : name ≠ []) : (handle name).Presentable where
  wellFormed := handle_wellFormed h
  spelled := .inl rfl
  short := Text.tenTo_pos _

/-- And so can vectors, as long as their width can. -/
theorem Presentable.withWidth {t : TypeInfo} (h : t.Presentable) (hn : t.kind.isNumeric = true)
    {lanes : Nat} (hlanes : lanes < Text.tenTo Text.maxDigits) :
    Presentable { t with width := lanes } where
  wellFormed := withWidth_wellFormed h.wellFormed hn lanes
  spelled := h.spelled
  short := hlanes

/-- A shape that is presentable has a text. -/
theorem Presentable.exists_text {t : TypeInfo} (h : t.Presentable) : ∃ text, t.text = .ok text := by
  unfold text
  split
  · exact ⟨_, rfl⟩
  · dsimp only
    split
    · exact ⟨_, rfl⟩
    · rw [Text.writeInt, if_pos h.short]
      exact ⟨_, rfl⟩

end TypeInfo

end KernelCalls
