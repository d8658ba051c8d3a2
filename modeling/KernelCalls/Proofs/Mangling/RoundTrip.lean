import KernelCalls.Proofs.Mangling.Complete
import KernelCalls.Proofs.Mangling.Mangler

namespace KernelCalls.Mangling

open Text (IsNumeral)

/-!
# What is written is decoded

A written symbol is one of the grammar and says the shapes of its parameters.  The table of the
writing holds types and never the same one twice, that of the grammar holds their shapes; they stay
aligned because the second is the first with every type replaced by its shape.

* `isReference_sequence` : the numbers of back-references.
* `Qualifiers.isGroup`, `SourceType.isMaximal` : groups of qualifiers, which are maximal because
  what they qualify has none.
* `spells_mangleType`, `spellsAll_mangleParams` : the two tables, through one type and through a
  list.
* `decode_mangle` : whole symbols.
-/

variable {widths : List Int} {table : List SourceType}

/-! ### Names and references -/

/-- A written name is a counted name. -/
theorem isSourceName_written {name : Text} (h : isIdentifier name = true) :
    IsSourceName (written (sourceName name)) (Text.numeral 10 name.length) name where
  text_eq := by simp [sourceName]
  isNumeral := Text.isNumeral_numeral _
  identifier := h

/-- The number of a place leads back to the place. -/
theorem isReference_sequence (place : Nat) : IsReference (sequence place) place := by
  cases place with
  | zero => exact .first
  | succ place =>
    -- digits in base 36 are decimal digits and capital letters
    have hchars : ∀ c ∈ Text.numeral 36 place, isSequenceChar c = true := by
      intro c hc
      obtain ⟨v, hv, rfl⟩ := Text.mem_numeral (by omega) hc
      exact Text.isDigit_or_isUpper_digit hv
    have href := IsReference.later (Text.numeral_ne_nil 36 place) hchars
    rwa [Text.ofDigitValues_numeral (by omega) (by omega)] at href

/-! ### Qualifiers -/

/-- Written vendor qualifiers are vendor qualifiers. -/
theorem vendorQualifiers_written {vendors : List Text}
    (h : ∀ name ∈ vendors, isIdentifier name = true) :
    VendorQualifiers (written (vendorPieces vendors)) (numerals (vendorPieces vendors)) := by
  -- induction on the names; each is written behind a `U`
  induction vendors with
  | nil => exact .nil
  | cons name vendors ih =>
    have hname := isSourceName_written (h name List.mem_cons_self)
    have htail := ih fun other hother => h other (List.mem_cons_of_mem _ hother)
    have hall := VendorQualifiers.cons hname htail
    simpa [vendorPieces, sourceName] using hall

/-- A flag is written at most once. -/
theorem atMost_flag (c : Char) (isSet : Bool) : AtMost (.char c) (flag c isSet) := by
  cases isSet with
  | false => exact .inl rfl
  | true => exact .inr rfl

/-- The text of a group is the vendor qualifiers and the flags. -/
theorem Qualifiers.written_pieces (q : Qualifiers) :
    written q.pieces = written (vendorPieces q.vendors) ++
      (flag 'r' q.restrict ++ (flag 'V' q.volatile ++ flag 'K' q.const)) := by
  simp [Qualifiers.pieces]

/-- The numerals of a group are those of its vendor qualifiers. -/
theorem Qualifiers.numerals_pieces (q : Qualifiers) :
    numerals q.pieces = numerals (vendorPieces q.vendors) := by
  simp [Qualifiers.pieces]

/-- The qualifiers of a type are written as one group. -/
theorem Qualifiers.isGroup {q : Qualifiers} (h : q.WellFormed) :
    QualifierGroup (written q.pieces) (numerals q.pieces) := by
  rw [q.written_pieces, q.numerals_pieces]
  refine .mk (vendorQualifiers_written h.identifier) (atMost_flag _ _) (atMost_flag _ _)
    (atMost_flag _ _) ?_
  -- any of the four qualifiers that is there makes the group a text
  rcases h.nonempty with hvendors | hflag | hflag | hflag
  · obtain ⟨name, vendors, hcons⟩ := List.exists_cons_of_ne_nil hvendors
    simp [hcons, vendorPieces]
  · simp [flag, hflag]
  · simp [flag, hflag]
  · simp [flag, hflag]

/-! ### The first character of a type -/

/-- A type is written as its place in the table, or in full, and then it joins the table. -/
theorem compress_cases (table : List SourceType) (t : SourceType)
    (full : List Piece × List SourceType) :
    (∃ place, table[place]? = some t ∧ compress table t full = (reference place, table)) ∨
      compress table t full = (full.1, full.2 ++ [t]) := by
  unfold compress
  split
  · next place hplace =>
    obtain ⟨hlt, hget, -⟩ := List.idxOf?_eq_some_iff.mp hplace
    exact .inl ⟨place, by rw [List.getElem?_eq_getElem hlt, hget], rfl⟩
  · exact .inr rfl

/-- A type that is not builtin starts as it does in full, or with an `S`. -/
theorem head_compress {t : SourceType} {full : List Piece × List SourceType} {c : CodePoint}
    (h : (written (compress table t full).1).head? = some c) :
    c = .char 'S' ∨ (written full.1).head? = some c := by
  rcases compress_cases table t full with ⟨place, -, hcompress⟩ | hcompress
  · rw [hcompress] at h
    exact .inl (Option.some.inj h).symm
  · rw [hcompress] at h
    exact .inr h

/-- The first character of a name is a digit. -/
theorem isDigit_head_sourceName {name : Text} {c : CodePoint}
    (h : (written (sourceName name)).head? = some c) : c.is Text.isDigit = true := by
  rw [sourceName, written_number,
    List.head?_append_of_ne_nil _ (Text.numeral_ne_nil 10 name.length)] at h
  exact (Text.isNumeral_numeral name.length).isDigit c (List.mem_of_mem_head? h)

/-- A type without qualifiers does not start like a group of them. -/
theorem head_mangleType_ne {t : SourceType} (hq : t.isQualified = false) {c : CodePoint}
    (h : (written (mangleType table t).1).head? = some c) : c ≠ 'U' ∧ isQualifier c = false := by
  cases t with
  | builtin b =>
    -- the codes of the builtin types are all there is to check
    have hall : ∀ b : Builtin, ∀ c ∈ b.code, c ≠ .char 'U' ∧ isQualifier c = false := by
      intro b
      cases b <;> decide
    refine hall b c (List.mem_of_mem_head? ?_)
    simpa [mangleType] using h
  | pointer base =>
    rcases head_compress h with rfl | h
    · decide
    · cases h
      decide
  | qualified q base => cases hq
  | vector lanes base =>
    rcases head_compress h with rfl | h
    · decide
    · cases h
      decide
  | named name =>
    rcases head_compress h with rfl | h
    · decide
    · have hc := isDigit_head_sourceName h
      exact ⟨ne_of_isDigit hc (by decide), isQualifier_of_isDigit hc⟩

/-- Only void starts with a `v`. -/
theorem head_mangleType_ne_void {t : SourceType} (ht : t.WellFormed widths)
    (hv : t ≠ .builtin .void) : (written (mangleType table t).1).head? ≠ some (.char 'v') := by
  intro h
  -- the codes of the other builtin types, `S`, and the first characters of constructors and names
  cases t with
  | builtin b => cases b <;> simp_all [mangleType, Builtin.code]
  | pointer base =>
    rcases head_compress h with hc | h
    · exact absurd hc (by decide)
    · exact absurd h (by simp)
  | qualified q base =>
    rcases head_compress h with hc | h
    · exact absurd hc (by decide)
    · obtain ⟨c, tail, hcs, hc⟩ := (Qualifiers.isGroup ht.1).head
      rw [written_append, hcs, List.cons_append, List.head?_cons, Option.some.injEq] at h
      subst h
      revert hc
      decide
  | vector lanes base =>
    rcases head_compress h with hc | h
    · exact absurd hc (by decide)
    · exact absurd h (by simp)
  | named name =>
    rcases head_compress h with hc | h
    · exact absurd hc (by decide)
    · exact absurd (isDigit_head_sourceName h) (by decide)

/-- A group in front of a type without qualifiers is maximal. -/
theorem SourceType.isMaximal {q : Qualifiers} {base : SourceType} (hq : q.WellFormed)
    (hbase : base.isQualified = false) :
    IsMaximal (written q.pieces) (written (mangleType table base).1) := by
  -- what is qualified starts with none of the characters that would go on with the group
  have hne : ∀ c : CodePoint, c = .char 'U' ∨ isQualifier c = true →
      (written (mangleType table base).1).head? ≠ some c := by
    intro c hc h
    obtain ⟨hU, hflag⟩ := head_mangleType_ne hbase h
    rcases hc with rfl | hc
    · exact hU rfl
    · rw [hflag] at hc
      cases hc
  have hstops : Stops (flag 'r' q.restrict) (flag 'V' q.volatile) (flag 'K' q.const)
      (written (mangleType table base).1) :=
    ⟨fun _ => hne _ (.inr rfl), fun _ => hne _ (.inr rfl), fun _ => hne _ (.inr rfl),
      fun _ => hne _ (.inl rfl)⟩
  rw [q.written_pieces]
  exact hstops.isMaximal (vendorQualifiers_written hq.identifier) (atMost_flag _ _)
    (atMost_flag _ _) (atMost_flag _ _)

/-! ### Types -/

/-- The code of a builtin type spells its scalar. -/
theorem Builtin.spells (b : Builtin) (shapes : List TypeInfo) :
    Spells widths shapes b.code [] b.scalar.type shapes := by
  cases b with
  | half => exact .half
  | _ => exact .scalar rfl

/-- What is spelled in full is also spelled by a reference, if there is one. -/
theorem spells_compress {t : SourceType} {full : List Piece × List SourceType}
    (h : Spells widths (table.map SourceType.shape) (written full.1) (numerals full.1) t.shape
      ((full.2 ++ [t]).map SourceType.shape)) :
    Spells widths (table.map SourceType.shape) (written (compress table t full).1)
      (numerals (compress table t full).1) t.shape
      ((compress table t full).2.map SourceType.shape) := by
  -- the place in the table of types is that of the shape in the table of shapes
  rcases compress_cases table t full with ⟨place, hplace, hcompress⟩ | hcompress
  · rw [hcompress]
    refine .reference (isReference_sequence place) ?_
    rw [List.getElem?_map, hplace, Option.map_some]
  · rw [hcompress]
    exact h

/-- **One type.** Written against a table of types, a type is spelled against the table of their
    shapes, and the two tables behind it agree as well. -/
theorem spells_mangleType {t : SourceType} (h : t.WellFormed widths) :
    Spells widths (table.map SourceType.shape) (written (mangleType table t).1)
      (numerals (mangleType table t).1) t.shape
      ((mangleType table t).2.map SourceType.shape) := by
  -- the operand is written against the same table, and joins it before what is made of it
  induction t with
  | builtin b =>
    rw [mangleType, written_mark, written_nil, List.append_nil]
    exact b.spells _
  | pointer base ih =>
    refine spells_compress ?_
    rw [List.map_append]
    exact .construct .pointer (ih h) .pointer
  | qualified q base ih =>
    obtain ⟨hq, hbase, hwf⟩ := h
    refine spells_compress ?_
    rw [List.map_append, written_append, numerals_append]
    exact .construct (.qualified (Qualifiers.isGroup hq) (SourceType.isMaximal hq hbase)) (ih hwf)
      .qualified
  | vector lanes base ih =>
    obtain ⟨hw, hnumeric, hscalar, hwf⟩ := h
    refine spells_compress ?_
    rw [List.map_append, written_append, numerals_append]
    have hfront : Constructs widths (.vector lanes)
        (.char 'D' :: .char 'v' :: (Text.numeral 10 lanes ++ [.char '_'])) [Text.numeral 10 lanes]
        (written (mangleType table base).1) := .vector (Text.isNumeral_numeral lanes) hw
    exact .construct hfront (ih hwf) (.vector hnumeric hscalar)
  | named name =>
    refine spells_compress ?_
    rw [List.map_append]
    exact .handle (isSourceName_written h)

/-! ### Symbols -/

/-- **Parameters.** A list of types threads both tables through in step. -/
theorem spellsAll_mangleParams {params : List SourceType}
    (h : ∀ t ∈ params, t.WellFormed widths ∧ t ≠ .builtin .void) :
    SpellsAll widths (table.map SourceType.shape) (written (mangleParams table params))
      (numerals (mangleParams table params)) (params.map SourceType.shape) := by
  induction params generalizing table with
  | nil => exact .nil
  | cons t ts ih =>
    obtain ⟨hwf, hv⟩ := h t List.mem_cons_self
    have htail : ∀ u ∈ ts, u.WellFormed widths ∧ u ≠ .builtin .void :=
      fun u hu => h u (List.mem_cons_of_mem _ hu)
    rw [mangleParams, written_append, numerals_append]
    exact .cons (spells_mangleType hwf) (head_mangleType_ne_void hwf hv) (ih htail)

/-- A written symbol is one of the grammar. -/
theorem isSymbol_mangle {name : Text} {params : List SourceType} (hname : isIdentifier name = true)
    (hparams : ∀ t ∈ params, t.WellFormed widths ∧ t ≠ .builtin .void) (voidMark : Bool) :
    IsSymbol widths (written (mangle name params voidMark)) (numerals (mangle name params voidMark))
      ⟨name, params.map SourceType.shape, true⟩ := by
  have hsource := isSourceName_written hname
  unfold mangle
  split
  · next hnil =>
    subst hnil
    -- an empty list is written in either of two ways
    cases voidMark with
    | false =>
      have hsymbol : IsSymbol widths _ _ _ := .bare hsource
      simpa [sourceName, flag] using hsymbol
    | true =>
      have hsymbol : IsSymbol widths _ _ _ := .void hsource
      simpa [sourceName, flag] using hsymbol
  · next hne =>
    have hall : SpellsAll widths (([] : List SourceType).map SourceType.shape) _ _ _ :=
      spellsAll_mangleParams hparams
    have hsymbol := IsSymbol.params hsource hall (by simpa using hne)
    simpa [sourceName] using hsymbol

/-- **Round trip.** Decoding a written symbol gives the name of the function and the shapes of its
    parameters.  Only a numeral of more than `Text.maxDigits` characters stops it, with a fault. -/
theorem decode_mangle {name : Text} {params : List SourceType} (hname : isIdentifier name = true)
    (hparams : ∀ t ∈ params, t.WellFormed widths ∧ t ≠ .builtin .void) (voidMark : Bool) :
    (Readable (numerals (mangle name params voidMark)) →
      decode (written (mangle name params voidMark)) widths
        = .ok ⟨name, params.map SourceType.shape, true⟩) ∧
    (¬ Readable (numerals (mangle name params voidMark)) → ∃ k,
      decode (written (mangle name params voidMark)) widths
        = .error (.fault (.number (.tooLongToRead k)))) := by
  have hsymbol := isSymbol_mangle hname hparams voidMark
  exact hsymbol.decode

/-- Parameters that share a handle, a vector and its qualified form. -/
def sharedParams : List SourceType :=
  let int4 : SourceType := .vector 4 (.builtin .int)
  let constInt4 : SourceType := .qualified ⟨["AS1"], false, false, true⟩ int4
  [.named "ocl_sampler", .pointer constInt4, .named "ocl_sampler", int4, constInt4]

/-- The back-references of the shared parameters are followed. -/
theorem decode_mangle_sharedParams :
    written (mangle "foo" sharedParams false) = "_Z3foo11ocl_samplerPU3AS1KDv4_iS_S0_S1_" ∧
      decode (written (mangle "foo" sharedParams false)) [2, 4]
        = .ok ⟨"foo", sharedParams.map SourceType.shape, true⟩ := by
  have hparams : ∀ t ∈ sharedParams, t.WellFormed [2, 4] ∧ t ≠ .builtin .void := by decide +kernel
  have hreadable : Readable (numerals (mangle "foo" sharedParams false)) := by
    unfold Readable
    decide +kernel
  exact ⟨by decide +kernel, (decode_mangle (by decide) hparams false).1 hreadable⟩

end KernelCalls.Mangling
