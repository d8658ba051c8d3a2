import KernelCalls.Proofs.Mangling.Descent
import KernelCalls.Proofs.Mangling.Reads
import KernelCalls.Proofs.TypeInfo

namespace KernelCalls.Mangling

open Outcome
open Text (IsNumeral)

/-!
# What the grammar spells is read

Every grammatical text is read with the shape that the grammar gives it, whatever follows it, and
only a numeral that is too long can stop the reading.

* `Constructs.reads`, `Layer.Makes.apply` : constructors.
* `Spells.reads`, `SpellsAll.reads` : types and lists of types.
* `IsSymbol.decode` : whole symbols.
-/

/-! ### Constructors -/

/-- The lanes of a vector are a number and an underscore. -/
theorem readLanes_eq {widths : List Int} {cs : Text}
    (h : cs.head?.any (·.is Text.isDigit) = true) :
    readLanes widths cs = (readNumber cs).bind fun r =>
      if (r.1 : Int) ∈ widths then
        match r.2 with
        | .char '_' :: rest => .ok (r.1, rest)
        | _ => .error (.refused .expectedUnderscore r.2)
      else .error (.refused (.vectorWidth r.1) r.2) := by
  unfold readLanes
  rw [if_pos h]
  cases readNumber cs <;> rfl

/-- The lanes of a vector are read if the widths allow them. -/
theorem reads_readLanes {widths : List Int} {digits : Text} {lanes : Nat}
    (h : IsNumeral digits lanes) (hw : (lanes : Int) ∈ widths) (rest : Text) :
    Reads [digits] (readLanes widths (digits ++ .char '_' :: rest)) (lanes, rest) := by
  have hdigit : (digits ++ .char '_' :: rest).head?.any (·.is Text.isDigit) = true := by
    cases hd : digits with
    | nil => exact absurd hd h.ne_nil
    | cons c tail => simpa using h.isDigit c (by simp [hd])
  rw [readLanes_eq hdigit]
  -- the underscore is no digit, so the number ends in front of it
  refine (reads_readNumber h ?_).bind_ok ?_
  · intro c hc
    simp only [List.head?_cons, Option.some.injEq] at hc
    subst hc
    rfl
  · dsimp only
    rw [if_pos hw]
    rfl

/-- A constructor in front of its operand is taken. -/
theorem Constructs.reads {widths : List Int} {layer : Layer} {front text : Text}
    {numerals : List Text} (h : Constructs widths layer front numerals text)
    (hfollows : Follows text) (rest : Text) :
    Reads numerals (readLayer widths (front ++ (text ++ rest))) (some (layer, text ++ rest)) := by
  cases h with
  | pointer => exact Reads.of_eq_ok rfl
  | qualified isGroup maximal =>
    have hread := reads_readQualifiers isGroup maximal hfollows rest
    -- the first character of the group makes the reader ask for qualifiers
    obtain ⟨c, tail, hcs, hc⟩ := isGroup.head
    have hP : c ≠ 'P' := by
      rintro rfl
      revert hc
      decide
    subst hcs
    rw [List.cons_append, readLayer, if_neg hP, if_pos hc]
    exact hread.map
  | @vector digits _ lanes isNumeral allowed =>
    have hread := reads_readLanes isNumeral allowed (text ++ rest)
    have hcs : .char 'D' :: .char 'v' :: (digits ++ [.char '_']) ++ (text ++ rest)
        = .char 'D' :: .char 'v' :: (digits ++ .char '_' :: (text ++ rest)) := by simp
    rw [hcs, readLayer, if_neg (by decide), if_neg (by decide), if_pos ⟨rfl, rfl⟩]
    exact hread.map

/-! ### Types without constructors -/

/-- What starts with none of these characters is no constructor. -/
theorem readLayer_eq_none {widths : List Int} {c : CodePoint} {cs : Text} (hP : c ≠ 'P')
    (hU : c ≠ 'U') (hQ : isQualifier c = false)
    (hD : c = 'D' → cs.head? ≠ some (.char 'v')) : readLayer widths (c :: cs) = .ok none := by
  rw [readLayer, if_neg hP, if_neg (by simp [hU, hQ]), if_neg fun h => hD h.1 h.2]

/-- A digit is neither a constructor nor a code. -/
theorem ne_of_isDigit {c : CodePoint} {d : Char} (hc : c.is Text.isDigit = true)
    (hd : Text.isDigit d = false) : c ≠ .char d := by
  rintro rfl
  rw [CodePoint.is, hd] at hc
  cases hc

/-- A digit is no code of a builtin type. -/
theorem builtinCode?_of_isDigit {c : CodePoint} (hc : c.is Text.isDigit = true) :
    builtinCode? c = none := by
  unfold builtinCode?
  split <;> first | rfl | exact absurd hc (by decide)

/-- A digit is no qualifier. -/
theorem isQualifier_of_isDigit {c : CodePoint} (hc : c.is Text.isDigit = true) :
    isQualifier c = false := by
  have hr := ne_of_isDigit (d := 'r') hc (by decide)
  have hV := ne_of_isDigit (d := 'V') hc (by decide)
  have hK := ne_of_isDigit (d := 'K') hc (by decide)
  simp [isQualifier, hr, hV, hK]

/-- A counted name starts no constructor. -/
theorem readLayer_of_isDigit {widths : List Int} {c : CodePoint} (hc : c.is Text.isDigit = true)
    (cs : Text) : readLayer widths (c :: cs) = .ok none := by
  have hP := ne_of_isDigit (d := 'P') hc (by decide)
  have hU := ne_of_isDigit (d := 'U') hc (by decide)
  have hD := ne_of_isDigit (d := 'D') hc (by decide)
  exact readLayer_eq_none hP hU (isQualifier_of_isDigit hc) fun h => absurd h hD

/-- A code is none of the characters that are no codes. -/
theorem ne_of_builtinCode? {c d : CodePoint} {s : Scalar} (hc : builtinCode? c = some s)
    (hd : builtinCode? d = none) : c ≠ d := by
  rintro rfl
  rw [hd] at hc
  cases hc

/-- A code of one letter starts no constructor. -/
theorem readLayer_of_builtinCode? {widths : List Int} {c : CodePoint} {s : Scalar}
    (hc : builtinCode? c = some s) (cs : Text) : readLayer widths (c :: cs) = .ok none := by
  -- `P`, `U`, `D` and the flags are no codes
  have hP := ne_of_builtinCode? (d := 'P') hc rfl
  have hU := ne_of_builtinCode? (d := 'U') hc rfl
  have hD := ne_of_builtinCode? (d := 'D') hc rfl
  have hQ : isQualifier c = false := by
    have hr := ne_of_builtinCode? (d := 'r') hc rfl
    have hV := ne_of_builtinCode? (d := 'V') hc rfl
    have hK := ne_of_builtinCode? (d := 'K') hc rfl
    simp [isQualifier, hr, hV, hK]
  exact readLayer_eq_none hP hU hQ fun h => absurd h hD

/-- The number of a back-reference is made of digits and capital letters. -/
theorem IsReference.isSequenceChar {sequence : Text} {index : Nat}
    (h : IsReference sequence index) : ∀ c ∈ sequence, isSequenceChar c = true := by
  cases h with
  | first => simp
  | later _ chars => exact chars

/-- The number of a back-reference is read, unless it is too long. -/
theorem IsReference.referenceIndex {sequence : Text} {index : Nat}
    (h : IsReference sequence index) :
    (Readable [sequence] → referenceIndex sequence = .ok index) ∧
    (¬ Readable [sequence] → ∃ k, referenceIndex sequence = .error (.tooLongToRead k)) := by
  rw [readable_singleton]
  -- the first place has no number at all, so nothing of it can be too long
  cases h with
  | first => exact ⟨fun _ => rfl, fun hr => absurd (Nat.zero_le _) hr⟩
  | later ne_nil chars =>
    have hne : sequence.isEmpty = false := List.isEmpty_eq_false_iff.mpr ne_nil
    refine ⟨fun hr => ?_, fun hr => ⟨sequence.length, ?_⟩⟩
    · simp [Mangling.referenceIndex, hne, Text.ofDigits, hr]
    · simp [Mangling.referenceIndex, hne, Text.ofDigits, hr]

/-- A back-reference to an entry of the table is read with that entry. -/
theorem reads_readReference {table : List TypeInfo} {sequence : Text} {index : Nat} {t : TypeInfo}
    (h : IsReference sequence index) (found : table[index]? = some t) (rest : Text) :
    Reads [sequence] (readReference table (sequence ++ .char '_' :: rest)) (t, rest) := by
  -- the underscore is no character of a number, so the number ends there
  have hstop : ∀ c, (CodePoint.char '_' :: rest).head? = some c → isSequenceChar c = false := by
    intro c hc
    simp only [List.head?_cons, Option.some.injEq] at hc
    subst hc
    rfl
  have htake := Text.takeWhile_append_of_stop h.isSequenceChar hstop
  have hdrop := Text.dropWhile_append_of_stop h.isSequenceChar hstop
  obtain ⟨hok, hlong⟩ := h.referenceIndex
  unfold readReference
  simp only [htake, hdrop]
  constructor
  · intro hr
    simp only [hok hr, found]
  · intro hr
    obtain ⟨k, hk⟩ := hlong hr
    exact ⟨k, by simp only [hk]⟩

/-! ### Shapes -/

/-- What a constructor makes of a shape is a shape. -/
theorem Layer.Makes.wellFormed {layer : Layer} {t t' : TypeInfo} (h : layer.Makes t t')
    (ht : t.WellFormed) : t'.WellFormed := by
  cases h with
  | pointer => exact ht
  | qualified => exact ht
  | vector isNumeric isScalar => exact TypeInfo.withWidth_wellFormed ht isNumeric _

/-- Applying a constructor makes the shape of the grammar. -/
theorem Layer.Makes.apply {layer : Layer} {t t' : TypeInfo} (h : layer.Makes t t')
    (ht : t.WellFormed) (rest : Text) : layer.apply t rest = .ok t' := by
  cases h with
  | pointer => rfl
  | qualified => rfl
  | vector isNumeric isScalar =>
    rw [Layer.apply, isScalar, isNumeric, TypeInfo.withWidth_eq_ok ht isNumeric]
    rfl

/-- A spelled type is a shape, and so is all that joins the table. -/
theorem Spells.wellFormed {widths : List Int} {table table' : List TypeInfo} {text : Text}
    {numerals : List Text} {t : TypeInfo} (h : Spells widths table text numerals t table')
    (htable : ∀ u ∈ table, u.WellFormed) : t.WellFormed ∧ ∀ u ∈ table', u.WellFormed := by
  -- a shape may join a table of shapes
  have hjoin : ∀ {table : List TypeInfo} {u : TypeInfo}, u.WellFormed →
      (∀ w ∈ table, w.WellFormed) → ∀ w ∈ table ++ [u], w.WellFormed := by
    intro table u hu htable w hw
    rcases List.mem_append.mp hw with hw | hw
    · exact htable w hw
    · exact List.mem_singleton.mp hw ▸ hu
  induction h with
  | scalar => exact ⟨Scalar.type_wellFormed _, htable⟩
  | half => exact ⟨Scalar.type_wellFormed _, htable⟩
  | handle isName =>
    have hwf := TypeInfo.handle_wellFormed isName.name_ne_nil
    exact ⟨hwf, hjoin hwf htable⟩
  | reference _ found => exact ⟨htable _ (List.mem_of_getElem? found), htable⟩
  | construct _ _ makes ih =>
    obtain ⟨ht, htable'⟩ := ih
    exact ⟨makes.wellFormed ht, hjoin (makes.wellFormed ht) htable'⟩

/-! ### Types -/

/-- No type is spelled by the empty text. -/
theorem Spells.ne_nil {widths : List Int} {table table' : List TypeInfo} {text : Text}
    {numerals : List Text} {t : TypeInfo} (h : Spells widths table text numerals t table') :
    text ≠ [] := by
  induction h with
  | scalar | half | reference => simp
  | handle isName =>
    intro h0
    have htext := isName.text_eq
    rw [h0] at htext
    exact isName.isNumeral.ne_nil (List.append_eq_nil_iff.mp htext.symm).1
  | construct _ _ _ ih => exact fun h0 => ih (List.append_eq_nil_iff.mp h0).2

/-- A type may stand behind a group of qualifiers. -/
theorem Spells.follows {widths : List Int} {table table' : List TypeInfo} {text : Text}
    {numerals : List Text} {t : TypeInfo} (h : Spells widths table text numerals t table') :
    Follows text := by
  have hne := h.ne_nil
  cases h with
  | scalar isCode =>
    have hI := ne_of_builtinCode? (d := 'I') isCode rfl
    have hU := ne_of_builtinCode? (d := 'U') isCode rfl
    exact ⟨hne, by simpa using hI, fun h => absurd h (by simpa using hU)⟩
  | half => exact ⟨hne, by simp, by simp⟩
  | reference => exact ⟨hne, by simp, by simp⟩
  | handle isName =>
    obtain ⟨c, tail, hcs, hc⟩ := isName.head_isDigit []
    rw [List.append_nil] at hcs
    have hI := ne_of_isDigit (d := 'I') hc (by decide)
    have hU := ne_of_isDigit (d := 'U') hc (by decide)
    exact ⟨hne, by simpa [hcs] using hI, fun h => absurd h (by simpa [hcs] using hU)⟩
  | construct constructs operand makes =>
    -- a constructor is followed by its own first character
    cases constructs with
    | pointer => exact ⟨hne, by simp, by simp⟩
    | vector => exact ⟨hne, by simp, by simp⟩
    | qualified isGroup _ => exact isGroup.follows _

/-- A type without constructors is read as a leaf. -/
theorem reads_of_leaf {widths : List Int} {table : List TypeInfo} {cs rest : Text}
    {numerals : List Text} {leaf : TypeInfo × List TypeInfo}
    (hlayer : readLayer widths cs = .ok none)
    (hleaf : Reads numerals (readLeaf table cs) (leaf, rest)) :
    Reads numerals (readType widths table cs) (leaf, rest) := by
  rw [readType_eq, hlayer, ok_bind]
  exact hleaf

/-- What starts with a digit is a counted name. -/
theorem readTerminal_of_isDigit {table : List TypeInfo} {c : CodePoint} {tail : Text}
    (hc : c.is Text.isDigit = true) :
    readTerminal table (c :: tail) = (readSourceName (c :: tail)).bind fun r =>
      match (TypeInfo.handle r.1).check with
      | .error e => .error (.fault (.shape e))
      | .ok t => .ok ((t, true), r.2) := by
  have hD := ne_of_isDigit (d := 'D') hc (by decide)
  -- the reader asks for `Dh` and for the codes first, and a digit is neither
  rw [readTerminal, if_neg fun h => hD h.1, builtinCode?_of_isDigit hc]
  dsimp only
  rw [if_pos hc]
  cases readSourceName (c :: tail) <;> rfl

/-- What starts with `S` is a back-reference. -/
theorem readTerminal_reference (table : List TypeInfo) (cs : Text) :
    readTerminal table (.char 'S' :: cs)
      = (readReference table cs).map fun r => ((r.1, false), r.2) := by
  have hcode : builtinCode? (.char 'S') = none := rfl
  rw [readTerminal, if_neg fun h => absurd h.1 (by decide), hcode]
  dsimp only
  rw [if_neg (by decide), if_pos rfl]
  cases readReference table cs <;> rfl

/-- **Types.** A spelled type is read with its shape and its table, whatever follows it. -/
theorem Spells.reads {widths : List Int} {table table' : List TypeInfo} {text : Text}
    {numerals : List Text} {t : TypeInfo} (h : Spells widths table text numerals t table')
    (htable : ∀ u ∈ table, u.WellFormed) (rest : Text) :
    Reads numerals (readType widths table (text ++ rest)) ((t, table'), rest) := by
  -- induction on the derivation, one case for each way to spell a type
  induction h with
  | @scalar code s isCode =>
    have hD := ne_of_builtinCode? (d := 'D') isCode rfl
    refine reads_of_leaf (readLayer_of_builtinCode? isCode rest) (Reads.of_eq_ok ?_)
    show (readTerminal table (code :: rest)).map _ = _
    rw [readTerminal, if_neg fun h => hD h.1, isCode]
    rfl
  | half =>
    refine reads_of_leaf ?_ (Reads.of_eq_ok rfl)
    exact readLayer_eq_none (by decide) (by decide) (by decide) (by simp)
  | @handle text numeral name isName =>
    obtain ⟨c, tail, hcs, hc⟩ := isName.head_isDigit rest
    have hcheck : (TypeInfo.handle name).check = .ok (.handle name) :=
      TypeInfo.check_eq_ok_iff.mpr ⟨rfl, TypeInfo.handle_wellFormed isName.name_ne_nil⟩
    refine reads_of_leaf (hcs ▸ readLayer_of_isDigit hc tail) ?_
    have hname := reads_readSourceName isName rest
    -- behind the name nothing is read, so its numeral is the only one
    rw [hcs] at hname ⊢
    rw [readLeaf, readTerminal_of_isDigit hc]
    refine Reads.map (a := ((TypeInfo.handle name, true), rest)) (hname.bind_ok ?_)
    simp only [hcheck]
  | @reference sequence index t isReference found =>
    have hcs : .char 'S' :: (sequence ++ [.char '_']) ++ rest
        = .char 'S' :: (sequence ++ .char '_' :: rest) := by simp
    rw [hcs]
    refine reads_of_leaf ?_ ?_
    · exact readLayer_eq_none (by decide) (by decide) (by decide) fun h => absurd h (by decide)
    · rw [readLeaf, readTerminal_reference]
      exact ((reads_readReference isReference found rest).map).map
  | @construct table' layer front text numerals numerals' t t' constructs operand makes ih =>
    -- the operand is read first; then the constructor is applied to a shape
    have hwf := (operand.wellFormed htable).1
    rw [List.append_assoc, readType_eq]
    refine (constructs.reads operand.follows rest).bind (ih.bind_ok ?_)
    rw [Mangling.construct, makes.apply hwf]
    rfl

/-! ### Symbols -/

/-- Unless it starts with a plain void, a parameter list is a type and the rest of the list. -/
theorem readParams_cons {c : CodePoint} (h : c ≠ 'v') (widths : List Int) (table : List TypeInfo)
    (cs : Text) :
    readParams widths table (c :: cs) = (readType widths table (c :: cs)).bind fun r =>
      (readParams widths r.1.2 r.2).map (r.1.1 :: ·) := by
  rw [readParams, if_neg h]
  split <;> simp_all

/-- **Parameters.** The types of a parameter list are read one after the other. -/
theorem SpellsAll.reads {widths : List Int} {table : List TypeInfo} {text : Text}
    {numerals : List Text} {ts : List TypeInfo} (h : SpellsAll widths table text numerals ts)
    (htable : ∀ u ∈ table, u.WellFormed) : Reads numerals (readParams widths table text) ts := by
  -- induction on the list; every type is read against the table that the one before it left
  induction h with
  | nil =>
    refine Reads.of_eq_ok ?_
    rw [readParams]
  | @cons table table' text rest numerals numerals' t ts head notVoid tail ih =>
    have hread := head.reads htable rest
    cases text with
    | nil => exact absurd rfl head.ne_nil
    | cons c text =>
      -- none of the types starts with `v`, so none is refused as void
      have hv : c ≠ 'v' := by simpa using notVoid
      rw [List.cons_append] at hread ⊢
      rw [readParams_cons hv]
      exact hread.bind (ih (head.wellFormed htable).2).map

/-- Behind the `_Z` are a name and the parameters. -/
theorem readEncoding_eq {widths : List Int} {cs : Text}
    (h : cs.head?.any (·.is Text.isDigit) = true) :
    readEncoding widths cs = (readSourceName cs).bind fun r =>
      if r.2 = [.char 'v'] then .ok (r.1, [])
      else (readParams widths [] r.2).map fun params => (r.1, params) := by
  unfold readEncoding
  rw [if_pos h]
  cases readSourceName cs <;> rfl

/-- A counted name, and what the parameters behind it are. -/
theorem reads_readEncoding {widths : List Int} {source numeral name text : Text}
    {numerals : List Text} {ts : List TypeInfo} (h : IsSourceName source numeral name)
    (hparams : Reads numerals
      (if text = [.char 'v'] then .ok [] else readParams widths [] text) ts) :
    Reads (numeral :: numerals) (readEncoding widths (source ++ text)) (name, ts) := by
  obtain ⟨c, tail, hcs, hc⟩ := h.head_isDigit text
  have hdigit : (source ++ text).head?.any (·.is Text.isDigit) = true := by simp [hcs, hc]
  rw [readEncoding_eq hdigit]
  show Reads ([numeral] ++ numerals) _ _
  refine (reads_readSourceName h _).bind ?_
  -- a lone `v` behind the name is no parameter
  dsimp only
  split
  · next hv =>
    rw [if_pos hv] at hparams
    exact hparams.map (f := fun params => (name, params))
  · next hv =>
    rw [if_neg hv] at hparams
    exact hparams.map

/-- A parameter list is no lone `v`. -/
theorem SpellsAll.ne_void {widths : List Int} {table : List TypeInfo} {text : Text}
    {numerals : List Text} {ts : List TypeInfo} (h : SpellsAll widths table text numerals ts) :
    text ≠ [.char 'v'] := by
  cases h with
  | nil => simp
  | @cons _ _ text rest _ _ _ _ head notVoid tail =>
    cases text with
    | nil => exact absurd rfl head.ne_nil
    | cons c text =>
      have hv : c ≠ 'v' := by simpa using notVoid
      simp [hv]

/-- A symbol is the `_Z` and what is read behind it. -/
theorem Reads.decode {widths : List Int} {cs name : Text} {numerals : List Text}
    {ts : List TypeInfo} (h : Reads numerals (readEncoding widths cs) (name, ts)) :
    (Readable numerals →
      decode (.char '_' :: .char 'Z' :: cs) widths = .ok ⟨name, ts, true⟩) ∧
    (¬ Readable numerals → ∃ k,
      decode (.char '_' :: .char 'Z' :: cs) widths
        = .error (.fault (.number (.tooLongToRead k)))) := by
  constructor
  · intro hr
    simp only [Mangling.decode, h.ok hr]
  · intro hr
    obtain ⟨k, hk⟩ := h.tooLong hr
    exact ⟨k, by simp only [Mangling.decode, hk, Halt.toError]⟩

/-- **Symbols.** A symbol of the grammar is decoded to what it says if its numerals can be read, and
    otherwise a numeral that is too long stops the decoding. -/
theorem IsSymbol.decode {widths : List Int} {symbol : Text} {numerals : List Text} {d : Decoded}
    (h : IsSymbol widths symbol numerals d) :
    (Readable numerals → decode symbol widths = .ok d) ∧
    (¬ Readable numerals → ∃ k,
      decode symbol widths = .error (.fault (.number (.tooLongToRead k)))) := by
  -- a plain name needs no numeral; the other three are a counted name and what its parameters are
  cases h with
  | plain notMangled identifier =>
    refine ⟨fun _ => ?_, fun hr => absurd (by simp [Readable]) hr⟩
    unfold Mangling.decode
    split
    · exact absurd ⟨_, rfl⟩ notMangled
    · rw [if_pos identifier]
  | bare isName =>
    have hnone :
        (if ([] : Text) = [.char 'v'] then .ok [] else readParams widths [] []) = .ok [] := by
      rw [if_neg (by simp), readParams]
    have hread := reads_readEncoding isName (Reads.of_eq_ok hnone)
    rw [List.append_nil] at hread
    exact hread.decode
  | void isName =>
    exact (reads_readEncoding isName (Reads.of_eq_ok (if_pos rfl))).decode
  | params isName spelled ne_nil =>
    refine (reads_readEncoding isName ?_).decode
    rw [if_neg spelled.ne_void]
    exact spelled.reads (by simp)

end KernelCalls.Mangling
