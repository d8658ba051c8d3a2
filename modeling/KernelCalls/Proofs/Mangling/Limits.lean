import KernelCalls.Proofs.Mangling.Sound

namespace KernelCalls.Mangling

open Outcome
open Text (IsNumeral)

/-!
# Numbers that are too long

A symbol is decoded or refused, and there is a third way only for symbols that hold a number beyond
`Text.maxDigits`: a numeral or the number of a back-reference that is too long to be read, or a
back-reference to a place that is too far to be written down.

* `Overlong` : such a number inside a text, with the error that it stands for.
* `Spells.presentable` : what is read has a text.
* `Guarded` : a reader stops with a fault only where a number is too long, and gives a reason that
  can be written down where it refuses a text.
* `guarded_readNumber`, … , `guarded_readType` : one statement for each reader.
* `decode_cases` : whole symbols.
* `Overlong.length_lt` : short symbols hold no such number.
-/

/-- A number inside the text is too long, and this is the error. -/
inductive Overlong (text : Text) : Text.NumberError → Prop where
  | numeral {run : Text} (inside : run <:+: text) (digits : ∀ c ∈ run, c.is Text.isDigit = true)
      (long : Text.maxDigits < run.length) : Overlong text (.tooLongToRead run.length)
  | sequence {run : Text} (inside : .char 'S' :: (run ++ [.char '_']) <:+: text)
      (chars : ∀ c ∈ run, isSequenceChar c = true) (long : Text.maxDigits < run.length) :
      Overlong text (.tooLongToRead run.length)
  | place {run : Text} (inside : .char 'S' :: (run ++ [.char '_']) <:+: text)
      (chars : ∀ c ∈ run, isSequenceChar c = true)
      (far : Text.tenTo Text.maxDigits ≤ Text.ofDigitValues 36 (run.map Text.digitValue) + 1) :
      Overlong text .tooLongToWrite

/-- A number that is too long inside a part is so inside the whole text. -/
theorem Overlong.mono {part text : Text} {e : Text.NumberError} (h : Overlong part e)
    (hpart : part <:+: text) : Overlong text e := by
  cases h with
  | numeral inside digits long => exact .numeral (inside.trans hpart) digits long
  | sequence inside chars long => exact .sequence (inside.trans hpart) chars long
  | place inside chars far => exact .place (inside.trans hpart) chars far

/-! ### Shapes -/

/-- What is spelled with numerals that can be read is presentable, and so is all that joins the
    table. -/
theorem Spells.presentable {widths : List Int} {table table' : List TypeInfo} {text : Text}
    {numerals : List Text} {t : TypeInfo} (h : Spells widths table text numerals t table')
    (hread : Readable numerals) (htable : ∀ u ∈ table, u.Presentable) :
    t.Presentable ∧ ∀ u ∈ table', u.Presentable := by
  -- induction on the derivation; only handles and vectors bring in a text of their own
  induction h with
  | scalar => exact ⟨TypeInfo.presentable_type _, htable⟩
  | half => exact ⟨TypeInfo.presentable_type _, htable⟩
  | handle isName =>
    have hname := TypeInfo.presentable_handle isName.name_ne_nil
    exact ⟨hname, List.forall_mem_append.mpr ⟨htable, by simpa using hname⟩⟩
  | reference _ found => exact ⟨htable _ (List.mem_of_getElem? found), htable⟩
  | @construct _ layer _ _ _ _ t t' constructs _ makes ih =>
    obtain ⟨hfront, hoperand⟩ := readable_append.mp hread
    obtain ⟨ht, htable'⟩ := ih hoperand
    have ht' : t'.Presentable := by
      cases makes with
      | pointer | qualified => exact ht
      | vector isNumeric =>
        cases constructs with
        -- the lanes were read, so they can be written down
        | vector isNumeral =>
          exact ht.withWidth isNumeric (isNumeral.lt_tenTo (readable_singleton.mp hfront))
    exact ⟨ht', List.forall_mem_append.mpr ⟨htable', by simpa using ht'⟩⟩

/-- The types of a list are presentable if its numerals can be read. -/
theorem SpellsAll.presentable {widths : List Int} {table : List TypeInfo} {text : Text}
    {numerals : List Text} {ts : List TypeInfo} (h : SpellsAll widths table text numerals ts)
    (hread : Readable numerals) (htable : ∀ u ∈ table, u.Presentable) :
    ∀ t ∈ ts, t.Presentable := by
  induction h with
  | nil => simp
  | cons head _ _ ih =>
    obtain ⟨hhead, htail⟩ := readable_append.mp hread
    obtain ⟨ht, htable'⟩ := head.presentable hhead htable
    exact List.forall_mem_cons.mpr ⟨ht, ih htail htable'⟩

/-! ### Guarded readers -/

/-- What a reason shows can be written down: a number that was read or made from one is not too
    long, and a shape has a text. -/
def Reason.Presentable : Reason → Prop
  | .nameTooLong length => length < Text.tenTo Text.maxDigits
  | .danglingReference _ index _ => index < Text.tenTo Text.maxDigits
  | .vectorWidth width => width < Text.tenTo Text.maxDigits
  | .vectorOf element => element.Presentable
  | _ => True

/-- If reading stops with a fault, a number inside the text is too long and that is the fault, and
    if the text is refused, the reason can be written down. -/
structure Guarded {α : Type} (text : Text) (reading : Except Halt α) : Prop where
  fault : ∀ f, reading = .error (.fault f) → ∃ e, f = .number e ∧ Overlong text e
  refused : ∀ reason rest, reading = .error (.refused reason rest) → reason.Presentable

section Guarded

variable {α β : Type} {text : Text} {reading : Except Halt α}

/-- What is read stops with nothing. -/
theorem guarded_ok (a : α) : Guarded text (.ok a) := ⟨nofun, nofun⟩

/-- A refusal needs a reason that can be written down. -/
theorem guarded_refused {reason : Reason} {rest : Text} (h : reason.Presentable) :
    Guarded text (.error (.refused reason rest) : Except Halt α) where
  fault := nofun
  refused := by
    rintro _ _ ⟨⟩
    exact h

/-- A fault needs a number that is too long. -/
theorem guarded_number {e : Text.NumberError} (h : Overlong text e) :
    Guarded text (.error (.fault (.number e)) : Except Halt α) where
  fault := by
    rintro _ ⟨⟩
    exact ⟨e, rfl, h⟩
  refused := nofun

/-- Reading a part is guarded as part of the whole text. -/
theorem Guarded.mono {part : Text} (h : Guarded part reading) (hpart : part <:+: text) :
    Guarded text reading where
  fault f hf := by
    obtain ⟨e, rfl, he⟩ := h.fault f hf
    exact ⟨e, rfl, he.mono hpart⟩
  refused := h.refused

/-- What stops the reading stops what comes after it. -/
theorem Guarded.error {halt : Halt} (h : Guarded text reading) (hhalt : reading = .error halt) :
    Guarded text (.error halt : Except Halt β) where
  fault f hf := h.fault f (by cases hf; exact hhalt)
  refused reason rest hr := h.refused reason rest (by cases hr; exact hhalt)

/-- A second reader is asked only about what the first one gave. -/
theorem Guarded.bind {f : α → Except Halt β} (h : Guarded text reading)
    (hf : ∀ a, reading = .ok a → Guarded text (f a)) : Guarded text (reading.bind f) := by
  cases reading with
  | error halt => exact h.error rfl
  | ok a => exact hf a rfl

/-- What is made of the value afterwards never stops the reading. -/
theorem Guarded.map {f : α → β} (h : Guarded text reading) : Guarded text (reading.map f) := by
  cases reading with
  | error halt => exact h.error rfl
  | ok a => exact guarded_ok (f a)

end Guarded

/-! ### Numbers and names -/

/-- A run of digits is a numeral inside the text, so it is the number that is too long. -/
theorem guarded_readNumber (cs : Text) : Guarded cs (readNumber cs) := by
  unfold readNumber
  dsimp only
  split
  · exact guarded_refused trivial
  · split
    · exact guarded_refused trivial
    · split
      · exact guarded_ok _
      · -- the only error is that of the length
        next e he =>
        rw [Text.ofDigits] at he
        split_ifs at he with hlen
        cases he
        exact guarded_number (.numeral (List.takeWhile_prefix _).isInfix
          (List.all_eq_true.mp List.all_takeWhile) (Nat.lt_of_not_le hlen))

/-- A number that was read can be written down. -/
theorem lt_tenTo_of_readNumber {cs rest : Text} {n : Nat} (h : readNumber cs = .ok (n, rest)) :
    n < Text.tenTo Text.maxDigits := by
  obtain ⟨digits, -, hnumeral, hread⟩ := exists_of_readNumber h
  exact hnumeral.lt_tenTo (readable_singleton.mp hread)

/-- The length of a name that is refused was read, so it can be written down. -/
theorem guarded_readSourceName (cs : Text) : Guarded cs (readSourceName cs) := by
  rw [readSourceName_eq]
  refine (guarded_readNumber cs).bind fun r hr => ?_
  split_ifs
  · exact guarded_refused (lt_tenTo_of_readNumber hr)
  · exact guarded_ok _
  · exact guarded_refused trivial

/-! ### Constructors -/

/-- Every vendor qualifier stands inside the text that the first one starts. -/
theorem guarded_readVendorQualifiers (cs : Text) : Guarded cs (readVendorQualifiers cs) := by
  fun_induction readVendorQualifiers cs with
  | case1 rest _ halt hhalt =>
    exact ((guarded_readSourceName rest).mono (List.suffix_cons _ _).isInfix).error hhalt
  | case2 => exact guarded_refused trivial
  | case3 rest _ name rest' hr _ ih =>
    obtain ⟨source, _, rfl, -⟩ := exists_of_readSourceName hr
    exact ih.mono ((List.suffix_append _ _).trans (List.suffix_cons _ _)).isInfix
  | case4 => exact guarded_refused trivial
  | case5 => exact guarded_ok _

/-- The lanes that a refusal shows were read, so they can be written down. -/
theorem guarded_readLanes (widths : List Int) (cs : Text) : Guarded cs (readLanes widths cs) := by
  by_cases hdigit : cs.head?.any (·.is Text.isDigit) = true
  · rw [readLanes_eq hdigit]
    refine (guarded_readNumber cs).bind fun r hr => ?_
    split_ifs
    · split
      · exact guarded_ok _
      · exact guarded_refused trivial
    · exact guarded_refused (lt_tenTo_of_readNumber hr)
  · unfold readLanes
    rw [if_neg hdigit]
    exact guarded_refused trivial

/-- A constructor stops only in its qualifiers or its lanes. -/
theorem guarded_readLayer (widths : List Int) (cs : Text) : Guarded cs (readLayer widths cs) := by
  cases cs with
  | nil => exact guarded_ok _
  | cons c rest =>
    rw [readLayer]
    split_ifs
    · exact guarded_ok _
    · exact (guarded_readVendorQualifiers _).map.map
    · have hlanes := guarded_readLanes widths (rest.drop 1)
      exact (hlanes.mono ((List.drop_suffix 1 rest).trans (List.suffix_cons _ _)).isInfix).map
    · exact guarded_ok _

/-! ### Types -/

/-- The number of a back-reference is read, and where it leads nowhere it is written again. -/
theorem guarded_readReference (table : List TypeInfo) (cs : Text) :
    Guarded (.char 'S' :: cs) (readReference table cs) := by
  have hchars : ∀ c ∈ cs.takeWhile isSequenceChar, isSequenceChar c = true :=
    List.all_eq_true.mp List.all_takeWhile
  unfold readReference
  dsimp only
  split
  · next rest hdrop =>
    have hinside :
        .char 'S' :: (cs.takeWhile isSequenceChar ++ [.char '_']) <:+: .char 'S' :: cs := by
      refine List.IsPrefix.isInfix ⟨rest, ?_⟩
      rw [List.cons_append, List.append_assoc, List.singleton_append, ← hdrop,
        List.takeWhile_append_dropWhile]
    -- what the reader takes for the number is a run inside the text
    generalize cs.takeWhile isSequenceChar = run at hchars hinside
    split
    · next e he =>
      unfold referenceIndex Text.ofDigits at he
      split_ifs at he with hempty hlen
      · cases he
      · cases he
        exact guarded_number (.sequence hinside hchars (Nat.lt_of_not_le hlen))
    · next index hindex =>
      split
      · exact guarded_ok _
      · -- the number was read but leads nowhere; the refusal writes it down again
        by_cases hnear : index < Text.tenTo Text.maxDigits
        · rw [Text.writeNat, if_pos hnear]
          exact guarded_refused hnear
        · rw [Text.writeNat, if_neg hnear]
          refine guarded_number ?_
          obtain ⟨href, -⟩ := isReference_of_referenceIndex hchars hindex
          -- the first place is always near enough
          cases href with
          | first => exact absurd (Text.tenTo_pos _) hnear
          | later => exact .place hinside hchars (Nat.le_of_not_lt hnear)
  · exact guarded_refused trivial

/-- A type without constructors stops only in its name or its back-reference. -/
theorem guarded_readTerminal (table : List TypeInfo) (cs : Text) :
    Guarded cs (readTerminal table cs) := by
  cases cs with
  | nil => exact guarded_refused trivial
  | cons c rest =>
    by_cases hdigit : c.is Text.isDigit = true
    · rw [readTerminal_of_isDigit hdigit]
      refine (guarded_readSourceName _).bind fun r hr => ?_
      -- a name that was read is not empty, so it makes a handle
      obtain ⟨source, numeral, -, hname, -⟩ := exists_of_readSourceName hr
      have hcheck : (TypeInfo.handle r.1).check = .ok (.handle r.1) :=
        TypeInfo.check_eq_ok_iff.mpr ⟨rfl, TypeInfo.handle_wellFormed hname.name_ne_nil⟩
      rw [hcheck]
      exact guarded_ok _
    · -- what is neither a name nor a back-reference stops with a reason only
      by_cases hS : c = 'S'
      · subst hS
        rw [readTerminal_reference]
        exact (guarded_readReference table rest).map
      · rw [readTerminal]
        split_ifs
        · exact guarded_ok _
        · split
          · exact guarded_ok _
          · exact guarded_refused trivial

/-- A constructor that is applied to a shape makes a shape or is refused. -/
theorem guarded_construct {layer : Layer} {operand : (TypeInfo × List TypeInfo) × Text}
    (h : operand.1.1.Presentable) {text : Text} : Guarded text (construct layer operand) := by
  refine Guarded.map ?_
  cases layer with
  | pointer | qualified => exact guarded_ok _
  | vector lanes =>
    rw [Layer.apply]
    split_ifs with hvector hnumeric
    · exact guarded_refused trivial
    · rw [TypeInfo.withWidth_eq_ok h.wellFormed hnumeric]
      exact guarded_ok _
    · exact guarded_refused h

/-- A type that is read is presentable, and so is all that joins the table. -/
theorem presentable_of_readType {widths : List Int} {table table' : List TypeInfo} {cs rest : Text}
    {t : TypeInfo} (htable : ∀ u ∈ table, u.Presentable)
    (h : readType widths table cs = .ok ((t, table'), rest)) :
    t.Presentable ∧ ∀ u ∈ table', u.Presentable := by
  obtain ⟨text, numerals, -, hspells, hread⟩ :=
    exists_spells_of_readType (fun u hu => (htable u hu).wellFormed) h
  exact hspells.presentable hread htable

/-- **Types.** A type is read or refused, unless a number in it is too long. -/
theorem guarded_readType {widths : List Int} {table : List TypeInfo} {cs : Text}
    (htable : ∀ u ∈ table, u.Presentable) : Guarded cs (readType widths table cs) := by
  -- induction on what is left: the operand of a constructor is shorter than the type
  induction hn : cs.length using Nat.strongRecOn generalizing cs with
  | ind n ih =>
    rw [readType_eq]
    refine (guarded_readLayer widths cs).bind fun front hlayer => ?_
    cases front with
    | none => exact (guarded_readTerminal table cs).map
    | some front =>
      obtain ⟨layer, rest⟩ := front
      have hlt := length_lt_of_readLayer hlayer
      obtain ⟨before, _, rfl, -⟩ := exists_constructs_of_readLayer hlayer
      have hoperand := (ih rest.length (hn ▸ hlt) rfl).mono (List.suffix_append before rest).isInfix
      -- the operand is guarded as a part, and applying the constructor adds no fault
      exact hoperand.bind fun operand hread =>
        guarded_construct (presentable_of_readType htable hread).1

/-! ### Symbols -/

/-- A parameter list stops only in one of its types. -/
theorem guarded_readParams {widths : List Int} {table : List TypeInfo} {cs : Text}
    (htable : ∀ u ∈ table, u.Presentable) : Guarded cs (readParams widths table cs) := by
  fun_induction readParams widths table cs with
  | case1 => exact guarded_ok _
  | case2 => exact guarded_refused trivial
  | case3 table c cs _ halt hhalt => exact (guarded_readType htable).error hhalt
  | case4 table c cs _ t table' rest hread ih =>
    obtain ⟨text, _, hcs, -⟩ :=
      exists_spells_of_readType (fun u hu => (htable u hu).wellFormed) hread
    have hrest := ih (presentable_of_readType htable hread).2
    rw [hcs]
    exact (hrest.mono (List.suffix_append text rest).isInfix).map

/-- What stands behind the `_Z` stops only in the name or in the parameters. -/
theorem guarded_readEncoding (widths : List Int) (cs : Text) :
    Guarded cs (readEncoding widths cs) := by
  by_cases hdigit : cs.head?.any (·.is Text.isDigit) = true
  · rw [readEncoding_eq hdigit]
    refine (guarded_readSourceName cs).bind fun r hr => ?_
    obtain ⟨source, _, rfl, -⟩ := exists_of_readSourceName hr
    split_ifs
    · exact guarded_ok _
    · exact ((guarded_readParams (by simp)).mono (List.suffix_append source _).isInfix).map
  · unfold readEncoding
    rw [if_neg hdigit]
    exact guarded_refused trivial

/-- **Symbols.** A symbol is decoded, or refused for a reason that can be written down, or a number
    in it is too long. -/
theorem decode_cases (symbol : Text) (widths : List Int) :
    (∃ d, decode symbol widths = .ok d) ∨
    (∃ f, decode symbol widths = .error (.failed f) ∧ f.symbol = symbol ∧ f.reason.Presentable) ∨
    ∃ e, decode symbol widths = .error (.fault (.number e)) ∧ Overlong symbol e := by
  unfold decode
  split
  · next rest =>
    have hguarded := guarded_readEncoding widths rest
    split
    · exact .inl ⟨_, rfl⟩
    · next halt hhalt =>
      -- the readers work on what stands behind the `_Z`, inside the symbol
      cases halt with
      | refused reason rest' =>
        exact .inr (.inl ⟨_, rfl, rfl, hguarded.refused reason rest' hhalt⟩)
      | fault f =>
        obtain ⟨e, rfl, he⟩ := hguarded.fault f hhalt
        exact .inr (.inr ⟨e, rfl,
          he.mono ((List.suffix_cons _ _).trans (List.suffix_cons _ _)).isInfix⟩)
  · split
    · exact .inl ⟨_, rfl⟩
    · exact .inr (.inl ⟨_, rfl, rfl, trivial⟩)

/-- A symbol whose name is counted by a numeral that is too long is neither decoded nor refused. -/
theorem decode_of_numeral {digits : Text} {n : Nat} (h : IsNumeral digits n)
    (hlong : Text.maxDigits < digits.length) (widths : List Int) :
    ∃ k, decode (.char '_' :: .char 'Z' :: digits) widths
      = .error (.fault (.number (.tooLongToRead k))) := by
  have hnumber : Reads [digits] (readNumber (digits ++ [])) (n, []) := reads_readNumber h (by simp)
  rw [List.append_nil] at hnumber
  obtain ⟨k, hk⟩ := hnumber.tooLong (by rw [readable_singleton]; omega)
  -- the numeral starts with a digit, so a name is read at all
  obtain ⟨c, tail, rfl⟩ := List.exists_cons_of_ne_nil h.ne_nil
  have hdigit : (c :: tail).head?.any (·.is Text.isDigit) = true := by
    simpa using h.isDigit c List.mem_cons_self
  refine ⟨k, ?_⟩
  rw [decode, readEncoding_eq hdigit, readSourceName_eq, hk]
  rfl

/-- The parameters of a symbol that is decoded are presentable, and its name stands in it. -/
theorem presentable_of_decode {symbol : Text} {widths : List Int} {d : Decoded}
    (h : decode symbol widths = .ok d) :
    (∀ t ∈ d.params, t.Presentable) ∧ d.name <:+: symbol := by
  obtain ⟨numerals, hsymbol, hread⟩ := exists_isSymbol_of_decode h
  -- a counted name ends its source
  have hname : ∀ {source numeral name : Text}, IsSourceName source numeral name → ∀ rest : Text,
      name <:+: .char '_' :: .char 'Z' :: (source ++ rest) := by
    intro source numeral name hsource rest
    exact ⟨.char '_' :: .char 'Z' :: numeral, rest, by simp [hsource.text_eq]⟩
  cases hsymbol with
  | plain => exact ⟨by simp, List.infix_refl _⟩
  | bare isName => exact ⟨by simp, by simpa using hname isName []⟩
  | void isName => exact ⟨by simp, hname isName _⟩
  | params isName spelled =>
    have hall : Readable _ := fun digits hd => hread digits (List.mem_cons_of_mem _ hd)
    exact ⟨spelled.presentable hall (by simp), hname isName _⟩

/-! ### Short texts -/

/-- Digits and capital letters are digits in base 36. -/
theorem digitValue_lt_of_isSequenceChar {c : CodePoint} (h : isSequenceChar c = true) :
    Text.digitValue c < 36 := by
  by_cases hdigit : c.is Text.isDigit = true
  · have := Text.digitValue_lt_ten hdigit
    omega
  · cases c with
    | half k => exact absurd h (by simp [isSequenceChar, CodePoint.is])
    | char d =>
      rw [Text.digitValue, if_neg hdigit]
      -- a capital letter stands for its place in the alphabet and ten more
      have hkind : Text.isDigit d = true ∨ Text.isUpper d = true := by
        simpa [isSequenceChar, CodePoint.is] using h
      have hupper := hkind.resolve_left hdigit
      simp only [Text.isUpper, Bool.and_eq_true, decide_eq_true_eq] at hupper
      have hZ : d.toNat ≤ 90 := hupper.2
      show d.toNat - 65 + 10 < 36
      omega

/-- The place that a short back-reference leads to can be written down. -/
theorem place_lt {run : Text} (hchars : ∀ c ∈ run, isSequenceChar c = true)
    (hlen : run.length ≤ 2762) :
    Text.ofDigitValues 36 (run.map Text.digitValue) + 1 < Text.tenTo Text.maxDigits := by
  have hdigits : ∀ v ∈ (run.map Text.digitValue).reverse, v < 36 := by
    intro v hv
    rw [List.mem_reverse, List.mem_map] at hv
    obtain ⟨c, hc, rfl⟩ := hv
    exact digitValue_lt_of_isSequenceChar (hchars c hc)
  -- a number in base 36 is below the power of 36 that its length says
  have hlt := Nat.ofDigits_lt_base_pow_length (by omega) hdigits
  rw [← Text.ofDigitValues_eq_ofDigits, List.length_reverse, List.length_map] at hlt
  calc Text.ofDigitValues 36 (run.map Text.digitValue) + 1
      ≤ 36 ^ run.length := hlt
    _ ≤ 36 ^ 2762 := Nat.pow_le_pow_right (by omega) hlen
    _ < Text.tenTo Text.maxDigits := by decide +kernel

/-- A text with a number that is too long has more than 2764 characters. -/
theorem Overlong.length_lt {text : Text} {e : Text.NumberError} (h : Overlong text e) :
    2764 < text.length := by
  have hmax : Text.maxDigits = 4300 := rfl
  cases h with
  -- a numeral alone is longer than that; the others add `S` and `_`
  | numeral inside _ long =>
    have := inside.length_le
    omega
  | sequence inside _ long =>
    have := inside.length_le
    simp only [List.length_cons, List.length_append] at this
    omega
  | @place run inside chars far =>
    have hlen := inside.length_le
    simp only [List.length_cons, List.length_append, List.length_nil] at hlen
    by_contra hshort
    exact absurd far (Nat.not_le_of_lt (place_lt chars (by omega)))

end KernelCalls.Mangling
