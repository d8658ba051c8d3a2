import KernelCalls.Mangling.Basic

namespace KernelCalls.Mangling

/-!
# Reading symbols

A symbol is `_Z`, a length-counted name and its parameter types, or a plain identifier. Types are
read in one pass: constructors wait on a stack for their operand, and every type that is not a
builtin letter or a back-reference joins the table that later back-references point into, operands
before what is built from them.

* `readType` : one type, with the table it leaves behind
* `readParams` : the parameter types up to the end of the symbol
* `decode` : a whole symbol
-/

/-- Why reading stopped: a reason with what was left of the symbol, or a fault. -/
inductive Halt where
  | refused (reason : Reason) (rest : Text)
  | fault (f : Fault)
  deriving DecidableEq, Repr

/-- What was read, with what is left of the symbol. -/
abbrev Reading (α : Type) := Except Halt (α × Text)

/-! ### Numbers and names -/

/-- A decimal number without leading zeros. -/
def readNumber (cs : Text) : Reading Nat :=
  let digits := cs.takeWhile (·.is Text.isDigit)
  if digits.isEmpty then .error (.refused .expectedNumber cs)
  else if 1 < digits.length ∧ digits.head? = some (.char '0') then .error (.refused .leadingZero cs)
  else
    match Text.ofDigits 10 digits with
    | .ok n => .ok (n, cs.dropWhile (·.is Text.isDigit))
    | .error e => .error (.fault (.number e))

/-- A name preceded by its length. -/
def readSourceName (cs : Text) : Reading Text :=
  match readNumber cs with
  | .error e => .error e
  | .ok (length, rest) =>
    if length = 0 ∨ rest.length < length then .error (.refused (.nameTooLong length) rest)
    else
      let name := rest.take length
      if isIdentifier name then .ok (name, rest.drop length)
      else .error (.refused (.invalidIdentifier name) rest)

/-- A run that is not empty takes something off. -/
theorem length_dropWhile_lt {p : CodePoint → Bool} {cs : Text}
    (h : (cs.takeWhile p).isEmpty = false) : (cs.dropWhile p).length < cs.length := by
  have := congrArg List.length (List.takeWhile_append_dropWhile (p := p) (l := cs))
  have : (cs.takeWhile p).length ≠ 0 := by
    intro h0
    simp [List.eq_nil_of_length_eq_zero h0] at h
  simp only [List.length_append] at *
  omega

/-- A number takes at least one digit off. -/
theorem length_lt_of_readNumber {cs rest : Text} {n : Nat}
    (h : readNumber cs = .ok (n, rest)) : rest.length < cs.length := by
  unfold readNumber at h
  dsimp only at h
  split at h
  · cases h
  · split at h
    · cases h
    · split at h
      · cases h
        exact length_dropWhile_lt (by simp_all)
      · cases h

/-- A counted name takes at least its count off. -/
theorem length_lt_of_readSourceName {cs rest : Text} {name : Text}
    (h : readSourceName cs = .ok (name, rest)) : rest.length < cs.length := by
  unfold readSourceName at h
  split at h
  · cases h
  · next hn =>
    split at h
    · cases h
    · dsimp only at h
      split at h
      · cases h
        have := length_lt_of_readNumber hn
        simp only [List.length_drop]
        omega
      · cases h

/-! ### Back-references -/

/-- The position in the table that a back-reference names: none for the first entry, otherwise one
more than its number in base 36. -/
def referenceIndex (sequence : Text) : Except Text.NumberError Nat :=
  if sequence.isEmpty then .ok 0 else (Text.ofDigits 36 sequence).map (· + 1)

/-- A back-reference after its `S`. -/
def readReference (table : List TypeInfo) (cs : Text) : Reading TypeInfo :=
  let sequence := cs.takeWhile isSequenceChar
  match cs.dropWhile isSequenceChar with
  | .char '_' :: rest =>
    match referenceIndex sequence with
    | .error e => .error (.fault (.number e))
    | .ok index =>
      match table[index]? with
      | some t => .ok (t, rest)
      | none =>
        match Text.writeNat index with
        | .error e => .error (.fault (.number e))
        | .ok _ =>
          .error (.refused (.danglingReference sequence index table.length) rest)
  | rest => .error (.refused .unsupportedSubstitution rest)

/-- A run never adds anything. -/
theorem length_dropWhile_le (p : CodePoint → Bool) (cs : Text) :
    (cs.dropWhile p).length ≤ cs.length :=
  (List.dropWhile_sublist p).length_le

/-- A back-reference takes at least its underscore off. -/
theorem length_lt_of_readReference {table : List TypeInfo} {cs rest : Text} {t : TypeInfo}
    (h : readReference table cs = .ok (t, rest)) : rest.length < cs.length := by
  unfold readReference at h
  dsimp only at h
  split at h
  · next hd =>
    have hl := congrArg List.length hd
    have := length_dropWhile_le isSequenceChar cs
    simp only [List.length_cons] at hl
    split at h
    · cases h
    · split at h
      · cases h
        omega
      · split at h <;> cases h
  · cases h

/-! ### Constructors -/

/-- Vendor qualifiers: each an `U` and a name, none with template arguments. -/
def readVendorQualifiers (cs : Text) : Except Halt (Text) :=
  match cs with
  | .char 'U' :: rest =>
    if rest.head?.any (·.is Text.isDigit) then
      match _ : readSourceName rest with
      | .error e => .error e
      | .ok (_, rest') =>
        if rest'.head? = some (.char 'I') then .error (.refused .templatedQualifier rest')
        else readVendorQualifiers rest'
    else .error (.refused .expectedQualifierName rest)
  | _ => .ok cs
termination_by cs.length
decreasing_by
  have := length_lt_of_readSourceName ‹_›
  simp only [List.length_cons]
  omega

/-- What is left after one character, if it is there. -/
def dropChar (c : CodePoint) : Text → Text
  | d :: rest => if d = c then rest else d :: rest
  | [] => []

/-- A character that may be there is taken off where it is. -/
theorem dropChar_cons (c d : CodePoint) (cs : Text) :
    dropChar c (d :: cs) = if d = c then cs else d :: cs := rfl

/-- One group of qualifiers: vendor qualifiers, then `r`, `V` and `K`, each at most once. -/
def readQualifiers (cs : Text) : Except Halt (Text) :=
  (readVendorQualifiers cs).map fun rest => dropChar 'K' (dropChar 'V' (dropChar 'r' rest))

/-- A character that may be there adds nothing. -/
theorem length_dropChar_le (c : CodePoint) (cs : Text) : (dropChar c cs).length ≤ cs.length := by
  unfold dropChar
  split
  · split <;> simp
  · simp

/-- Vendor qualifiers add nothing, and take something off where there is one. -/
theorem length_le_of_readVendorQualifiers {cs rest : Text}
    (h : readVendorQualifiers cs = .ok rest) :
    rest.length ≤ cs.length ∧ (cs.head? = some (.char 'U') → rest.length < cs.length) := by
  fun_induction readVendorQualifiers cs with
  | case1 => cases h
  | case2 => cases h
  | case3 r _ _ _ hr _ ih =>
    have := length_lt_of_readSourceName hr
    have := (ih h).1
    simp only [List.length_cons]
    omega
  | case4 => cases h
  | case5 _ hcs =>
    cases h
    refine ⟨Nat.le_refl _, fun hU => ?_⟩
    cases rest with
    | nil => simp at hU
    | cons c tail =>
      simp only [List.head?_cons, Option.some.injEq] at hU
      subst hU
      exact absurd rfl (hcs tail)

/-- Where no vendor qualifier begins, none is read. -/
theorem readVendorQualifiers_of_ne {c : CodePoint} {cs : Text} (h : c ≠ 'U') :
    readVendorQualifiers (c :: cs) = .ok (c :: cs) := by
  unfold readVendorQualifiers
  split
  · next heq => exact absurd (List.cons.inj heq).1 h
  · rfl

/-- Of the three flags, one that is there is taken off. -/
theorem length_dropChars_lt {c : CodePoint} {cs : Text} (h : isQualifier c = true) :
    (dropChar 'K' (dropChar 'V' (dropChar 'r' (c :: cs)))).length < (c :: cs).length := by
  simp only [isQualifier, Bool.or_eq_true, beq_iff_eq] at h
  have hV := length_dropChar_le 'V' cs
  have hK := length_dropChar_le 'K' cs
  have hKV := length_dropChar_le 'K' (dropChar 'V' cs)
  rcases h with (rfl | rfl) | rfl <;> simp [dropChar_cons] <;> omega

/-- Qualifiers that are there take something off. -/
theorem length_lt_of_readQualifiers {c : CodePoint} {cs rest : Text}
    (hc : c = 'U' ∨ isQualifier c = true) (h : readQualifiers (c :: cs) = .ok rest) :
    rest.length < (c :: cs).length := by
  unfold readQualifiers at h
  by_cases hU : c = 'U'
  · cases hv : readVendorQualifiers (c :: cs) with
    | error e => simp [hv, Except.map] at h
    | ok r =>
      simp only [hv, Except.map] at h
      cases h
      have hr := length_dropChar_le 'r' r
      have hV := length_dropChar_le 'V' (dropChar 'r' r)
      have hK := length_dropChar_le 'K' (dropChar 'V' (dropChar 'r' r))
      have := (length_le_of_readVendorQualifiers hv).2 (by simp [hU])
      omega
  · rw [readVendorQualifiers_of_ne hU] at h
    simp only [Except.map] at h
    cases h
    exact length_dropChars_lt (hc.resolve_left hU)

/-- The number of lanes of a vector, after its `Dv`. -/
def readLanes (widths : List Int) (cs : Text) : Reading Nat :=
  if cs.head?.any (·.is Text.isDigit) then
    match readNumber cs with
    | .error e => .error e
    | .ok (width, rest) =>
      if (width : Int) ∈ widths then
        match rest with
        | .char '_' :: rest' => .ok (width, rest')
        | _ => .error (.refused .expectedUnderscore rest)
      else .error (.refused (.vectorWidth width) rest)
  else .error (.refused .dependentVectorSize cs)

/-- The lanes of a vector take at least their numeral off. -/
theorem length_lt_of_readLanes {widths : List Int} {cs rest : Text} {n : Nat}
    (h : readLanes widths cs = .ok (n, rest)) : rest.length < cs.length := by
  unfold readLanes at h
  split at h
  · split at h
    · cases h
    · next hn =>
      split at h
      · split at h
        · cases h
          have := length_lt_of_readNumber hn
          simp only [List.length_cons] at this
          omega
        · cases h
      · cases h
  · cases h

/-- The constructors in front of a type, pushed on the stack as they come. -/
def readLayers (widths : List Int) (stack : List Layer) (cs : Text) : Reading (List Layer) :=
  match cs with
  | [] => .ok (stack, [])
  | c :: rest =>
    if c = 'P' then readLayers widths (.pointer :: stack) rest
    else if _ : c = 'U' ∨ isQualifier c then
      match _ : readQualifiers (c :: rest) with
      | .error e => .error e
      | .ok rest' => readLayers widths (.qualified :: stack) rest'
    else if c = 'D' ∧ rest.head? = some (.char 'v') then
      match _ : readLanes widths (rest.drop 1) with
      | .error e => .error e
      | .ok (lanes, rest') => readLayers widths (.vector lanes :: stack) rest'
    else .ok (stack, c :: rest)
termination_by cs.length
decreasing_by
  · simp
  · exact length_lt_of_readQualifiers ‹_› ‹_›
  · have := length_lt_of_readLanes ‹_›
    simp only [List.length_drop, List.length_cons] at *
    omega

/-- Layers add nothing; there may be none. -/
theorem length_le_of_readLayers {widths : List Int} {stack out : List Layer} {cs rest : Text}
    (h : readLayers widths stack cs = .ok (out, rest)) : rest.length ≤ cs.length := by
  -- induction along the recursion: a layer takes its letters, and the rest is no longer than what
  -- it leaves
  fun_induction readLayers widths stack cs with
  | case1 =>
    cases h
    exact Nat.le_refl _
  | case2 _ _ ih =>
    have := ih h
    simp only [List.length_cons]
    omega
  | case3 => cases h
  | case4 _ _ _ _ hc _ hq ih =>
    have := ih h
    have := length_lt_of_readQualifiers hc hq
    omega
  | case5 => cases h
  | case6 _ _ _ _ _ _ _ _ hl ih =>
    have := ih h
    have := length_lt_of_readLanes hl
    simp only [List.length_drop, List.length_cons] at *
    omega
  | case7 =>
    cases h
    exact Nat.le_refl _

/-! ### Types -/

/-- A type without constructors, and whether it joins the table. -/
def readTerminal (table : List TypeInfo) (cs : Text) : Reading (TypeInfo × Bool) :=
  match cs with
  | [] => .error (.refused .unexpectedEnd [])
  | c :: rest =>
    if c = 'D' ∧ rest.head? = some (.char 'h') then .ok ((Scalar.half.type, false), rest.drop 1)
    else
      match builtinCode? c with
      | some scalar => .ok ((scalar.type, false), rest)
      | none =>
        if c.is Text.isDigit then
          match readSourceName cs with
          | .error e => .error e
          | .ok (name, rest') =>
            match (TypeInfo.handle name).check with
            | .error e => .error (.fault (.shape e))
            | .ok t => .ok ((t, true), rest')
        else if c = 'S' then
          match readReference table rest with
          | .error e => .error e
          | .ok (t, rest') => .ok ((t, false), rest')
        else .error (.refused (.unknownTypeCode c) cs)

/-- A type without layers takes at least one character off. -/
theorem length_lt_of_readTerminal {table : List TypeInfo} {cs rest : Text}
    {t : TypeInfo × Bool} (h : readTerminal table cs = .ok (t, rest)) :
    rest.length < cs.length := by
  -- every kind of type takes its first character at least
  unfold readTerminal at h
  split at h
  · cases h
  · split at h
    · cases h
      simp only [List.length_drop, List.length_cons]
      omega
    · split at h
      · cases h
        simp
      · split at h
        · split at h
          · cases h
          · next hn =>
            split at h
            · cases h
            · cases h
              exact length_lt_of_readSourceName hn
        · split at h
          · split at h
            · cases h
            · next hr =>
              cases h
              have := length_lt_of_readReference hr
              simp only [List.length_cons]
              omega
          · cases h

/-- The shape that a constructor makes of its operand, at the point where `rest` is left. Only a
vector changes the shape, and only numbers have vectors. -/
def Layer.apply (layer : Layer) (inner : TypeInfo) (rest : Text) : Except Halt TypeInfo :=
  match layer with
  | .vector lanes =>
    if inner.isVector then .error (.refused .vectorOfVector rest)
    else if inner.kind.isNumeric then
      match inner.withWidth lanes with
      | .ok t => .ok t
      | .error e => .error (.fault (.shape e))
    else .error (.refused (.vectorOf inner) rest)
  | _ => .ok inner

/-- Applies the waiting constructors, the last one read first; each result joins the table. -/
def applyLayers (rest : Text) :
    List Layer → TypeInfo → List TypeInfo → Except Halt (TypeInfo × List TypeInfo)
  | [], t, table => .ok (t, table)
  | layer :: stack, t, table =>
    match layer.apply t rest with
    | .error e => .error e
    | .ok t' => applyLayers rest stack t' (table ++ [t'])

/-- One type, with the table that it leaves behind. -/
def readType (widths : List Int) (table : List TypeInfo) (cs : Text) :
    Reading (TypeInfo × List TypeInfo) :=
  match readLayers widths [] cs with
  | .error e => .error e
  | .ok (stack, rest) =>
    match readTerminal table rest with
    | .error e => .error e
    | .ok ((t, joins), rest') =>
      match applyLayers rest' stack t (if joins then table ++ [t] else table) with
      | .error e => .error e
      | .ok result => .ok (result, rest')

/-- A type takes at least one character off, whatever its layers. -/
theorem length_lt_of_readType {widths : List Int} {table : List TypeInfo} {cs rest : Text}
    {r : TypeInfo × List TypeInfo} (h : readType widths table cs = .ok (r, rest)) :
    rest.length < cs.length := by
  unfold readType at h
  split at h
  · cases h
  · next hl =>
    split at h
    · cases h
    · next ht =>
      split at h
      · cases h
      · cases h
        have := length_le_of_readLayers hl
        have := length_lt_of_readTerminal ht
        omega

/-! ### Symbols -/

/-- The parameter types up to the end of the symbol, none of them plain void. -/
def readParams (widths : List Int) (table : List TypeInfo) (cs : Text) :
    Except Halt (List TypeInfo) :=
  match cs with
  | [] => .ok []
  | c :: cs' =>
    if c = 'v' then .error (.refused .voidParameter (c :: cs'))
    else
      match _ : readType widths table (c :: cs') with
      | .error e => .error e
      | .ok ((t, table'), rest) => (readParams widths table' rest).map (t :: ·)
termination_by cs.length
decreasing_by exact length_lt_of_readType ‹_›

/-- What follows the `_Z`: a name, then nothing, a lone `v` or the parameter types. -/
def readEncoding (widths : List Int) (cs : Text) : Except Halt (Text × List TypeInfo) :=
  if cs.head?.any (·.is Text.isDigit) then
    match readSourceName cs with
    | .error e => .error e
    | .ok (name, rest) =>
      if rest = [.char 'v'] then .ok (name, [])
      else (readParams widths [] rest).map fun params => (name, params)
  else .error (.refused .notPlainName cs)

/-- The reason for stopping as an error of the whole symbol; its offset is what had been read. -/
def Halt.toError (symbol : Text) : Halt → Error
  | .refused reason rest => .failed ⟨symbol, reason, symbol.length - rest.length⟩
  | .fault f => .fault f

/-- The base name and parameters of a symbol, for the given vector widths. -/
def decode (symbol : Text) (widths : List Int) : Except Error Decoded :=
  match symbol with
  | .char '_' :: .char 'Z' :: rest =>
    match readEncoding widths rest with
    | .ok (name, params) => .ok ⟨name, params, true⟩
    | .error halt => .error (halt.toError symbol)
  | cs =>
    if isIdentifier cs then .ok ⟨symbol, [], false⟩
    else .error (.failed ⟨symbol, .notASymbol, 0⟩)

end KernelCalls.Mangling
