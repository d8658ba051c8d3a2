import KernelCalls.Mangling.Decode
import Mathlib.Logic.Relation

namespace KernelCalls.Mangling

/-!
# A decoder that keeps its position

The functions of `decode` hand on what is left of the symbol.  A decoder keeps its position in the
symbol instead, with the table, the constructors that wait and the parameters so far, and each of
its steps moves the position once or changes one of these lists.

* `Stage`, `Decoder` : where a decoder stands and what it has.
* `Decoder.step` : the next step, or the end.
* `Decoder.At` : what is left of the symbol at a position.
* `Decoder.Steps`, `Decoder.Ends` : runs of a decoder.
-/

/-! ### Decoders -/

/-- What a counted name is read for: the base name, a vendor qualifier or a handle. -/
inductive NameUse where
  | base
  | vendor
  | handle
  deriving DecidableEq, Repr

/-- What a number is read for: the length of a name, or the lanes of a vector. -/
inductive NumberUse where
  | length (use : NameUse)
  | lanes
  deriving DecidableEq, Repr

/-- Where a decoder stands. -/
inductive Stage where
  /-- In front of the symbol. -/
  | symbol
  /-- Where a number must begin; otherwise the symbol is refused. -/
  | count (use : NumberUse) (otherwise : Reason)
  /-- Among the digits of a number that begins at a position. -/
  | digits (use : NumberUse) (start : Nat)
  /-- Behind a number. -/
  | number (use : NumberUse) (n : Nat)
  /-- Behind a counted name. -/
  | named (use : NameUse) (name : Text)
  /-- In front of a parameter or the end of the symbol. -/
  | param
  /-- In front of a type or what is left of it. -/
  | layer
  /-- In front of vendor qualifiers or what follows them. -/
  | vendor
  /-- In front of the qualifiers that may still come, each at most once. -/
  | flags (left : List CodePoint)
  /-- In front of a type without constructors. -/
  | terminal
  /-- Behind the `S` of a back-reference. -/
  | sequence
  /-- Behind the number of a back-reference. -/
  | underscore (sequence : Text)
  /-- Behind a back-reference. -/
  | reference (sequence : Text)
  /-- Behind a type to which the constructors that wait are applied. -/
  | operand (t : TypeInfo)
  deriving DecidableEq, Repr

/-- A decoder of a symbol: where it stands, and what it has. -/
structure Decoder where
  stage : Stage
  position : Nat
  name : Text
  table : List TypeInfo
  stack : List Layer
  params : List TypeInfo
  deriving DecidableEq, Repr

namespace Decoder

/-- In front of the symbol, with nothing. -/
def start : Decoder := ⟨.symbol, 0, [], [], [], []⟩

/-- What a step leads to: another state, or the end with a result. -/
inductive Next where
  | to (d : Decoder)
  | done (result : Except Error Decoded)

/-- The end at which the symbol is refused where the decoder stands. -/
def refuse (d : Decoder) (symbol : Text) (reason : Reason) : Next :=
  .done (.error (.failed ⟨symbol, reason, d.position⟩))

/-- The end with a fault. -/
def stop (f : Fault) : Next := .done (.error (.fault f))

/-- The step behind the digits of a number that begins at a position. -/
def stepDigits (symbol : Text) (d : Decoder) (use : NumberUse) (start : Nat) (digits : Text) :
    Next :=
  if digits.isEmpty then d.refuse symbol .expectedNumber
  else if 1 < digits.length ∧ digits.head? = some (.char '0') then
    { d with position := start }.refuse symbol .leadingZero
  else
    match Text.ofDigits 10 digits with
    | .ok n => .to { d with stage := .number use n }
    | .error e => stop (.number e)

/-- The step behind a number. -/
def stepNumber (symbol : Text) (widths : List Int) (d : Decoder) (n : Nat) : NumberUse → Next
  | .length use =>
    if n = 0 ∨ symbol.length < d.position + n then d.refuse symbol (.nameTooLong n)
    else
      let name := (symbol.drop d.position).take n
      if isIdentifier name then
        .to { d with stage := .named use name, position := d.position + n }
      else d.refuse symbol (.invalidIdentifier name)
  | .lanes =>
    if (n : Int) ∈ widths then
      if (symbol.drop d.position).head? = some (.char '_') then
        .to { d with
          stage := .layer, position := d.position + 1, stack := .vector n :: d.stack }
      else d.refuse symbol .expectedUnderscore
    else d.refuse symbol (.vectorWidth n)

/-- The step behind a counted name. -/
def stepNamed (symbol : Text) (d : Decoder) (name : Text) : NameUse → Next
  | .base =>
    if symbol.drop d.position = [.char 'v'] then .done (.ok ⟨name, [], true⟩)
    else .to { d with stage := .param, name }
  | .vendor =>
    if (symbol.drop d.position).head? = some (.char 'I') then d.refuse symbol .templatedQualifier
    else .to { d with stage := .vendor }
  | .handle =>
    match (TypeInfo.handle name).check with
    | .ok t => .to { d with stage := .operand t, table := d.table ++ [t] }
    | .error e => stop (.shape e)

/-- The step in front of a type, from what is left of the symbol. -/
def stepLayer (d : Decoder) : Text → Next
  | [] => .to { d with stage := .terminal }
  | c :: cs =>
    if c = 'P' then
      .to { d with position := d.position + 1, stack := .pointer :: d.stack }
    else if c = 'U' ∨ isQualifier c then .to { d with stage := .vendor }
    else if c = 'D' ∧ cs.head? = some (.char 'v') then
      .to { d with stage := .count .lanes .dependentVectorSize, position := d.position + 2 }
    else .to { d with stage := .terminal }

/-- The step in front of a type without constructors, from what is left of the symbol. -/
def stepTerminal (symbol : Text) (d : Decoder) : Text → Next
  | [] => d.refuse symbol .unexpectedEnd
  | c :: cs =>
    if c = 'D' ∧ cs.head? = some (.char 'h') then
      .to { d with stage := .operand Scalar.half.type, position := d.position + 2 }
    else
      match builtinCode? c with
      | some s => .to { d with stage := .operand s.type, position := d.position + 1 }
      | none =>
        if c.is Text.isDigit then .to { d with stage := .digits (.length .handle) d.position }
        else if c = 'S' then .to { d with stage := .sequence, position := d.position + 1 }
        else d.refuse symbol (.unknownTypeCode c)

/-- The step behind a back-reference. The table is looked into at a place that it has. -/
def stepReference (symbol : Text) (d : Decoder) (sequence : Text) : Next :=
  match referenceIndex sequence with
  | .error e => stop (.number e)
  | .ok index =>
    if h : index < d.table.length then .to { d with stage := .operand d.table[index] }
    else
      match Text.writeNat index with
      | .error e => stop (.number e)
      | .ok _ => d.refuse symbol (.danglingReference sequence index d.table.length)

/-- The step behind a type: the last constructor that waits is applied and its result joins the
    table, or the type is a parameter. -/
def stepOperand (symbol : Text) (d : Decoder) (t : TypeInfo) : Next :=
  match d.stack with
  | [] => .to { d with stage := .param, params := d.params ++ [t] }
  | layer :: stack =>
    match layer.apply t (symbol.drop d.position) with
    | .ok t' => .to { d with stage := .operand t', table := d.table ++ [t'], stack }
    | .error (.refused reason _) => d.refuse symbol reason
    | .error (.fault f) => stop f

/-- The next step of a decoder. -/
def step (symbol : Text) (widths : List Int) (d : Decoder) : Next :=
  let rest := symbol.drop d.position
  match d.stage with
  | .symbol =>
    match symbol with
    | .char '_' :: .char 'Z' :: _ =>
      .to { d with stage := .count (.length .base) .notPlainName, position := 2 }
    | _ =>
      if isIdentifier symbol then .done (.ok ⟨symbol, [], false⟩)
      else d.refuse symbol .notASymbol
  | .count use otherwise =>
    if rest.head?.any (·.is Text.isDigit) then .to { d with stage := .digits use d.position }
    else d.refuse symbol otherwise
  | .digits use start =>
    if rest.head?.any (·.is Text.isDigit) then .to { d with position := d.position + 1 }
    else d.stepDigits symbol use start ((symbol.drop start).take (d.position - start))
  | .number use n => d.stepNumber symbol widths n use
  | .named use name => d.stepNamed symbol name use
  | .param =>
    match rest.head? with
    | none => .done (.ok ⟨d.name, d.params, true⟩)
    | some c =>
      if c = 'v' then d.refuse symbol .voidParameter else .to { d with stage := .layer }
  | .layer => d.stepLayer rest
  | .vendor =>
    if rest.head? = some (.char 'U') then
      .to { d with
        stage := .count (.length .vendor) .expectedQualifierName, position := d.position + 1 }
    else .to { d with stage := .flags ['r', 'V', 'K'] }
  | .flags [] => .to { d with stage := .layer, stack := .qualified :: d.stack }
  | .flags (c :: left) =>
    if rest.head? = some c then .to { d with stage := .flags left, position := d.position + 1 }
    else .to { d with stage := .flags left }
  | .terminal => d.stepTerminal symbol rest
  | .sequence =>
    let sequence := rest.takeWhile isSequenceChar
    .to { d with stage := .underscore sequence, position := d.position + sequence.length }
  | .underscore sequence =>
    if rest.head? = some (.char '_') then
      .to { d with stage := .reference sequence, position := d.position + 1 }
    else d.refuse symbol .unsupportedSubstitution
  | .reference sequence => d.stepReference symbol sequence
  | .operand t => d.stepOperand symbol t

/-! ### Runs -/

/-- What is left of the symbol at a position. -/
structure At (symbol : Text) (position : Nat) (rest : Text) : Prop where
  drop_eq : symbol.drop position = rest
  le : position ≤ symbol.length

variable {symbol : Text} {widths : List Int} {position : Nat} {rest : Text}

/-- The position and what is left add up to the symbol. -/
theorem At.length (h : At symbol position rest) : position + rest.length = symbol.length := by
  rw [← h.drop_eq, List.length_drop]
  have := h.le
  omega

/-- Behind a text that was passed, the position has grown by its length. -/
theorem At.append {front : Text} (h : At symbol position (front ++ rest)) :
    At symbol (position + front.length) rest where
  drop_eq := by rw [← List.drop_drop, h.drop_eq, List.drop_left]
  le := by
    have := h.length
    rw [List.length_append] at this
    omega

/-- Behind a character that was passed, the position has grown by one. -/
theorem At.cons {c : CodePoint} (h : At symbol position (c :: rest)) :
    At symbol (position + 1) rest :=
  At.append (show At symbol position ([c] ++ rest) from h)

/-- A text is refused at the offset that was not left. -/
theorem At.toError (h : At symbol position rest) (reason : Reason) :
    (Halt.refused reason rest).toError symbol = .failed ⟨symbol, reason, position⟩ := by
  have := h.length
  rw [Halt.toError, show symbol.length - rest.length = position by omega]

section Runs

variable (symbol : Text) (widths : List Int)

/-- One step leads from one state to another. -/
def Goes (d d' : Decoder) : Prop := d.step symbol widths = .to d'

/-- Steps lead from one state to another. -/
abbrev Steps : Decoder → Decoder → Prop := Relation.ReflTransGen (Goes symbol widths)

/-- Steps lead to the end with a result. -/
def Ends (d : Decoder) (result : Except Error Decoded) : Prop :=
  ∃ d', Steps symbol widths d d' ∧ d'.step symbol widths = .done result

end Runs

/-- A run may be followed to its end from any of its states. -/
theorem Ends.of_steps {d d' : Decoder} {result : Except Error Decoded}
    (hsteps : Steps symbol widths d d') (h : Ends symbol widths d' result) :
    Ends symbol widths d result := by
  obtain ⟨last, hlast, hdone⟩ := h
  exact ⟨last, hsteps.trans hlast, hdone⟩

/-- A decoder has one end. -/
theorem Ends.unique {d : Decoder} {result result' : Except Error Decoded}
    (h : Ends symbol widths d result) (h' : Ends symbol widths d result') : result = result' := by
  obtain ⟨last, hsteps, hdone⟩ := h
  -- induction along the first run: every step has one result, so the second run takes the same ones
  induction hsteps using Relation.ReflTransGen.head_induction_on with
  | refl =>
    obtain ⟨last', hsteps', hdone'⟩ := h'
    rcases hsteps'.cases_head with rfl | ⟨next, hgoes, -⟩
    · rw [hdone] at hdone'
      cases hdone'
      rfl
    · rw [Goes, hdone] at hgoes
      cases hgoes
  | head hgoes _ ih =>
    obtain ⟨last', hsteps', hdone'⟩ := h'
    rcases hsteps'.cases_head with rfl | ⟨next, hgoes', hrest⟩
    · rw [Goes, hdone'] at hgoes
      cases hgoes
    · rw [Goes, hgoes] at hgoes'
      cases hgoes'
      exact ih ⟨last', hrest, hdone'⟩

end Decoder

end KernelCalls.Mangling
