import KernelCalls.Proofs.Mangling.Stepwise

namespace KernelCalls.Mangling

/-!
# The states of a decoder

What a step can do is said once, by `Decoder.Turn`.  Everything that holds at every point of a run
follows from it by cases, for symbols that are refused as for those that are read.

* `Legal` : the shapes that a decoder builds.
* `Decoder.Turn` : what a step can do.
* `Decoder.Sound` : what holds of every state, `Decoder.Kept` : what no step takes back.
* `Decoder.Idle` : nothing was passed since a position.
* `Decoder.orderly` : all of it for the run of `decode`.
-/

/-! ### Shapes -/

/-- The shapes that a decoder builds: handles whose name is an identifier, the scalars, and vectors
    of numbers with lanes that the widths allow. -/
inductive Legal (widths : List Int) : TypeInfo → Prop
  | handle {name : Text} (isIdentifier : isIdentifier name = true) : Legal widths (.handle name)
  | scalar (s : Scalar) : Legal widths s.type
  | vector {s : Scalar} {lanes : Nat} (isNumeric : s.kind.isNumeric = true) (pos : 0 < lanes)
      (allowed : (lanes : Int) ∈ widths) : Legal widths { s.type with width := lanes }

/-- Identifiers are not empty. -/
theorem ne_nil_of_isIdentifier {name : Text} (h : isIdentifier name = true) : name ≠ [] := by
  rintro rfl
  cases h

/-- The shapes that a decoder builds are well formed. -/
theorem Legal.wellFormed {widths : List Int} {t : TypeInfo} (h : Legal widths t) :
    t.WellFormed := by
  cases h with
  | handle isIdentifier => exact TypeInfo.handle_wellFormed (ne_nil_of_isIdentifier isIdentifier)
  | scalar s => exact s.type_wellFormed
  | @vector s _ isNumeric => exact TypeInfo.withWidth_wellFormed s.type_wellFormed isNumeric _

/-- The shapes that a decoder builds pass their check. -/
theorem Legal.check {widths : List Int} {t : TypeInfo} (h : Legal widths t) : t.check = .ok t :=
  TypeInfo.check_eq_ok_iff.mpr ⟨rfl, h.wellFormed⟩

/-- A legal shape may join a list of them. -/
theorem legal_append {widths : List Int} {ts : List TypeInfo} {t : TypeInfo}
    (hts : ∀ u ∈ ts, Legal widths u) (ht : Legal widths t) : ∀ u ∈ ts ++ [t], Legal widths u :=
  List.forall_mem_append.mpr ⟨hts, List.forall_mem_singleton.mpr ht⟩

/-- A constructor that waits has lanes that the widths allow, if it is a vector. -/
def Layer.Allowed (widths : List Int) : Layer → Prop
  | .vector lanes => (lanes : Int) ∈ widths
  | _ => True

/-- A constructor makes a legal shape of a legal one or refuses it. -/
theorem Legal.apply {widths : List Int} {t : TypeInfo} (ht : Legal widths t) {layer : Layer}
    (hlayer : layer.Allowed widths) (rest : Text) :
    (∃ t', layer.apply t rest = .ok t' ∧ Legal widths t') ∨
      ∃ reason, layer.apply t rest = .error (.refused reason rest) := by
  cases layer with
  | pointer => exact .inl ⟨t, rfl, ht⟩
  | qualified => exact .inl ⟨t, rfl, ht⟩
  | vector lanes =>
    -- a vector of vectors is refused, and so is a vector of anything but numbers
    by_cases hvector : t.isVector = true
    · exact .inr ⟨.vectorOfVector, by rw [Layer.apply, if_pos hvector]⟩
    by_cases hnumeric : t.kind.isNumeric = true
    · refine .inl ⟨{ t with width := lanes }, ?_, ?_⟩
      · rw [Layer.apply, if_neg hvector, if_pos hnumeric,
          TypeInfo.withWidth_eq_ok ht.wellFormed hnumeric]
      · cases ht with
        | handle => cases hnumeric
        | vector _ pos => exact absurd (decide_eq_true (Int.natCast_pos.mpr pos)) hvector
        | scalar s =>
          -- no lanes are the scalar itself
          rcases Nat.eq_zero_or_pos lanes with rfl | hpos
          · exact .scalar s
          · exact .vector hnumeric hpos hlayer
    · exact .inr ⟨.vectorOf t, by rw [Layer.apply, if_neg hvector, if_neg hnumeric]⟩

/-- What a constructor makes of a legal shape is legal. -/
theorem Legal.of_apply {widths : List Int} {t t' : TypeInfo} (ht : Legal widths t) {layer : Layer}
    (hlayer : layer.Allowed widths) {rest : Text} (h : layer.apply t rest = .ok t') :
    Legal widths t' := by
  rcases ht.apply hlayer rest with ⟨t'', h', ht''⟩ | ⟨reason, h'⟩
  · rw [h] at h'
    cases h'
    exact ht''
  · rw [h] at h'
    cases h'

/-- What holds of a stage at a position. -/
def Stage.Fits (widths : List Int) (position : Nat) : Stage → Prop
  | .symbol => position = 0
  | .digits _ start => start ≤ position
  | .named _ name => isIdentifier name = true
  | .operand t => Legal widths t
  | _ => True

/-- Nothing can have been passed at a stage since the position at which it was entered. -/
def Stage.Idle (symbol : Text) (position : Nat) : Stage → Prop
  | .param | .layer | .terminal => True
  | .digits _ start => start = position
  | .vendor => ∃ c, (symbol.drop position).head? = some c ∧ (c = 'U' ∨ isQualifier c = true)
  | .flags left => ∃ c ∈ left, (symbol.drop position).head? = some c
  | _ => False

namespace Decoder

variable {symbol : Text} {widths : List Int} {d d' : Decoder}

/-! ### Turns -/

section

variable (symbol : Text) (widths : List Int)

/-- What is left of the symbol begins with a character. -/
def Sees (d : Decoder) (c : CodePoint) : Prop := (symbol.drop d.position).head? = some c

/-- What a step can do. -/
inductive Turn (d : Decoder) : Decoder → Prop
  | mangled {rest : Text} (hstage : d.stage = .symbol)
      (hsymbol : symbol = .char '_' :: .char 'Z' :: rest) :
      Turn d { d with stage := .count (.length .base) .notPlainName, position := 2 }
  | count {use : NumberUse} {otherwise : Reason} (hstage : d.stage = .count use otherwise) :
      Turn d { d with stage := .digits use d.position }
  | digit {use : NumberUse} {start : Nat} {c : CodePoint} (hstage : d.stage = .digits use start)
      (hsees : d.Sees symbol c) :
      Turn d { d with stage := .digits use start, position := d.position + 1 }
  | number {use : NumberUse} {start n : Nat} (hstage : d.stage = .digits use start)
      (hlt : start < d.position) : Turn d { d with stage := .number use n }
  | name {use : NameUse} {n : Nat} {name : Text} (hstage : d.stage = .number (.length use) n)
      (pos : 0 < n) (le : d.position + n ≤ symbol.length) (hname : isIdentifier name = true) :
      Turn d { d with stage := .named use name, position := d.position + n }
  | lanes {n : Nat} {c : CodePoint} (hstage : d.stage = .number .lanes n)
      (allowed : (n : Int) ∈ widths) (hsees : d.Sees symbol c) :
      Turn d { d with
        stage := .layer, position := d.position + 1, stack := .vector n :: d.stack }
  | base {name : Text} (hstage : d.stage = .named .base name) :
      Turn d { d with stage := .param, name }
  | vendorName {name : Text} (hstage : d.stage = .named .vendor name) :
      Turn d { d with stage := .vendor }
  | handle {name : Text} (hstage : d.stage = .named .handle name) :
      Turn d { d with
        stage := .operand (.handle name), table := d.table ++ [.handle name] }
  | param (hstage : d.stage = .param) : Turn d { d with stage := .layer }
  | pointer {c : CodePoint} (hstage : d.stage = .layer) (hsees : d.Sees symbol c) :
      Turn d { d with position := d.position + 1, stack := .pointer :: d.stack }
  | qualifiers {c : CodePoint} (hstage : d.stage = .layer) (hsees : d.Sees symbol c)
      (hc : c = 'U' ∨ isQualifier c = true) : Turn d { d with stage := .vendor }
  | vector (hstage : d.stage = .layer) (le : d.position + 2 ≤ symbol.length) :
      Turn d { d with stage := .count .lanes .dependentVectorSize, position := d.position + 2 }
  | leaf (hstage : d.stage = .layer) : Turn d { d with stage := .terminal }
  | vendor {c : CodePoint} (hstage : d.stage = .vendor) (hsees : d.Sees symbol c) :
      Turn d { d with
        stage := .count (.length .vendor) .expectedQualifierName, position := d.position + 1 }
  | flags (hstage : d.stage = .vendor) (hsees : ¬ d.Sees symbol 'U') :
      Turn d { d with stage := .flags ['r', 'V', 'K'] }
  | flag {c : CodePoint} {left : List CodePoint} (hstage : d.stage = .flags (c :: left))
      (hsees : d.Sees symbol c) :
      Turn d { d with stage := .flags left, position := d.position + 1 }
  | noFlag {c : CodePoint} {left : List CodePoint} (hstage : d.stage = .flags (c :: left))
      (hsees : ¬ d.Sees symbol c) : Turn d { d with stage := .flags left }
  | qualified (hstage : d.stage = .flags []) :
      Turn d { d with stage := .layer, stack := .qualified :: d.stack }
  | half (hstage : d.stage = .terminal) (le : d.position + 2 ≤ symbol.length) :
      Turn d { d with stage := .operand Scalar.half.type, position := d.position + 2 }
  | scalar {s : Scalar} {c : CodePoint} (hstage : d.stage = .terminal) (hsees : d.Sees symbol c) :
      Turn d { d with stage := .operand s.type, position := d.position + 1 }
  | handleCount (hstage : d.stage = .terminal) :
      Turn d { d with stage := .digits (.length .handle) d.position }
  | back {c : CodePoint} (hstage : d.stage = .terminal) (hsees : d.Sees symbol c) :
      Turn d { d with stage := .sequence, position := d.position + 1 }
  | sequence {sequence : Text} (hstage : d.stage = .sequence)
      (hfront : sequence <+: symbol.drop d.position) :
      Turn d { d with
        stage := .underscore sequence, position := d.position + sequence.length }
  | underscore {sequence : Text} {c : CodePoint} (hstage : d.stage = .underscore sequence)
      (hsees : d.Sees symbol c) :
      Turn d { d with stage := .reference sequence, position := d.position + 1 }
  | reference {sequence : Text} {index : Nat} {t : TypeInfo}
      (hstage : d.stage = .reference sequence) (hindex : referenceIndex sequence = .ok index)
      (hentry : d.table[index]? = some t) : Turn d { d with stage := .operand t }
  | finished {t : TypeInfo} (hstage : d.stage = .operand t) (hstack : d.stack = []) :
      Turn d { d with stage := .param, params := d.params ++ [t] }
  | applied {t t' : TypeInfo} {layer : Layer} {stack : List Layer} (hstage : d.stage = .operand t)
      (hstack : d.stack = layer :: stack)
      (happly : layer.apply t (symbol.drop d.position) = .ok t') :
      Turn d { d with stage := .operand t', table := d.table ++ [t'], stack }

end

/-- What the decoder sees, it can pass. -/
theorem Sees.lt {c : CodePoint} (h : d.Sees symbol c) : d.position < symbol.length := by
  by_contra hle
  rw [Sees, List.drop_eq_nil_of_le (Nat.le_of_not_lt hle)] at h
  cases h

/-- Two characters that the decoder sees, it can pass. -/
theorem two_le_of_drop_eq {position : Nat} {c : CodePoint} {cs : Text} {b : CodePoint}
    (h : symbol.drop position = c :: cs) (hcs : cs.head? = some b) :
    position + 2 ≤ symbol.length := by
  obtain ⟨tail, rfl⟩ := List.head?_eq_some_iff.mp hcs
  have hlength := congrArg List.length h
  rw [List.length_drop, List.length_cons, List.length_cons] at hlength
  omega

/-! ### Sound states -/

/-- What holds of every state: the position is in the symbol, and all shapes are legal. -/
structure Sound (symbol : Text) (widths : List Int) (d : Decoder) : Prop where
  le : d.position ≤ symbol.length
  stage : d.stage.Fits widths d.position
  table : ∀ t ∈ d.table, Legal widths t
  params : ∀ t ∈ d.params, Legal widths t
  stack : ∀ layer ∈ d.stack, layer.Allowed widths

/-- How the symbol may end: it is read with legal parameters, it is refused with the symbol itself
    and a position in it, or one of its numbers is too long. -/
inductive Proper (symbol : Text) (widths : List Int) : Except Error Decoded → Prop
  | read {decoded : Decoded} (params : ∀ t ∈ decoded.params, Legal widths t) :
      Proper symbol widths (.ok decoded)
  | refused {reason : Reason} {position : Nat} (le : position ≤ symbol.length) :
      Proper symbol widths (.error (.failed ⟨symbol, reason, position⟩))
  | number (e : Text.NumberError) : Proper symbol widths (.error (.fault (.number e)))

/-- What a step of a sound decoder leads to: what one of the turns does, or a proper end. -/
inductive Next.After (symbol : Text) (widths : List Int) (d : Decoder) : Next → Prop
  | turn {d' : Decoder} (h : Turn symbol widths d d') : After symbol widths d (.to d')
  | ended {result : Except Error Decoded} (h : Proper symbol widths result) :
      After symbol widths d (.done result)

/-- In front of the symbol nothing has been made, so the state is sound. -/
theorem sound_start : Sound symbol widths start where
  le := Nat.zero_le _
  stage := rfl
  table := by simp [start]
  params := by simp [start]
  stack := by simp [start]

/-- The decoder may refuse the symbol wherever it stands. -/
theorem Sound.refuse (h : Sound symbol widths d) (reason : Reason) :
    (d.refuse symbol reason).After symbol widths d :=
  .ended (.refused h.le)

/-- In front of a type the first character decides the turn; the symbol is not refused there. -/
theorem after_stepLayer (hstage : d.stage = .layer) :
    (d.stepLayer (symbol.drop d.position)).After symbol widths d := by
  cases hrest : symbol.drop d.position with
  | nil => exact .turn (.leaf hstage)
  | cons c cs =>
    have hsees : d.Sees symbol c := by rw [Sees, hrest, List.head?_cons]
    -- the tests of the step, in its order: a pointer, qualifiers, a vector, or a type
    rw [stepLayer]
    split_ifs with hP hQ hD
    · exact .turn (.pointer hstage hsees)
    · exact .turn (.qualifiers hstage hsees hQ)
    · exact .turn (.vector hstage (two_le_of_drop_eq hrest hD.2))
    · exact .turn (.leaf hstage)

/-- In front of a type without constructors, what the decoder sees is a code, a digit or an `S`, or
    it is refused. -/
theorem Sound.stepTerminal (h : Sound symbol widths d) (hstage : d.stage = .terminal) :
    (d.stepTerminal symbol (symbol.drop d.position)).After symbol widths d := by
  -- the cases are the tests of the step, in its order; at the end of the symbol it is refused
  cases hrest : symbol.drop d.position with
  | nil => exact h.refuse _
  | cons c cs =>
    have hsees : d.Sees symbol c := by rw [Sees, hrest, List.head?_cons]
    rw [Decoder.stepTerminal]
    -- `Dh` is the only code of two characters
    by_cases hD : c = 'D' ∧ cs.head? = some (.char 'h')
    · rw [if_pos hD]
      exact .turn (.half hstage (two_le_of_drop_eq hrest hD.2))
    rw [if_neg hD]
    -- any other code has one; without a code a digit begins a name and an `S` a back-reference
    cases builtinCode? c with
    | some s => exact .turn (.scalar hstage hsees)
    | none =>
      dsimp only
      split_ifs
      · exact .turn (.handleCount hstage)
      · exact .turn (.back hstage hsees)
      · exact h.refuse _

/-- Digits that were passed begin before the position. -/
theorem Sound.stepDigits (h : Sound symbol widths d) {use : NumberUse} {start : Nat}
    (hstage : d.stage = .digits use start) :
    (d.stepDigits symbol use start ((symbol.drop start).take (d.position - start))).After
      symbol widths d := by
  have hfits := h.stage
  rw [hstage] at hfits
  rw [Decoder.stepDigits]
  -- a leading zero is reported at the beginning of the number, which the decoder has passed
  split_ifs with hempty hzero
  · exact h.refuse _
  · exact .ended (.refused (Nat.le_trans hfits h.le))
  · cases Text.ofDigits 10 ((symbol.drop start).take (d.position - start)) with
    | error e => exact .ended (.number e)
    | ok n =>
      -- there are digits only if the position is behind their beginning
      refine .turn (.number hstage ?_)
      by_contra hle
      rw [Nat.sub_eq_zero_of_le (Nat.le_of_not_lt hle)] at hempty
      exact hempty rfl

/-- Behind a number, a name of that length is in the symbol or the symbol is refused, and lanes are
    allowed or refused. -/
theorem Sound.stepNumber (h : Sound symbol widths d) {use : NumberUse} {n : Nat}
    (hstage : d.stage = .number use n) :
    (d.stepNumber symbol widths n use).After symbol widths d := by
  cases use with
  | length use =>
    rw [Decoder.stepNumber]
    dsimp only
    -- the name must not be empty, must fit into the symbol and must be an identifier
    split_ifs with hlong hname
    · exact h.refuse _
    · exact .turn (.name hstage (by omega) (by omega) hname)
    · exact h.refuse _
  | lanes =>
    rw [Decoder.stepNumber]
    split_ifs with hallowed hsees
    · exact .turn (.lanes hstage hallowed hsees)
    · exact h.refuse _
    · exact h.refuse _

/-- A counted name is a handle: the shape exists, since the name is an identifier. -/
theorem Sound.stepNamed (h : Sound symbol widths d) {use : NameUse} {name : Text}
    (hstage : d.stage = .named use name) :
    (d.stepNamed symbol name use).After symbol widths d := by
  have hname := h.stage
  rw [hstage] at hname
  -- a base name may end the symbol; a vendor qualifier must not have template arguments
  cases use with
  | base =>
    rw [Decoder.stepNamed]
    split_ifs
    · exact .ended (.read (by simp))
    · exact .turn (.base hstage)
  | vendor =>
    rw [Decoder.stepNamed]
    split_ifs
    · exact h.refuse _
    · exact .turn (.vendorName hstage)
  | handle =>
    have hlegal : Legal widths (.handle name) := .handle hname
    rw [Decoder.stepNamed, hlegal.check]
    exact .turn (.handle hstage)

/-- Behind a back-reference the entry is in the table, or the symbol is refused with the place. -/
theorem Sound.stepReference (h : Sound symbol widths d) {sequence : Text}
    (hstage : d.stage = .reference sequence) :
    (d.stepReference symbol sequence).After symbol widths d := by
  unfold Decoder.stepReference
  -- the number is read, looked for in the table, and written again only if it is not found
  cases hindex : referenceIndex sequence with
  | error e => exact .ended (.number e)
  | ok index =>
    dsimp only
    split_ifs with hlt
    · exact .turn (.reference hstage hindex (List.getElem?_eq_getElem hlt))
    · cases Text.writeNat index with
      | error e => exact .ended (.number e)
      | ok text => exact h.refuse _

/-- Behind a type the last constructor that waits makes a legal shape of it or is refused. -/
theorem Sound.stepOperand (h : Sound symbol widths d) {t : TypeInfo}
    (hstage : d.stage = .operand t) :
    (d.stepOperand symbol t).After symbol widths d := by
  have ht := h.stage
  rw [hstage] at ht
  unfold Decoder.stepOperand
  -- without a constructor that waits the type is a parameter
  split
  · next hstack => exact .turn (.finished hstage hstack)
  · next layer stack hstack =>
    have hlayer : layer.Allowed widths := h.stack _ (by rw [hstack]; exact List.mem_cons_self)
    rcases Legal.apply ht hlayer (symbol.drop d.position) with ⟨t', happly, -⟩ | ⟨reason, happly⟩
    · rw [happly]
      exact .turn (.applied hstage hstack happly)
    · rw [happly]
      exact h.refuse _

/-- Every step of a sound decoder is one of the turns or a proper end. -/
theorem Sound.step (h : Sound symbol widths d) :
    (d.step symbol widths).After symbol widths d := by
  unfold Decoder.step
  -- one case for each stage; those with a function of their own have a lemma
  cases hstage : d.stage with
  | symbol =>
    dsimp only
    split
    · exact .turn (.mangled hstage rfl)
    · split_ifs
      · exact .ended (.read (by simp))
      · exact h.refuse _
  | count use otherwise =>
    dsimp only
    split_ifs
    · exact .turn (.count hstage)
    · exact h.refuse _
  | digits use start =>
    dsimp only
    split_ifs with hdigit
    · obtain ⟨c, hc, -⟩ := (Option.any_eq_true _ _).mp hdigit
      exact .turn (.digit hstage hc)
    · exact h.stepDigits hstage
  | number use n => exact h.stepNumber hstage
  | named use name => exact h.stepNamed hstage
  | param =>
    dsimp only
    split
    · exact .ended (.read h.params)
    · split_ifs
      · exact h.refuse _
      · exact .turn (.param hstage)
  | layer => exact after_stepLayer hstage
  | vendor =>
    dsimp only
    split_ifs with hsees
    · exact .turn (.vendor hstage hsees)
    · exact .turn (.flags hstage hsees)
  | flags left =>
    cases left with
    | nil => exact .turn (.qualified hstage)
    | cons c left =>
      dsimp only
      split_ifs with hsees
      · exact .turn (.flag hstage hsees)
      · exact .turn (.noFlag hstage hsees)
  | terminal => exact h.stepTerminal hstage
  | sequence => exact .turn (.sequence hstage (List.takeWhile_prefix _))
  | underscore sequence =>
    dsimp only
    split_ifs with hsees
    · exact .turn (.underscore hstage hsees)
    · exact h.refuse _
  | reference sequence => exact h.stepReference hstage
  | operand t => exact h.stepOperand hstage

/-- A step between two states of a sound decoder is one of the turns. -/
theorem Sound.turn_of_goes (h : Sound symbol widths d) (hgoes : Goes symbol widths d d') :
    Turn symbol widths d d' := by
  have hafter := h.step
  rw [hgoes] at hafter
  cases hafter with
  | turn hturn => exact hturn

/-- A sound decoder comes to a proper end. -/
theorem Sound.proper (h : Sound symbol widths d) {result : Except Error Decoded}
    (hdone : d.step symbol widths = .done result) : Proper symbol widths result := by
  have hafter := h.step
  rw [hdone] at hafter
  cases hafter with
  | ended hproper => exact hproper

/-! ### What a turn keeps -/

/-- A state stays sound at another stage and position, as long as these fit. -/
theorem Sound.move (h : Sound symbol widths d) {stage : Stage} {position : Nat}
    (hle : position ≤ symbol.length) (hfits : stage.Fits widths position) :
    Sound symbol widths { d with stage, position } :=
  ⟨hle, hfits, h.table, h.params, h.stack⟩

/-- A constructor with allowed lanes may wait. -/
theorem Sound.push (h : Sound symbol widths d) {layer : Layer} (hlayer : layer.Allowed widths) :
    Sound symbol widths { d with stage := .layer, stack := layer :: d.stack } :=
  ⟨h.le, trivial, h.table, h.params, List.forall_mem_cons.mpr ⟨hlayer, h.stack⟩⟩

/-- A legal shape may join the table. -/
theorem Sound.join (h : Sound symbol widths d) {t : TypeInfo} (ht : Legal widths t) :
    Sound symbol widths { d with stage := .operand t, table := d.table ++ [t] } :=
  ⟨h.le, ht, legal_append h.table ht, h.params, h.stack⟩

/-- A turn keeps a state sound. -/
theorem Turn.sound (ht : Turn symbol widths d d') (h : Sound symbol widths d) :
    Sound symbol widths d' := by
  have hfits := h.stage
  -- most turns only move; the others push a constructor or make a shape
  cases ht with
  | mangled hstage hsymbol =>
    exact h.move (by rw [hsymbol]; simp) trivial
  | count hstage => exact h.move h.le (Nat.le_refl _)
  | digit hstage hsees =>
    rw [hstage] at hfits
    exact h.move hsees.lt (Nat.le_succ_of_le hfits)
  | number hstage hlt => exact h.move h.le trivial
  | name hstage pos le hname => exact h.move le hname
  | lanes hstage allowed hsees =>
    -- first past the underscore, then the vector waits
    have hbehind : Sound symbol widths { d with stage := .layer, position := d.position + 1 } :=
      h.move hsees.lt trivial
    exact hbehind.push allowed
  | base hstage => exact ⟨h.le, trivial, h.table, h.params, h.stack⟩
  | vendorName hstage => exact h.move h.le trivial
  | handle hstage =>
    rw [hstage] at hfits
    exact h.join (.handle hfits)
  | param hstage => exact h.move h.le trivial
  | pointer hstage hsees =>
    -- the stage is still that in front of a type
    refine ⟨hsees.lt, ?_, h.table, h.params, List.forall_mem_cons.mpr ⟨trivial, h.stack⟩⟩
    show d.stage.Fits widths (d.position + 1)
    rw [hstage]
    trivial
  | qualifiers hstage hsees hc => exact h.move h.le trivial
  | vector hstage le => exact h.move le trivial
  | leaf hstage => exact h.move h.le trivial
  | vendor hstage hsees => exact h.move hsees.lt trivial
  | flags hstage hsees => exact h.move h.le trivial
  | flag hstage hsees => exact h.move hsees.lt trivial
  | noFlag hstage hsees => exact h.move h.le trivial
  | qualified hstage => exact h.push trivial
  | half hstage le => exact h.move le (.scalar _)
  | scalar hstage hsees => exact h.move hsees.lt (.scalar _)
  | handleCount hstage => exact h.move h.le (Nat.le_refl _)
  | back hstage hsees => exact h.move hsees.lt trivial
  | sequence hstage hfront =>
    have hle := hfront.length_le
    rw [List.length_drop] at hle
    have := h.le
    exact h.move (by omega) trivial
  | underscore hstage hsees => exact h.move hsees.lt trivial
  | reference hstage hindex hentry =>
    exact h.move h.le (h.table _ (List.mem_of_getElem? hentry))
  | finished hstage hstack =>
    rw [hstage] at hfits
    exact ⟨h.le, trivial, h.table, legal_append h.params hfits, h.stack⟩
  | applied hstage hstack happly =>
    rw [hstage] at hfits
    have hstack' := h.stack
    rw [hstack] at hstack'
    -- the constructor is taken from the stack, and what it makes joins the table
    obtain ⟨hlayer, hstack'⟩ := List.forall_mem_cons.mp hstack'
    have ht := Legal.of_apply hfits hlayer happly
    exact ⟨h.le, ht, legal_append h.table ht, h.params, hstack'⟩

/-- What no step takes back: positions grow, and what was entered in the table and the parameters
    stays. -/
structure Kept (d d' : Decoder) : Prop where
  position : d.position ≤ d'.position
  table : d.table <+: d'.table
  params : d.params <+: d'.params

/-- A state keeps what it has. -/
theorem Kept.refl (d : Decoder) : Kept d d := ⟨Nat.le_refl _, List.prefix_rfl, List.prefix_rfl⟩

/-- What is kept on the way is kept. -/
theorem Kept.trans {d'' : Decoder} (h : Kept d d') (h' : Kept d' d'') : Kept d d'' :=
  ⟨h.position.trans h'.position, h.table.trans h'.table, h.params.trans h'.params⟩

/-- A turn takes nothing back. -/
theorem Turn.kept (ht : Turn symbol widths d d') (h : Sound symbol widths d) : Kept d d' := by
  -- only three turns change the table or the parameters, and these add to them
  cases ht with
  | mangled hstage hsymbol =>
    have hfits := h.stage
    rw [hstage] at hfits
    exact ⟨Nat.le_trans (Nat.le_of_eq hfits) (Nat.zero_le _), List.prefix_rfl, List.prefix_rfl⟩
  | handle => exact ⟨Nat.le_refl _, List.prefix_append _ _, List.prefix_rfl⟩
  | applied => exact ⟨Nat.le_refl _, List.prefix_append _ _, List.prefix_rfl⟩
  | finished => exact ⟨Nat.le_refl _, List.prefix_rfl, List.prefix_append _ _⟩
  | _ => exact ⟨by dsimp only; omega, List.prefix_rfl, List.prefix_rfl⟩

/-! ### What must be passed -/

/-- Since a state nothing was passed and nothing was made of it. -/
structure Idle (symbol : Text) (origin d : Decoder) : Prop where
  position : d.position = origin.position
  stage : d.stage.Idle symbol d.position
  stack : d.stack = origin.stack
  params : d.params = origin.params

/-- At first nothing has been passed. -/
theorem idle_self (h : d.stage.Idle symbol d.position) : Idle symbol d d := ⟨rfl, h, rfl, rfl⟩

/-- A turn passes something or leaves everything as it is. -/
theorem Turn.idle {origin : Decoder} (ht : Turn symbol widths d d') (h : Idle symbol origin d) :
    origin.position < d'.position ∨ Idle symbol origin d' := by
  have hstage' := h.stage
  have hposition := h.position
  -- a turn passes a character, or goes on to a stage at which nothing has been passed either
  cases ht with
  | digit => exact .inl (by dsimp only; omega)
  | pointer => exact .inl (by dsimp only; omega)
  | vector => exact .inl (by dsimp only; omega)
  | vendor => exact .inl (by dsimp only; omega)
  | flag => exact .inl (by dsimp only; omega)
  | half => exact .inl (by dsimp only; omega)
  | scalar => exact .inl (by dsimp only; omega)
  | back => exact .inl (by dsimp only; omega)
  | number hstage hlt =>
    -- a number has a digit, and an idle decoder has passed none
    rw [hstage] at hstage'
    exact absurd hstage' (Nat.ne_of_lt hlt)
  | param hstage => exact .inr ⟨h.position, trivial, h.stack, h.params⟩
  | leaf hstage => exact .inr ⟨h.position, trivial, h.stack, h.params⟩
  | handleCount hstage => exact .inr ⟨h.position, rfl, h.stack, h.params⟩
  | qualifiers hstage hsees hc => exact .inr ⟨h.position, ⟨_, hsees, hc⟩, h.stack, h.params⟩
  | flags hstage hsees =>
    rw [hstage] at hstage'
    -- what is seen and is no `U` is one of the qualifiers that may come
    obtain ⟨c, hc, hU | hqualifier⟩ := hstage'
    · exact absurd (hU ▸ hc) hsees
    · refine .inr ⟨h.position, ⟨c, ?_, hc⟩, h.stack, h.params⟩
      simp only [isQualifier, Bool.or_eq_true, beq_iff_eq] at hqualifier
      simp only [List.mem_cons, List.not_mem_nil, or_false]
      tauto
  | noFlag hstage hsees =>
    rw [hstage] at hstage'
    obtain ⟨c, hmem, hc⟩ := hstage'
    refine .inr ⟨h.position, ⟨c, ?_, hc⟩, h.stack, h.params⟩
    rcases List.mem_cons.mp hmem with rfl | hleft
    · exact absurd hc hsees
    · exact hleft
  | qualified hstage =>
    rw [hstage] at hstage'
    -- the qualifier that is seen would have been passed before
    obtain ⟨c, hmem, -⟩ := hstage'
    cases hmem
  | _ =>
    -- at any other stage something has been passed already
    rw [‹d.stage = _›] at hstage'
    exact hstage'.elim

/-! ### Runs -/

/-- A run keeps a state sound and takes nothing back. -/
theorem Sound.steps (h : Sound symbol widths d) (hsteps : Steps symbol widths d d') :
    Sound symbol widths d' ∧ Kept d d' := by
  -- induction along the run, with soundness as the invariant that the next turn needs
  induction hsteps with
  | refl => exact ⟨h, Kept.refl d⟩
  | tail _ hgoes ih =>
    have hturn := ih.1.turn_of_goes hgoes
    exact ⟨hturn.sound ih.1, ih.2.trans (hturn.kept ih.1)⟩

/-- As long as nothing is passed, nothing is made. -/
theorem Idle.steps (hidle : Idle symbol d d) (h : Sound symbol widths d)
    (hsteps : Steps symbol widths d d') : d.position < d'.position ∨ Idle symbol d d' := by
  -- induction along the run; once something is passed, positions never go back
  induction hsteps with
  | refl => exact .inr hidle
  | tail hsteps hgoes ih =>
    have hsound := (h.steps hsteps).1
    have hturn := hsound.turn_of_goes hgoes
    rcases ih with hlt | hidle
    · exact .inl (Nat.lt_of_lt_of_le hlt (hturn.kept hsound).position)
    · exact hturn.idle hidle

/-- A constructor that waits since the decoder stood in front of a type was passed. -/
theorem Sound.lt_of_stack (h : Sound symbol widths d) (hstage : d.stage = .layer)
    (hsteps : Steps symbol widths d d') (hstack : d'.stack ≠ d.stack) :
    d.position < d'.position :=
  ((idle_self (by rw [hstage]; trivial)).steps h hsteps).resolve_right
    fun hidle => hstack hidle.stack

/-- A type that was read since the decoder stood in front of it was passed. -/
theorem Sound.lt_of_operand (h : Sound symbol widths d) (hstage : d.stage = .terminal)
    (hsteps : Steps symbol widths d d') {t : TypeInfo} (hoperand : d'.stage = .operand t) :
    d.position < d'.position := by
  have hidle : Idle symbol d d := idle_self (by rw [hstage]; trivial)
  refine (hidle.steps h hsteps).resolve_right fun hidle => ?_
  have hstage' := hidle.stage
  rw [hoperand] at hstage'
  exact hstage'

/-- A parameter that was read since the decoder stood in front of it was passed. -/
theorem Sound.lt_of_params (h : Sound symbol widths d) (hstage : d.stage = .param)
    (hsteps : Steps symbol widths d d') (hparams : d'.params ≠ d.params) :
    d.position < d'.position :=
  ((idle_self (by rw [hstage]; trivial)).steps h hsteps).resolve_right
    fun hidle => hparams hidle.params

/-- A back-reference finds the entry of the table that it names. -/
theorem exists_entry {sequence : Text} (hstage : d.stage = .reference sequence)
    (hgoes : Goes symbol widths d d') :
    ∃ index t, referenceIndex sequence = .ok index ∧ d.table[index]? = some t ∧
      d' = { d with stage := .operand t } := by
  have hstep : d.stepReference symbol sequence = .to d' := by
    rw [← hgoes]
    simp only [step, hstage]
  -- of the ends of the step only one leads to another state
  unfold Decoder.stepReference at hstep
  split at hstep
  · cases hstep
  · next index hindex =>
    split_ifs at hstep with hlt
    · cases hstep
      exact ⟨index, _, hindex, List.getElem?_eq_getElem hlt, rfl⟩
    · split at hstep <;> cases hstep

/-! ### The run of a symbol -/

/-- What holds at every point of the run on a symbol, and of its result. -/
structure Orderly (symbol : Text) (widths : List Int) : Prop where
  /-- The run is that of `decode`: it ends with what `decode` says, and with nothing else. -/
  ends_iff : ∀ result, Ends symbol widths start result ↔ result = decode symbol widths
  /-- A type is read from the position and with the table of the state, and leaves its own. -/
  types : ∀ d cs, d.stage = .layer → d.stack = [] → At symbol d.position cs →
    Leads symbol widths d (readType widths d.table cs) fun r position =>
      { d with
        stage := .param, position, table := r.2, stack := [], params := d.params ++ [r.1] }
  /-- The position is in the symbol, and the shapes are legal and pass their check. -/
  sound : ∀ d, Steps symbol widths start d → d.position ≤ symbol.length ∧
    ∀ t ∈ d.table ++ d.params, Legal widths t ∧ t.check = .ok t
  /-- The position does not go back, and what was entered stays. -/
  kept : ∀ d d', Steps symbol widths start d → Steps symbol widths d d' →
    d.position ≤ d'.position ∧ d.table <+: d'.table ∧ d.params <+: d'.params
  /-- A constructor that waits was passed. -/
  constructors : ∀ d d' layer, Steps symbol widths start d → Steps symbol widths d d' →
    d.stage = .layer → d'.stack = layer :: d.stack → d.position < d'.position
  /-- A type without constructors was passed. -/
  terminals : ∀ d d' t, Steps symbol widths start d → Steps symbol widths d d' →
    d.stage = .terminal → d'.stage = .operand t → d.position < d'.position
  /-- A parameter was passed. -/
  params : ∀ d d' t, Steps symbol widths start d → Steps symbol widths d d' →
    d.stage = .param → d'.params = d.params ++ [t] → d.position < d'.position
  /-- The table is looked into at places that it has. -/
  found : ∀ d d' sequence, Steps symbol widths start d → Goes symbol widths d d' →
    d.stage = .reference sequence → ∃ index t, referenceIndex sequence = .ok index ∧
      d.table[index]? = some t ∧ d' = { d with stage := .operand t }
  /-- The end is proper: no shape is refused, and a failure has the symbol and a position in it. -/
  proper : Proper symbol widths (decode symbol widths)

/-- **Every state is in order.** On every symbol, refused or not, the decoder stays in the symbol
    and moves on with all that it reads, its table only grows, and its shapes are legal. -/
theorem orderly (symbol : Text) (widths : List Int) : Orderly symbol widths where
  ends_iff result := by
    have hends := ends_decode symbol widths
    exact ⟨fun h => h.unique hends, fun h => h ▸ hends⟩
  types _ _ hstage hstack hat := leads_type hstage hstack hat
  sound d hsteps := by
    have hsound : Sound symbol widths d := (sound_start.steps hsteps).1
    -- tables and parameters hold legal shapes, and these pass their check
    refine ⟨hsound.le, fun t ht => ?_⟩
    have hlegal : Legal widths t := by
      rcases List.mem_append.mp ht with ht | ht
      · exact hsound.table t ht
      · exact hsound.params t ht
    exact ⟨hlegal, hlegal.check⟩
  kept d d' hsteps hlater := by
    have hkept := ((sound_start.steps hsteps).1.steps hlater).2
    exact ⟨hkept.position, hkept.table, hkept.params⟩
  constructors d d' layer hsteps hlater hstage hstack := by
    refine (sound_start.steps hsteps).1.lt_of_stack hstage hlater ?_
    rw [hstack]
    exact List.cons_ne_self _ _
  terminals d d' t hsteps hlater hstage hoperand :=
    (sound_start.steps hsteps).1.lt_of_operand hstage hlater hoperand
  params d d' t hsteps hlater hstage hparams := by
    refine (sound_start.steps hsteps).1.lt_of_params hstage hlater ?_
    rw [hparams]
    simp
  found d d' sequence _ hgoes hstage := exists_entry hstage hgoes
  proper := by
    obtain ⟨d, hsteps, hdone⟩ := ends_decode symbol widths
    exact (sound_start.steps hsteps).1.proper hdone

end Decoder

end KernelCalls.Mangling
