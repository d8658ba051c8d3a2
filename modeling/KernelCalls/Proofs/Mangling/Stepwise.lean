import KernelCalls.Proofs.Mangling.Complete
import KernelCalls.Proofs.Mangling.Decoder

namespace KernelCalls.Mangling

open Outcome

/-!
# Decoding step by step

The decoder that keeps its position does what the readers do.  Each reader has one statement: from
where it is called the steps lead to where the decoder stands behind what was read, or to the same
refusal at the same offset.  They are composed as the readers are.

* `Decoder.Leads` : the steps do what a reader does.
* `Decoder.leads_number`, … , `Decoder.leads_type` : one statement for each reader.
* `Decoder.ends_decode` : the steps from the start of a symbol end as `decode` does.
-/

namespace Decoder

variable {symbol : Text} {widths : List Int} {position : Nat} {rest : Text}

section

variable (symbol widths)

/-- From a state the decoder does what a reader does: it comes to where it stands behind what was
    read, or refuses the symbol as the reader does. -/
def Leads {α : Type} (d : Decoder) (reading : Reading α) (next : α → Nat → Decoder) : Prop :=
  match reading with
  | .ok (a, rest) => ∃ position, At symbol position rest ∧ Steps symbol widths d (next a position)
  | .error halt => Ends symbol widths d (.error (halt.toError symbol))

end

section Leads

variable {α β : Type} {d d' : Decoder} {reading : Reading α} {next : α → Nat → Decoder}

/-- The decoder may take steps before it does what the reader does. -/
theorem Leads.of_steps (hsteps : Steps symbol widths d d')
    (h : Leads symbol widths d' reading next) : Leads symbol widths d reading next := by
  cases reading with
  | error halt => exact Ends.of_steps hsteps h
  | ok r =>
    obtain ⟨position, hat, hrest⟩ := h
    exact ⟨position, hat, hsteps.trans hrest⟩

/-- The decoder may take one step before it does what the reader does. -/
theorem Leads.of_goes (hgoes : d.step symbol widths = .to d')
    (h : Leads symbol widths d' reading next) : Leads symbol widths d reading next :=
  h.of_steps (.single hgoes)

/-- What is read is passed in one step. -/
theorem leads_ok {a : α} (hat : At symbol position rest)
    (hgoes : d.step symbol widths = .to (next a position)) :
    Leads symbol widths d (.ok (a, rest)) next :=
  ⟨position, hat, .single hgoes⟩

/-- The symbol is refused where the decoder stands, which is where the reader stops. -/
theorem leads_refused {reason : Reason} (hat : At symbol d.position rest)
    (h : d.step symbol widths = d.refuse symbol reason) :
    Leads symbol widths d (.error (.refused reason rest)) next := by
  refine ⟨d, .refl, ?_⟩
  rw [h, hat.toError]
  rfl

/-- The decoder stops with the fault of the reader. -/
theorem leads_fault {f : Fault} (h : d.step symbol widths = stop f) :
    Leads symbol widths d (.error (.fault f)) next :=
  ⟨d, .refl, h⟩

/-- One reader after another. -/
theorem Leads.bind {f : α × Text → Reading β} {next' : β → Nat → Decoder}
    (h : Leads symbol widths d reading next)
    (hf : ∀ a rest position, reading = .ok (a, rest) → At symbol position rest →
      Leads symbol widths (next a position) (f (a, rest)) next') :
    Leads symbol widths d (reading.bind f) next' := by
  cases reading with
  | error halt => exact h
  | ok r =>
    obtain ⟨position, hat, hsteps⟩ := h
    exact (hf r.1 r.2 position rfl hat).of_steps hsteps

/-- What is made of the value shows in the state only. -/
theorem Leads.map {f : α → β} {next' : β → Nat → Decoder}
    (h : Leads symbol widths d reading fun a => next' (f a)) :
    Leads symbol widths d (reading.map fun r => (f r.1, r.2)) next' := by
  cases reading with
  | error halt => exact h
  | ok r => exact h

end Leads

/-! ### Numbers and names -/

section Names

variable {d : Decoder} {cs : Text}

/-- Digits are passed one by one. -/
theorem steps_digits {use : NumberUse} {start : Nat} (hstage : d.stage = .digits use start)
    {digits : Text} (hat : At symbol d.position (digits ++ rest))
    (hdigits : ∀ c ∈ digits, c.is Text.isDigit = true) :
    Steps symbol widths d { d with position := d.position + digits.length } := by
  induction digits generalizing d with
  | nil => exact .refl
  | cons c digits ih =>
    obtain ⟨hc, hdigits⟩ := List.forall_mem_cons.mp hdigits
    have hgoes : d.step symbol widths = .to { d with position := d.position + 1 } := by
      simp only [step, hstage, hat.drop_eq, List.cons_append, List.head?_cons, Option.any_some, hc,
        if_true]
    refine .head hgoes ?_
    have hrest := ih (d := { d with position := d.position + 1 }) hstage hat.cons hdigits
    rwa [Nat.add_assoc, Nat.add_comm 1] at hrest

/-- A number is read where its digits begin. -/
theorem leads_number {use : NumberUse} (hstage : d.stage = .digits use d.position)
    (hat : At symbol d.position cs) :
    Leads symbol widths d (readNumber cs) fun n position =>
      { d with stage := .number use n, position } := by
  obtain ⟨digits, rest, rfl, hdigits, hstop⟩ := Text.exists_run (·.is Text.isDigit) cs
  rw [readNumber_append hdigits hstop]
  -- behind the digits the decoder looks back at them
  have hbehind := hat.append
  have hnodigit : ¬ rest.head?.any (·.is Text.isDigit) = true := by
    rw [Option.any_eq_true]
    rintro ⟨c, hc, hdigit⟩
    rw [hstop c hc] at hdigit
    cases hdigit
  have htaken : (symbol.drop d.position).take (d.position + digits.length - d.position) =
      digits := by
    rw [Nat.add_sub_cancel_left, hat.drop_eq, List.take_left]
  have hstep : step symbol widths { d with position := d.position + digits.length } =
      stepDigits symbol { d with position := d.position + digits.length } use d.position
        digits := by
    simp only [step, hstage, hbehind.drop_eq, if_neg hnodigit, htaken]
  refine Leads.of_steps (steps_digits hstage hat hdigits) ?_
  rw [stepDigits] at hstep
  -- no digits, a leading zero, or a value: the decoder asks in the order of the reader
  split_ifs at hstep ⊢ with hempty hzero
  · rw [List.isEmpty_iff.mp hempty] at hstep hat ⊢
    exact leads_refused hat hstep
  · -- a leading zero is refused in front of the digits
    refine ⟨_, .refl, ?_⟩
    rw [hstep, hat.toError]
    rfl
  · cases hvalue : Text.ofDigits 10 digits with
    | ok n =>
      rw [hvalue] at hstep
      exact leads_ok hbehind hstep
    | error e =>
      rw [hvalue] at hstep
      exact leads_fault hstep

/-- Where a number must begin, the decoder passes on to its digits. -/
theorem step_count {use : NumberUse} {otherwise : Reason} (hstage : d.stage = .count use otherwise)
    (hat : At symbol d.position cs) (hdigit : cs.head?.any (·.is Text.isDigit) = true) :
    d.step symbol widths = .to { d with stage := .digits use d.position } := by
  simp only [step, hstage, hat.drop_eq, hdigit, if_true]

/-- Where a number must begin and does not, the symbol is refused. -/
theorem step_count_refused {use : NumberUse} {otherwise : Reason}
    (hstage : d.stage = .count use otherwise) (hat : At symbol d.position cs)
    (hdigit : ¬ cs.head?.any (·.is Text.isDigit) = true) :
    d.step symbol widths = d.refuse symbol otherwise := by
  simp only [step, hstage, hat.drop_eq, if_neg hdigit]

/-- A counted name is read where the digits of its length begin. -/
theorem leads_sourceName {use : NameUse} (hstage : d.stage = .digits (.length use) d.position)
    (hat : At symbol d.position cs) :
    Leads symbol widths d (readSourceName cs) fun name position =>
      { d with stage := .named use name, position } := by
  rw [readSourceName_eq]
  refine (leads_number hstage hat).bind fun n rest position _ hat => ?_
  have hlength := hat.length
  -- counting from the start of the symbol or from what is left is the same
  have hlong : (n = 0 ∨ symbol.length < position + n) ↔ (n = 0 ∨ rest.length < n) := by omega
  have hstep : step symbol widths { d with stage := .number (.length use) n, position } =
      stepNumber symbol widths { d with stage := .number (.length use) n, position } n
        (.length use) := rfl
  simp only [stepNumber, hlong, hat.drop_eq] at hstep
  dsimp only
  split_ifs at hstep ⊢ with hbad hid
  · exact leads_refused hat hstep
  · -- the name is passed at once
    have hle : n ≤ rest.length := by omega
    have htake : (rest.take n).length = n := List.length_take_of_le hle
    rw [← List.take_append_drop n rest] at hat
    have hbehind := hat.append
    rw [htake] at hbehind
    exact leads_ok hbehind hstep
  · exact leads_refused hat hstep

/-- A counted name is read where its length must begin. -/
theorem leads_counted {use : NameUse} {otherwise : Reason}
    (hstage : d.stage = .count (.length use) otherwise) (hat : At symbol d.position cs)
    (hdigit : cs.head?.any (·.is Text.isDigit) = true) :
    Leads symbol widths d (readSourceName cs) fun name position =>
      { d with stage := .named use name, position } :=
  Leads.of_goes (step_count hstage hat hdigit) (leads_sourceName (d := { d with
    stage := .digits (.length use) d.position }) rfl hat)

end Names

/-! ### Constructors -/

section Constructors

variable {d : Decoder} {cs : Text}

/-- Behind a `U` the decoder asks for a number. -/
theorem step_vendor {rest : Text} (hstage : d.stage = .vendor)
    (hat : At symbol d.position (.char 'U' :: rest)) :
    d.step symbol widths = .to { d with
      stage := .count (.length .vendor) .expectedQualifierName
      position := d.position + 1 } := by
  simp only [step, hstage, hat.drop_eq, List.head?_cons, if_true]

/-- A vendor qualifier is read as a counted name behind its `U`. -/
theorem leads_vendorName {rest : Text} (hstage : d.stage = .vendor)
    (hat : At symbol d.position (.char 'U' :: rest))
    (hdigit : rest.head?.any (·.is Text.isDigit) = true) :
    Leads symbol widths d (readSourceName rest) fun name position =>
      { d with stage := .named .vendor name, position } :=
  (leads_counted rfl hat.cons hdigit).of_goes (step_vendor hstage hat)

/-- Vendor qualifiers are read one by one, up to where other qualifiers may stand. -/
theorem leads_vendorQualifiers (hstage : d.stage = .vendor) (hat : At symbol d.position cs) :
    Leads symbol widths d ((readVendorQualifiers cs).map (Prod.mk ())) fun _ position =>
      { d with stage := .flags ['r', 'V', 'K'], position } := by
  -- induction on what is left, which every qualifier shortens
  induction hlength : cs.length using Nat.strong_induction_on generalizing d cs with
  | _ length ih =>
  subst hlength
  by_cases hU : cs.head? = some (.char 'U')
  · obtain ⟨rest, rfl⟩ := List.head?_eq_some_iff.mp hU
    by_cases hdigit : rest.head?.any (·.is Text.isDigit) = true
    · rw [readVendorQualifiers_cons hdigit, map_bind_eq]
      refine (leads_vendorName hstage hat hdigit).bind fun name rest' position hread hat => ?_
      have hstep : step symbol widths { d with stage := .named .vendor name, position } =
          stepNamed symbol { d with stage := .named .vendor name, position } name .vendor := rfl
      rw [stepNamed, hat.drop_eq] at hstep
      dsimp only
      split_ifs at hstep ⊢ with hI
      · exact leads_refused hat hstep
      · -- a name is gone from what is left, so the induction goes on behind it
        have hlt := length_lt_of_readSourceName hread
        exact Leads.of_goes hstep (ih _ (by rw [List.length_cons]; omega)
          (d := { d with stage := .vendor, position }) rfl hat rfl)
    · rw [readVendorQualifiers, if_neg hdigit]
      exact (leads_refused hat.cons (step_count_refused rfl hat.cons hdigit)).of_goes
        (step_vendor hstage hat)
  · rw [readVendorQualifiers_of_head_ne hU]
    refine leads_ok hat ?_
    simp only [step, hstage, hat.drop_eq, if_neg hU]

/-- The qualifiers of the language are passed, each at most once. -/
theorem exists_steps_flags {left : List CodePoint} (hstage : d.stage = .flags left)
    (hat : At symbol d.position cs) :
    ∃ position, At symbol position (left.foldl (fun rest c => dropChar c rest) cs) ∧
      Steps symbol widths d { d with stage := .flags [], position } := by
  -- induction on the flags that may still come: one is passed if it is there
  induction left generalizing d cs with
  | nil =>
    have hd : { d with stage := .flags [] } = d := by rw [← hstage]
    exact ⟨d.position, hat, by rw [show { d with stage := .flags [], position := d.position } = d
      from hd]⟩
  | cons c left ih =>
    by_cases hc : cs.head? = some c
    · obtain ⟨tail, rfl⟩ := List.head?_eq_some_iff.mp hc
      have hgoes : d.step symbol widths =
          .to { d with stage := .flags left, position := d.position + 1 } := by
        simp only [step, hstage, hat.drop_eq, hc, if_true]
      obtain ⟨position, hbehind, hsteps⟩ := ih (d := { d with
        stage := .flags left, position := d.position + 1 }) rfl hat.cons
      refine ⟨position, ?_, .head hgoes hsteps⟩
      rwa [List.foldl_cons, dropChar_cons, if_pos rfl]
    · have hgoes : d.step symbol widths = .to { d with stage := .flags left } := by
        simp only [step, hstage, hat.drop_eq, if_neg hc]
      obtain ⟨position, hbehind, hsteps⟩ := ih (d := { d with stage := .flags left }) rfl hat
      refine ⟨position, ?_, .head hgoes hsteps⟩
      have hsame : dropChar c cs = cs := by
        cases cs with
        | nil => rfl
        | cons b tail =>
          rw [dropChar_cons, if_neg fun heq => hc (congrArg some heq)]
      rwa [List.foldl_cons, hsame]

/-- A group of qualifiers is read and waits. -/
theorem leads_qualifiers (hstage : d.stage = .vendor) (hat : At symbol d.position cs) :
    Leads symbol widths d ((readQualifiers cs).map (Prod.mk ())) fun _ position =>
      { d with stage := .layer, position, stack := .qualified :: d.stack } := by
  have hvendors : Leads symbol widths d _ _ := leads_vendorQualifiers hstage hat
  unfold readQualifiers
  -- the vendor qualifiers may stop the reading; the flags never do
  cases hread : readVendorQualifiers cs with
  | error halt =>
    rw [hread] at hvendors
    exact hvendors
  | ok rest =>
    rw [hread] at hvendors
    obtain ⟨position, hat, hsteps⟩ := hvendors
    obtain ⟨position', hbehind, hflags⟩ :=
      exists_steps_flags (d := { d with stage := .flags ['r', 'V', 'K'], position }) rfl hat
    exact ⟨position', hbehind, (hsteps.trans hflags).tail rfl⟩

/-- The lanes of a vector are read where their number must begin, and the vector waits. -/
theorem leads_lanes (hstage : d.stage = .count .lanes .dependentVectorSize)
    (hat : At symbol d.position cs) :
    Leads symbol widths d (readLanes widths cs) fun lanes position =>
      { d with stage := .layer, position, stack := .vector lanes :: d.stack } := by
  by_cases hdigit : cs.head?.any (·.is Text.isDigit) = true
  · rw [readLanes_eq hdigit]
    refine Leads.of_goes (step_count hstage hat hdigit) ?_
    refine (leads_number (d := { d with stage := .digits .lanes d.position }) rfl hat).bind
      fun n rest position _ hat => ?_
    have hstep : step symbol widths { d with stage := .number .lanes n, position } =
        stepNumber symbol widths { d with stage := .number .lanes n, position } n .lanes := rfl
    simp only [stepNumber, hat.drop_eq] at hstep
    dsimp only
    -- the widths are asked first and the underscore afterwards, by both
    split_ifs at hstep ⊢ with hallowed hunderscore
    · obtain ⟨tail, rfl⟩ := List.head?_eq_some_iff.mp hunderscore
      exact leads_ok hat.cons hstep
    · split
      · exact absurd rfl hunderscore
      · exact leads_refused hat hstep
    · exact leads_refused hat hstep
  · unfold readLanes
    rw [if_neg hdigit]
    exact leads_refused hat (step_count_refused hstage hat hdigit)

/-- In front of a type the step depends on what is left only. -/
theorem step_layer (hstage : d.stage = .layer) (hat : At symbol d.position cs) :
    d.step symbol widths = d.stepLayer cs := by
  simp only [step, hstage, hat.drop_eq]

/-- The constructors in front of a type are read one by one and wait. -/
theorem leads_layers {stack : List Layer} (hstage : d.stage = .layer) (hstack : d.stack = stack)
    (hat : At symbol d.position cs) :
    Leads symbol widths d (readLayers widths stack cs) fun stack position =>
      { d with stage := .terminal, position, stack } := by
  -- along the reader; its stack is the one of the decoder
  fun_induction readLayers widths stack cs generalizing d with
  | case1 stack =>
    subst hstack
    exact leads_ok hat (step_layer hstage hat)
  | case2 stack rest ih =>
    subst hstack
    refine Leads.of_goes (step_layer hstage hat) ?_
    exact ih (d := { d with position := d.position + 1, stack := .pointer :: d.stack }) hstage rfl
      hat.cons
  | case3 stack c rest hP hQ halt hread =>
    subst hstack
    have hgroup : Leads symbol widths { d with stage := .vendor } _ _ := leads_qualifiers rfl hat
    rw [hread] at hgroup
    refine Leads.of_goes ?_ (show Leads symbol widths _ (.error halt) _ from hgroup)
    rw [step_layer hstage hat, stepLayer, if_neg hP, if_pos hQ]
  | case4 stack c rest hP hQ rest' hread ih =>
    subst hstack
    have hgroup : Leads symbol widths { d with stage := .vendor } _ _ := leads_qualifiers rfl hat
    rw [hread] at hgroup
    obtain ⟨position, hbehind, hsteps⟩ := hgroup
    refine Leads.of_goes ?_ (Leads.of_steps hsteps (ih rfl rfl hbehind))
    rw [step_layer hstage hat, stepLayer, if_neg hP, if_pos hQ]
  | case5 stack c rest hP hQ hD halt hread =>
    subst hstack
    obtain ⟨tail, rfl⟩ := List.head?_eq_some_iff.mp hD.2
    have hlanes : Leads symbol widths { d with
        stage := .count .lanes .dependentVectorSize, position := d.position + 2 } _ _ :=
      leads_lanes rfl hat.cons.cons
    rw [show readLanes widths tail = .error halt from hread] at hlanes
    refine Leads.of_goes ?_ (show Leads symbol widths _ (.error halt) _ from hlanes)
    rw [step_layer hstage hat, stepLayer, if_neg hP, if_neg hQ, if_pos hD]
  | case6 stack c rest hP hQ hD lanes rest' hread ih =>
    subst hstack
    obtain ⟨tail, rfl⟩ := List.head?_eq_some_iff.mp hD.2
    have hlanes : Leads symbol widths { d with
        stage := .count .lanes .dependentVectorSize, position := d.position + 2 } _ _ :=
      leads_lanes rfl hat.cons.cons
    rw [show readLanes widths tail = .ok (lanes, rest') from hread] at hlanes
    obtain ⟨position, hbehind, hsteps⟩ := hlanes
    refine Leads.of_goes ?_ (Leads.of_steps hsteps (ih rfl rfl hbehind))
    rw [step_layer hstage hat, stepLayer, if_neg hP, if_neg hQ, if_pos hD]
  | case7 stack c rest hP hQ hD =>
    subst hstack
    refine leads_ok hat ?_
    rw [step_layer hstage hat, stepLayer, if_neg hP, if_neg hQ, if_neg hD]

end Constructors

/-! ### Types -/

section Types

variable {d : Decoder} {cs : Text} {table : List TypeInfo}

/-- Behind the number of a back-reference the decoder asks for an underscore. -/
theorem leads_underscore {sequence : Text} (hstage : d.stage = .sequence)
    (hat : At symbol d.position (sequence ++ rest))
    (hchars : ∀ c ∈ sequence, isSequenceChar c = true)
    (hstop : ∀ c, rest.head? = some c → isSequenceChar c = false) :
    Steps symbol widths d { d with
      stage := .underscore sequence, position := d.position + sequence.length } := by
  refine .single ?_
  simp only [Goes, step, hstage, hat.drop_eq, Text.takeWhile_append_of_stop hchars hstop]

/-- A back-reference is read behind its `S`. -/
theorem leads_reference (hstage : d.stage = .sequence) (hat : At symbol d.position cs) :
    Leads symbol widths d (readReference d.table cs) fun t position =>
      { d with stage := .operand t, position } := by
  obtain ⟨sequence, rest, rfl, hchars, hstop⟩ := Text.exists_run isSequenceChar cs
  refine Leads.of_steps (leads_underscore hstage hat hchars hstop) ?_
  have hbehind := hat.append
  unfold readReference
  simp only [Text.takeWhile_append_of_stop hchars hstop, Text.dropWhile_append_of_stop hchars hstop]
  split
  · next rest _ =>
    have hunderscore : step symbol widths { d with
        stage := .underscore sequence, position := d.position + sequence.length } = .to { d with
          stage := .reference sequence, position := d.position + sequence.length + 1 } := by
      simp only [step, hbehind.drop_eq, List.head?_cons, if_true]
    refine Leads.of_goes hunderscore ?_
    -- the table is looked into only at a place that it has
    have hplace : step symbol widths { d with
        stage := .reference sequence, position := d.position + sequence.length + 1 } =
          stepReference symbol { d with
            stage := .reference sequence, position := d.position + sequence.length + 1 } sequence :=
      rfl
    unfold stepReference at hplace
    cases hindex : referenceIndex sequence with
    | error e =>
      rw [hindex] at hplace
      exact leads_fault hplace
    | ok index =>
      rw [hindex] at hplace
      dsimp only at hplace ⊢
      by_cases hlt : index < d.table.length
      · rw [dif_pos hlt] at hplace
        rw [List.getElem?_eq_getElem hlt]
        exact leads_ok hbehind.cons hplace
      · rw [dif_neg hlt] at hplace
        rw [List.getElem?_eq_none (Nat.le_of_not_lt hlt)]
        cases hwrite : Text.writeNat index with
        | error e =>
          rw [hwrite] at hplace
          exact leads_fault hplace
        | ok text =>
          rw [hwrite] at hplace
          exact leads_refused hbehind.cons hplace
  · next hunderscore =>
    have hhead : ¬ rest.head? = some (.char '_') := by
      intro hhead
      obtain ⟨tail, rfl⟩ := List.head?_eq_some_iff.mp hhead
      exact hunderscore tail rfl
    refine leads_refused hbehind ?_
    simp only [step, hbehind.drop_eq, if_neg hhead]

/-- In front of a type without constructors the step depends on what is left only. -/
theorem step_terminal (hstage : d.stage = .terminal) (hat : At symbol d.position cs) :
    d.step symbol widths = d.stepTerminal symbol cs := by
  simp only [step, hstage, hat.drop_eq]

/-- A type without constructors is read, and joins the table if it is a handle. -/
theorem leads_terminal (hstage : d.stage = .terminal) (hat : At symbol d.position cs) :
    Leads symbol widths d (readTerminal d.table cs) fun leaf position =>
      { d with
        stage := .operand leaf.1, position
        table := if leaf.2 then d.table ++ [leaf.1] else d.table } := by
  cases cs with
  | nil => exact leads_refused hat (step_terminal hstage hat)
  | cons c cs =>
    have hstep : d.step symbol widths = d.stepTerminal symbol (c :: cs) := step_terminal hstage hat
    rw [stepTerminal] at hstep
    -- the same tests as in the reader: a name, a back-reference, `Dh`, or a code of one letter
    by_cases hdigit : c.is Text.isDigit = true
    · have hD : ¬ (c = 'D' ∧ cs.head? = some (.char 'h')) :=
        fun h => ne_of_isDigit hdigit (by decide) h.1
      rw [if_neg hD, builtinCode?_of_isDigit hdigit] at hstep
      dsimp only at hstep
      rw [if_pos hdigit] at hstep
      rw [readTerminal_of_isDigit hdigit]
      have hname : Leads symbol widths { d with
          stage := .digits (.length .handle) d.position } _ _ := leads_sourceName rfl hat
      refine Leads.of_goes hstep (hname.bind fun name rest position _ hat => ?_)
      cases hcheck : (TypeInfo.handle name).check with
      | error e =>
        refine leads_fault ?_
        simp only [step, stepNamed, hcheck]
      | ok t =>
        refine leads_ok hat ?_
        simp only [step, stepNamed, hcheck, if_true]
    · by_cases hS : c = 'S'
      · subst hS
        rw [readTerminal_reference]
        have hreference : Leads symbol widths { d with
            stage := .sequence, position := d.position + 1 } _ _ := leads_reference rfl hat.cons
        exact Leads.of_goes hstep (Leads.map (f := fun t => (t, false)) hreference)
      · rw [readTerminal]
        split_ifs at hstep ⊢ with hhalf
        · obtain ⟨tail, rfl⟩ := List.head?_eq_some_iff.mp hhalf.2
          exact leads_ok hat.cons.cons hstep
        · cases hcode : builtinCode? c with
          | some s =>
            rw [hcode] at hstep
            exact leads_ok hat.cons hstep
          | none =>
            rw [hcode] at hstep
            exact leads_refused hat hstep

/-- A type without constructors is read with the table that it leaves behind. -/
theorem leads_leaf (hstage : d.stage = .terminal) (hat : At symbol d.position cs) :
    Leads symbol widths d (readLeaf d.table cs) fun leaf position =>
      { d with stage := .operand leaf.1, position, table := leaf.2 } :=
  Leads.map (f := fun leaf : TypeInfo × Bool =>
    (leaf.1, if leaf.2 then d.table ++ [leaf.1] else d.table)) (leads_terminal hstage hat)

/-- A constructor that does not take its operand refuses the symbol where it is applied. -/
theorem rest_of_apply_refused {layer : Layer} {t : TypeInfo} {reason : Reason}
    (h : layer.apply t cs = .error (.refused reason rest)) : rest = cs := by
  -- only vectors refuse their operand
  cases layer with
  | pointer => cases h
  | qualified => cases h
  | vector lanes =>
    unfold Layer.apply at h
    dsimp only at h
    split_ifs at h
    · cases h
      rfl
    · split at h <;> cases h
    · cases h
      rfl

/-- The constructors that wait are applied, the last one first, and the type is a parameter. -/
theorem leads_apply {t : TypeInfo} {stack : List Layer} (hstage : d.stage = .operand t)
    (hstack : d.stack = stack) (hat : At symbol d.position cs) :
    Leads symbol widths d ((applyLayers cs stack t d.table).map (·, cs)) fun r position =>
      { d with
        stage := .param, position, table := r.2, stack := [], params := d.params ++ [r.1] } := by
  -- induction on the constructors that wait; each makes the operand of the next one
  induction stack generalizing d t with
  | nil =>
    refine leads_ok hat ?_
    simp only [step, hstage, stepOperand, hstack]
  | cons layer stack ih =>
    have hstep : d.step symbol widths = stepOperand symbol d t := by
      simp only [step, hstage]
    rw [stepOperand, hstack, hat.drop_eq] at hstep
    dsimp only at hstep
    rw [applyLayers]
    cases happly : layer.apply t cs with
    | ok t' =>
      rw [happly] at hstep
      exact Leads.of_goes hstep (ih (d := { d with
        stage := .operand t', table := d.table ++ [t'], stack }) rfl rfl hat)
    | error halt =>
      rw [happly] at hstep
      cases halt with
      | fault f => exact leads_fault hstep
      | refused reason rest =>
        rw [rest_of_apply_refused happly]
        exact leads_refused hat hstep

/-- A type is read as a parameter. -/
theorem leads_type (hstage : d.stage = .layer) (hstack : d.stack = [])
    (hat : At symbol d.position cs) :
    Leads symbol widths d (readType widths d.table cs) fun r position =>
      { d with
        stage := .param, position, table := r.2, stack := [], params := d.params ++ [r.1] } := by
  rw [readType_eq_readOperand]
  -- constructors, then what they stand in front of, then their application
  refine (leads_layers hstage hstack hat).bind fun stack rest position _ hat => ?_
  refine (leads_leaf (d := { d with stage := .terminal, position, stack }) rfl hat).bind
    fun leaf rest position _ hat => ?_
  exact leads_apply (d := { d with
    stage := .operand leaf.1, position, table := leaf.2, stack }) rfl rfl hat

end Types

/-! ### Symbols -/

section Symbols

variable {d : Decoder} {cs : Text}

/-- The result of a decoder that has read a name and some parameters, when the others are read. -/
def finish (symbol : Text) (d : Decoder) (others : Except Halt (List TypeInfo)) :
    Except Error Decoded :=
  match others with
  | .ok params => .ok ⟨d.name, d.params ++ params, true⟩
  | .error halt => .error (halt.toError symbol)

/-- A parameter that was read may be counted among those of the decoder. -/
theorem finish_map_cons (t : TypeInfo) (others : Except Halt (List TypeInfo)) :
    d.finish symbol (others.map (t :: ·)) =
      finish symbol { d with params := d.params ++ [t] } others := by
  cases others with
  | error halt => rfl
  | ok params =>
    rw [map_ok, finish, finish, List.append_assoc]
    rfl

/-- In front of a parameter the decoder refuses a plain void and passes on to anything else. -/
theorem step_param_cons {c : CodePoint} (hstage : d.stage = .param)
    (hat : At symbol d.position (c :: cs)) :
    d.step symbol widths =
      if c = 'v' then d.refuse symbol .voidParameter else .to { d with stage := .layer } := by
  simp only [step, hstage, hat.drop_eq, List.head?_cons]

/-- The parameters are read one by one, up to the end of the symbol. -/
theorem ends_params (hstage : d.stage = .param) (hstack : d.stack = [])
    (hat : At symbol d.position cs) :
    Ends symbol widths d (d.finish symbol (readParams widths d.table cs)) := by
  -- induction on what is left, which every type shortens
  induction hlength : cs.length using Nat.strong_induction_on generalizing d cs with
  | _ length ih =>
  subst hlength
  cases cs with
  | nil =>
    refine ⟨d, .refl, ?_⟩
    simp only [step, hstage, hat.drop_eq, List.head?_nil, readParams, finish, List.append_nil]
  | cons c cs =>
    have hstep : d.step symbol widths = _ := step_param_cons hstage hat
    by_cases hv : c = 'v'
    · rw [if_pos hv] at hstep
      refine ⟨d, .refl, ?_⟩
      rw [hstep, readParams, if_pos hv, finish, hat.toError]
      rfl
    · rw [if_neg hv] at hstep
      have htype : Leads symbol widths { d with stage := .layer } _ _ := leads_type rfl hstack hat
      rw [readParams_cons hv]
      dsimp only at htype
      cases hread : readType widths d.table (c :: cs) with
      | error halt =>
        rw [hread] at htype
        exact Ends.of_steps (.single hstep) htype
      | ok r =>
        rw [hread] at htype
        obtain ⟨position, hbehind, hsteps⟩ := htype
        -- the type has joined the parameters, and the others follow
        rw [ok_bind, finish_map_cons]
        refine Ends.of_steps (.head hstep hsteps) ?_
        exact ih _ (length_lt_of_readType hread) (d := { d with
          stage := .param, position, table := r.1.2, stack := []
          params := d.params ++ [r.1.1] }) rfl rfl hbehind rfl

/-- Behind a base name stands a lone `v`, which is no parameter, or the parameters. -/
theorem ends_named {name : Text} (hstage : d.stage = .named .base name) (hstack : d.stack = [])
    (htable : d.table = []) (hparams : d.params = []) (hat : At symbol d.position cs) :
    Ends symbol widths d (finish symbol { d with name }
      (if cs = [.char 'v'] then .ok [] else readParams widths [] cs)) := by
  have hstep : d.step symbol widths = stepNamed symbol d name .base := by
    simp only [step, hstage]
  rw [stepNamed, hat.drop_eq] at hstep
  split_ifs at hstep ⊢ with hv
  · refine ⟨d, .refl, ?_⟩
    rw [hstep, finish, hparams]
    rfl
  · rw [← htable]
    exact Ends.of_steps (.single hstep) (ends_params (d := { d with stage := .param, name })
      rfl hstack hat)

/-- Behind the `_Z` the name and the parameters are read. -/
theorem ends_encoding (hstage : d.stage = .count (.length .base) .notPlainName)
    (hstack : d.stack = []) (htable : d.table = []) (hparams : d.params = [])
    (hat : At symbol d.position cs) :
    Ends symbol widths d
      (match readEncoding widths cs with
      | .ok (name, params) => .ok ⟨name, params, true⟩
      | .error halt => .error (halt.toError symbol)) := by
  obtain ⟨stage, position, name, table, stack, params⟩ := d
  obtain rfl : params = [] := hparams
  by_cases hdigit : cs.head?.any (·.is Text.isDigit) = true
  · have hname : Leads symbol widths ⟨stage, position, name, table, stack, []⟩ _ _ :=
      leads_counted hstage hat hdigit
    rw [readEncoding_eq hdigit]
    cases hread : readSourceName cs with
    | error halt =>
      rw [hread] at hname
      exact hname
    | ok r =>
      rw [hread] at hname
      obtain ⟨position, hbehind, hsteps⟩ := hname
      refine Ends.of_steps hsteps ?_
      have hnamed : Ends symbol widths ⟨.named .base r.1, position, name, table, stack, []⟩ _ :=
        ends_named rfl hstack htable rfl hbehind
      rw [ok_bind]
      -- the parameters end the symbol or refuse it, just as the list of them is read or not
      split_ifs at hnamed ⊢ with hv
      · exact hnamed
      · cases hothers : readParams widths [] r.2 with
        | error halt =>
          rw [hothers] at hnamed
          exact hnamed
        | ok params =>
          rw [hothers] at hnamed
          exact hnamed
  · rw [readEncoding, if_neg hdigit]
    refine ⟨_, .refl, ?_⟩
    dsimp only
    rw [step_count_refused hstage hat hdigit, hat.toError]
    rfl

/-- **Step by step.** From the start of a symbol the decoder ends with what the symbol says, or with
    why it does not. -/
theorem ends_decode (symbol : Text) (widths : List Int) :
    Ends symbol widths start (decode symbol widths) := by
  unfold decode
  split
  · next rest =>
    have hat : At (.char '_' :: .char 'Z' :: rest) 2 rest := ⟨rfl, by simp⟩
    refine Ends.of_steps (.single rfl) (ends_encoding rfl rfl rfl rfl hat)
  · next hother =>
    have hstep : start.step symbol widths =
        if isIdentifier symbol then .done (.ok ⟨symbol, [], false⟩)
        else start.refuse symbol .notASymbol := by
      unfold step start
      dsimp only
      split
      · exact absurd rfl (hother _)
      · rfl
    refine ⟨start, .refl, ?_⟩
    rw [hstep]
    split_ifs <;> rfl

end Symbols

end Decoder

end KernelCalls.Mangling
