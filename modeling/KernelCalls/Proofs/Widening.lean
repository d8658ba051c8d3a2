import KernelCalls.Proofs.Conversion
import KernelCalls.Proofs.Mangling.Complete

namespace KernelCalls

open Outcome

/-!
# Accepting more vector widths

The widths that vectors may have are asked for at every vector of a symbol, at any depth, and again
where the name of a conversion is read.  Two runs of the pipeline, one with fewer widths than the
other, stay in step, the tables of earlier types included, until a width turns up that only the
other one has; then the one with fewer widths is refused.

* `Mangling.InStep` : two readings that agree, or of which the one with fewer widths is refused for
  a width.
* `readLayer_inStep`, `readType_inStep`, `readParams_inStep` : every reader stays in step.
* `decode_eq_or_refused`, `recognise_eq_or_refused` : whole symbols and calls.
* `answers_of_subset` : what is answered with fewer widths is answered alike with more.
-/

variable {fewer more : List Int}

namespace Mangling

section InStep

variable {α β : Type} {r r' : Except Halt α}

/-- Two readings end alike, or the one with fewer widths is refused for a width that only the other
    one has. -/
inductive InStep (fewer more : List Int) {α : Type} : Except Halt α → Except Halt α → Prop where
  | same (r : Except Halt α) : InStep fewer more r r
  | refused {width : Nat} (rest : Text) (r' : Except Halt α) (missing : (width : Int) ∉ fewer)
      (added : (width : Int) ∈ more) :
      InStep fewer more (.error (.refused (.vectorWidth width) rest)) r'

/-- Two readings stay in step with what follows them, which is asked about values that they agree
    on. -/
theorem InStep.bind {f f' : α → Except Halt β} (h : InStep fewer more r r')
    (hf : ∀ a, r = .ok a → InStep fewer more (f a) (f' a)) :
    InStep fewer more (r.bind f) (r'.bind f') := by
  cases h with
  | refused rest r' missing added => exact .refused rest _ missing added
  | same r =>
    cases r with
    | error halt => exact .same _
    | ok a => exact hf a rfl

/-- Two readings stay in step when the same is made of their values. -/
theorem InStep.map (h : InStep fewer more r r') (f : α → β) :
    InStep fewer more (r.map f) (r'.map f) := by
  cases h with
  | refused rest r' missing added => exact .refused rest _ missing added
  | same r => exact .same _

end InStep

/-! ### Readers -/

/-- The number of lanes is the only place where a reader asks for the widths. -/
theorem readLanes_inStep (h : fewer ⊆ more) (cs : Text) :
    InStep fewer more (readLanes fewer cs) (readLanes more cs) := by
  by_cases hdigit : cs.head?.any (·.is Text.isDigit) = true
  · rw [readLanes_eq hdigit, readLanes_eq hdigit]
    refine (InStep.same _).bind fun r _ => ?_
    -- both have the width, only one of them does, or neither
    by_cases hfewer : (r.1 : Int) ∈ fewer
    · rw [if_pos hfewer, if_pos (h hfewer)]
      exact .same _
    · by_cases hmore : (r.1 : Int) ∈ more
      · rw [if_neg hfewer]
        exact .refused _ _ hfewer hmore
      · rw [if_neg hfewer, if_neg hmore]
        exact .same _
  · -- without a digit no width is read
    have heq : readLanes fewer cs = readLanes more cs := by
      unfold readLanes
      rw [if_neg hdigit, if_neg hdigit]
    rw [heq]
    exact .same _

/-- A constructor asks for the widths only where it is a vector. -/
theorem readLayer_inStep (h : fewer ⊆ more) (cs : Text) :
    InStep fewer more (readLayer fewer cs) (readLayer more cs) := by
  cases cs with
  | nil => exact .same _
  | cons c rest =>
    rw [readLayer, readLayer]
    -- both readers ask for the same characters in the same order
    by_cases hP : c = 'P'
    · rw [if_pos hP, if_pos hP]
      exact .same _
    · rw [if_neg hP, if_neg hP]
      by_cases hQ : c = 'U' ∨ isQualifier c = true
      · rw [if_pos hQ, if_pos hQ]
        exact .same _
      · rw [if_neg hQ, if_neg hQ]
        by_cases hD : c = 'D' ∧ rest.head? = some (.char 'v')
        · rw [if_pos hD, if_pos hD]
          exact (readLanes_inStep h _).map _
        · rw [if_neg hD, if_neg hD]
          exact .same _

/-- **Types.** The same type is read, and the same table is left behind. -/
theorem readType_inStep (h : fewer ⊆ more) (table : List TypeInfo) (cs : Text) :
    InStep fewer more (readType fewer table cs) (readType more table cs) := by
  -- induction on what is left: the operand of a constructor is shorter than the type
  induction hn : cs.length using Nat.strongRecOn generalizing cs with
  | ind n ih =>
    rw [readType_eq, readType_eq]
    refine (readLayer_inStep h cs).bind fun front hlayer => ?_
    cases front with
    | none => exact .same _
    | some front =>
      obtain ⟨layer, rest⟩ := front
      have hlt : rest.length < n := hn ▸ length_lt_of_readLayer hlayer
      exact (ih rest.length hlt rest rfl).bind fun operand _ => .same _

/-- **Parameters.** The table that one type leaves behind is the one that the next type refers to,
    in both readings. -/
theorem readParams_inStep (h : fewer ⊆ more) (table : List TypeInfo) (cs : Text) :
    InStep fewer more (readParams fewer table cs) (readParams more table cs) := by
  -- induction on what is left, which every type shortens; the table grows on the way
  induction hn : cs.length using Nat.strongRecOn generalizing table cs with
  | ind n ih =>
    cases cs with
    | nil =>
      rw [readParams, readParams]
      exact .same _
    | cons c rest =>
      by_cases hv : c = 'v'
      · rw [readParams, readParams, if_pos hv, if_pos hv]
        exact .same _
      · rw [readParams_cons hv, readParams_cons hv]
        refine (readType_inStep h table _).bind fun r hr => ?_
        have hlt : r.2.length < n := hn ▸ length_lt_of_readType hr
        exact (ih r.2.length hlt r.1.2 r.2 rfl).map _

/-- Behind the `_Z` only the parameters ask for the widths. -/
theorem readEncoding_inStep (h : fewer ⊆ more) (cs : Text) :
    InStep fewer more (readEncoding fewer cs) (readEncoding more cs) := by
  by_cases hdigit : cs.head?.any (·.is Text.isDigit) = true
  · rw [readEncoding_eq hdigit, readEncoding_eq hdigit]
    refine (InStep.same _).bind fun r _ => ?_
    by_cases hv : r.2 = [.char 'v']
    · rw [if_pos hv, if_pos hv]
      exact .same _
    · rw [if_neg hv, if_neg hv]
      exact (readParams_inStep h [] r.2).map _
  · have heq : readEncoding fewer cs = readEncoding more cs := by
      unfold readEncoding
      rw [if_neg hdigit, if_neg hdigit]
    rw [heq]
    exact .same _

/-- **Symbols.** With more widths a symbol is decoded, refused or stopped at as before, unless it
    was refused for a width that has been added. -/
theorem decode_eq_or_refused (h : fewer ⊆ more) (symbol : Text) :
    decode symbol fewer = decode symbol more ∨
      ∃ width position, decode symbol fewer =
          .error (.failed ⟨symbol, .vectorWidth width, position⟩) ∧
        (width : Int) ∉ fewer ∧ (width : Int) ∈ more := by
  unfold decode
  split
  · next rest =>
    have hstep := readEncoding_inStep h rest
    generalize readEncoding fewer rest = r at hstep
    generalize readEncoding more rest = r' at hstep
    -- what is left at the refusal says the position
    cases hstep with
    | same => exact .inl rfl
    | refused rest' r' missing added => exact .inr ⟨_, _, rfl, missing, added⟩
  · exact .inl rfl

end Mangling

/-! ### Names of conversions -/

/-- With more widths a type name is read as before, unless it was no type. -/
theorem TypeName.parse_eq_or_none (h : fewer ⊆ more) (name : Text) :
    parse name fewer = parse name more ∨ parse name fewer = .ok none := by
  unfold parse
  split
  · exact .inl rfl
  · next letters digits _ =>
    split
    · exact .inl rfl
    · next s _ =>
      by_cases hempty : digits.isEmpty = true
      · rw [if_pos hempty, if_pos hempty]
        exact .inl rfl
      · rw [if_neg hempty, if_neg hempty]
        split
        · exact .inl rfl
        · next width _ =>
          -- with a width that was accepted before nothing changes; otherwise it was no type
          by_cases hfewer : (width : Int) ∈ fewer ∧ s.kind.isNumeric = true
          · rw [if_pos hfewer, if_pos ⟨h hfewer.1, hfewer.2⟩]
            exact .inl rfl
          · rw [if_neg hfewer]
            exact .inr rfl

/-- With more widths a conversion has the same result, unless it had none. -/
theorem destination_eq_or_refused (h : fewer ⊆ more) (name : Text) (m : Match) :
    destination name m fewer = destination name m more ∨
      ∃ typeName, destination name m fewer =
        .error (.failure (.destination name (.notAType typeName))) := by
  by_cases hstarts : conversionStart <+: withoutModifiers m name
  · obtain ⟨typeName, htext⟩ := hstarts
    rw [destination_of_start htext.symm, destination_of_start htext.symm]
    rcases TypeName.parse_eq_or_none h typeName with heq | hnone
    · rw [heq]
      exact .inl rfl
    · rw [hnone]
      exact .inr ⟨typeName, rfl⟩
  · have hstarts' : conversionStart.isPrefixOf (withoutModifiers m name) ≠ true := by
      rwa [ne_eq, List.isPrefixOf_iff_prefix]
    refine .inl ?_
    unfold destination
    dsimp only
    rw [if_neg hstarts', if_neg hstarts']

/-! ### The pipeline -/

/-- Only a conversion asks for the widths when its description is put together. -/
theorem assemble_eq_or_refused (h : fewer ⊆ more) (d : Mangling.Decoded) (m : Match) :
    assemble d m fewer = assemble d m more ∨
      ∃ f, assemble d m fewer = .error (.failure f) := by
  by_cases hconvert : m.category d.params = .convert
  · rw [assemble_eq_of_convert hconvert, assemble_eq_of_convert hconvert]
    rcases destination_eq_or_refused h d.name m with heq | ⟨typeName, hrefused⟩
    · rw [heq]
      exact .inl rfl
    · rw [hrefused]
      exact .inr ⟨_, rfl⟩
  · -- any other call has no result to read
    refine .inl ?_
    unfold assemble
    simp only [if_neg hconvert]

/-- **Calls.** With more widths a symbol is recognised, refused or stopped at as before, unless it
    was refused. -/
theorem recognise_eq_or_refused (h : fewer ⊆ more) (m : Matcher) (c : Catalog) (symbol : Text) :
    recognise m c fewer symbol = recognise m c more symbol ∨
      ∃ f, recognise m c fewer symbol = .error (.failure f) := by
  unfold recognise
  rcases Mangling.decode_eq_or_refused h symbol with heq | ⟨width, position, hrefused, -, -⟩
  · rw [heq]
    cases Mangling.decode symbol more with
    | error e => cases e <;> exact .inl rfl
    | ok decoded =>
      dsimp only
      cases m.classify c decoded.name with
      | none => exact .inl rfl
      | some found => exact assemble_eq_or_refused h decoded found
  · rw [hrefused]
    exact .inr ⟨_, rfl⟩

/-- **Widening.** Whatever the catalog, what is decoded with some widths is decoded alike with more,
    and a call that is described with some widths has the same description with more. -/
theorem answers_of_subset (h : fewer ⊆ more) (m : Matcher) (c : Catalog) (symbol : Text) :
    (∀ d, Mangling.decode symbol fewer = .ok d → Mangling.decode symbol more = .ok d) ∧
    (∀ info, recognise m c fewer symbol = .ok info → recognise m c more symbol = .ok info) ∧
      ∀ info, build m c fewer symbol = .ok (info, none) →
        build m c more symbol = .ok (info, none) := by
  have hcall := recognise_eq_or_refused h m c symbol
  refine ⟨fun d hd => ?_, fun info hinfo => ?_, fun info hinfo => ?_⟩
  · rcases Mangling.decode_eq_or_refused h symbol with heq | ⟨_, _, hrefused, -, -⟩
    · rw [← heq, hd]
    · rw [hrefused] at hd
      cases hd
  · rcases hcall with heq | ⟨f, hrefused⟩
    · rw [← heq, hinfo]
    · rw [hrefused] at hinfo
      cases hinfo
  · unfold build at hinfo ⊢
    rcases hcall with heq | ⟨f, hrefused⟩
    · rw [← heq]
      exact hinfo
    · rw [hrefused] at hinfo
      cases hinfo

/-- A conversion of two vectors, the second one a reference to the first. -/
def twoVectors : Text := "_Z21convert_int16_sat_rteDv16_fS_"

/-- Its description does not change when vectors of three are accepted too. -/
theorem answers_twoVectors :
    let vector := { Scalar.float.type with width := 16 }
    let info : CallInfo := ⟨true, .convert, "convert_int16_sat_rte",
      { Scalar.int.type with width := 16 }, [vector, vector], conversionMatch.variant⟩
    ([2, 16] : List Int) ⊆ [16, 3, 2] ∧
      recognise (.ofCatalog conversions) conversions [16, 3, 2] twoVectors = .ok info ∧
      build (.ofCatalog conversions) conversions [16, 3, 2] twoVectors = .ok (info, none) := by
  intro vector info
  have hsub : ([2, 16] : List Int) ⊆ [16, 3, 2] := by decide
  obtain ⟨-, hrecognise, hbuild⟩ :=
    answers_of_subset hsub (.ofCatalog conversions) conversions twoVectors
  refine ⟨hsub, hrecognise info ?_, hbuild info ?_⟩
  · rw [Matcher.ofCatalog_conversions]
    decide +kernel
  · rw [Matcher.ofCatalog_conversions]
    decide +kernel

end KernelCalls
