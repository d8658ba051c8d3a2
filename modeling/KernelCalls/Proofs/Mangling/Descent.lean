import KernelCalls.Mangling.Decode
import KernelCalls.Proofs.Outcome

namespace KernelCalls.Mangling

open Outcome

/-!
# Reading types by descent

`readType` keeps the constructors it has met on a stack and applies them at the end.  This file
shows that it reads just as a recursive reader would: take one constructor, read its operand, apply
the constructor.

* `readLayer` : the constructor at the head of a text.
* `readOperand` : reading with constructors already on the stack; `readOperand_eq` — the stack plays
  no part until the operand is read.
* `readType_eq` : the recursive equation that later proofs use in place of the stack.
-/

/-- The constructor at the head of a text with what follows it, if there is one. -/
def readLayer (widths : List Int) (cs : Text) : Except Halt (Option (Layer × Text)) :=
  match cs with
  | [] => .ok none
  | c :: rest =>
    if c = 'P' then .ok (some (.pointer, rest))
    else if c = 'U' ∨ isQualifier c then
      (readQualifiers (c :: rest)).map fun rest' => some (.qualified, rest')
    else if c = 'D' ∧ rest.head? = some (.char 'v') then
      (readLanes widths (rest.drop 1)).map fun r => some (.vector r.1, r.2)
    else .ok none

/-- Pushing constructors is taking them one by one. -/
theorem readLayers_eq (widths : List Int) (stack : List Layer) (cs : Text) :
    readLayers widths stack cs =
      match readLayer widths cs with
      | .error e => .error e
      | .ok none => .ok (stack, cs)
      | .ok (some (layer, rest)) => readLayers widths (layer :: stack) rest := by
  cases cs with
  | nil =>
    rw [readLayers]
    rfl
  | cons c rest =>
    rw [readLayers, readLayer]
    -- both readers ask for `P`, for qualifiers and for `Dv`, in this order
    by_cases hP : c = 'P'
    · rw [if_pos hP, if_pos hP]
    · rw [if_neg hP, if_neg hP]
      by_cases hQ : c = 'U' ∨ isQualifier c = true
      · rw [dif_pos hQ, if_pos hQ]
        split <;> simp_all [Except.map]
      · rw [dif_neg hQ, if_neg hQ]
        by_cases hD : c = 'D' ∧ rest.head? = some (.char 'v')
        · rw [if_pos hD, if_pos hD]
          split <;> simp_all [Except.map]
        · rw [if_neg hD, if_neg hD]

/-- Taking a constructor shortens the text. -/
theorem length_lt_of_readLayer {widths : List Int} {cs rest : Text} {layer : Layer}
    (h : readLayer widths cs = .ok (some (layer, rest))) : rest.length < cs.length := by
  cases cs with
  | nil => simp [readLayer] at h
  | cons c tail =>
    rw [readLayer] at h
    split_ifs at h with hP hQ hD
    · cases h
      simp
    · obtain ⟨rest', hq, heq⟩ := map_eq_ok_iff.mp h
      cases heq
      exact length_lt_of_readQualifiers hQ hq
    · -- the `D` is gone, then the `v`, and then the number
      obtain ⟨⟨lanes, rest'⟩, hl, heq⟩ := map_eq_ok_iff.mp h
      cases heq
      have hlt : rest'.length < (tail.drop 1).length := length_lt_of_readLanes hl
      rw [List.length_drop] at hlt
      show rest'.length < tail.length + 1
      omega
    · cases h

/-! ### The stack -/

/-- A type without constructors, with the table it leaves behind. -/
def readLeaf (table : List TypeInfo) (cs : Text) : Reading (TypeInfo × List TypeInfo) :=
  (readTerminal table cs).map fun r => ((r.1.1, if r.1.2 then table ++ [r.1.1] else table), r.2)

/-- Applies a constructor to an operand that was read. -/
def construct (layer : Layer) (operand : (TypeInfo × List TypeInfo) × Text) :
    Reading (TypeInfo × List TypeInfo) :=
  (layer.apply operand.1.1 operand.2).map fun t => ((t, operand.1.2 ++ [t]), operand.2)

/-- One type with constructors already on the stack. -/
def readOperand (widths : List Int) (table : List TypeInfo) (stack : List Layer) (cs : Text) :
    Reading (TypeInfo × List TypeInfo) :=
  (readLayers widths stack cs).bind fun front =>
    (readLeaf table front.2).bind fun leaf =>
      (applyLayers leaf.2 front.1 leaf.1.1 leaf.1.2).map fun r => (r, leaf.2)

/-- A type is read with no constructors on the stack. -/
theorem readType_eq_readOperand (widths : List Int) (table : List TypeInfo) (cs : Text) :
    readType widths table cs = readOperand widths table [] cs := by
  unfold readType readOperand readLeaf
  -- both do the same three things, one by `match` and the other by `bind`
  cases readLayers widths [] cs with
  | error e => rfl
  | ok front =>
    obtain ⟨stack, rest⟩ := front
    simp only [ok_bind]
    cases readTerminal table rest with
    | error e => rfl
    | ok leaf =>
      obtain ⟨⟨t, joins⟩, rest'⟩ := leaf
      simp only [map_ok, ok_bind]
      cases applyLayers rest' stack t (if joins = true then table ++ [t] else table) <;> rfl

/-- Applying one more constructor from the bottom of a stack. -/
theorem applyLayers_cons (rest : Text) (layer : Layer) (stack : List Layer) (t : TypeInfo)
    (table : List TypeInfo) :
    (applyLayers rest (layer :: stack) t table).map (fun r => (r, rest))
      = (construct layer ((t, table), rest)).bind fun operand =>
          (applyLayers operand.2 stack operand.1.1 operand.1.2).map fun r => (r, operand.2) := by
  rw [applyLayers, construct]
  cases layer.apply t rest <;> rfl

/-- **The stack waits.** Reading with constructors on the stack is reading without them and applying
    them afterwards. -/
theorem readOperand_eq (widths : List Int) (table : List TypeInfo) (stack : List Layer)
    (cs : Text) :
    readOperand widths table stack cs
      = (readType widths table cs).bind fun operand =>
          (applyLayers operand.2 stack operand.1.1 operand.1.2).map fun r => (r, operand.2) := by
  -- induction on what is left: each constructor goes on the stack and shortens the text
  induction hn : cs.length using Nat.strongRecOn generalizing stack cs with
  | ind n ih =>
    rw [readType_eq_readOperand]
    unfold readOperand
    rw [readLayers_eq widths stack, readLayers_eq widths []]
    cases hl : readLayer widths cs with
    | error e => rfl
    | ok front =>
      cases front with
      | none =>
        simp only [ok_bind]
        cases readLeaf table cs <;> rfl
      | some front =>
        obtain ⟨layer, rest⟩ := front
        have hlt := length_lt_of_readLayer hl
        -- the operand with the whole stack, and with the constructor just taken alone
        have hwith := ih rest.length (by omega) (layer :: stack) rest rfl
        have hone := ih rest.length (by omega) [layer] rest rfl
        unfold readOperand at hwith hone
        dsimp only
        rw [hwith, hone]
        cases readType widths table rest with
        | error e => rfl
        | ok operand =>
          obtain ⟨⟨t, table'⟩, rest'⟩ := operand
          simp only [ok_bind]
          rw [applyLayers_cons, applyLayers_cons]
          cases construct layer ((t, table'), rest') <;> rfl

/-- **Reading by descent.** A type is a constructor and its operand, or a type without
    constructors. -/
theorem readType_eq (widths : List Int) (table : List TypeInfo) (cs : Text) :
    readType widths table cs =
      (readLayer widths cs).bind fun front =>
        match front with
        | none => readLeaf table cs
        | some (layer, rest) => (readType widths table rest).bind (construct layer) := by
  rw [readType_eq_readOperand]
  unfold readOperand
  rw [readLayers_eq]
  cases readLayer widths cs with
  | error e => rfl
  | ok front =>
    cases front with
    | none =>
      simp only [ok_bind]
      cases readLeaf table cs <;> rfl
    | some front =>
      obtain ⟨layer, rest⟩ := front
      -- the constructor just taken is the whole stack
      have hone := readOperand_eq widths table [layer] rest
      unfold readOperand at hone
      simp only [ok_bind]
      rw [hone]
      cases readType widths table rest with
      | error e => rfl
      | ok operand =>
        obtain ⟨⟨t, table'⟩, rest'⟩ := operand
        simp only [ok_bind]
        rw [applyLayers_cons]
        cases construct layer ((t, table'), rest') <;> rfl

end KernelCalls.Mangling
