import KernelCalls.Recognition
import KernelCalls.Proofs.Catalog.Classification
import KernelCalls.Proofs.TypeName

namespace KernelCalls

open Outcome

/-!
# The two readings of a conversion's name

The match of a conversion takes its width, saturation and rounding off the name from the left to the
right.  Its result is read again off the text of the name, with rounding and saturation taken off
from the right.  The two agree because the name is the stem and the tokens, in the order of the
slots.

* `textIn`, `flatMap_text_eq` : the texts of tokens, family by family.
* `withoutModifiers_eq_of_reassembles` : what is left without the modifiers is the stem and the
  width.
* `destination_eq_ok_iff` : when a name says its result.
* `assemble_conversion` : the two readings together.
-/

/-! ### The tokens of a family -/

/-- The text of the first token of a family, or nothing. -/
def textIn (tokens : List SuffixToken) (family : SuffixFamily) : Text :=
  match tokens.find? (·.family == family) with
  | some token => token.text
  | none => []

/-- The text of the token of a family that a match has, or nothing. -/
def Match.textOf (m : Match) (family : SuffixFamily) : Text := textIn m.tokens family

theorem textIn_cons_self (token : SuffixToken) (tokens : List SuffixToken) :
    textIn (token :: tokens) token.family = token.text := by
  simp [textIn]

/-- A token of another family plays no part. -/
theorem textIn_cons_of_ne {token : SuffixToken} {family : SuffixFamily} (h : token.family ≠ family)
    (tokens : List SuffixToken) : textIn (token :: tokens) family = textIn tokens family := by
  simp [textIn, h]

/-- A family without a token has no text. -/
theorem textIn_eq_nil {tokens : List SuffixToken} {family : SuffixFamily}
    (h : family ∉ tokens.map (·.family)) : textIn tokens family = [] := by
  have hnone : tokens.find? (·.family == family) = none := by
    rw [List.find?_eq_none]
    intro token htoken heq
    exact h (List.mem_map.mpr ⟨token, htoken, by simpa using heq⟩)
  rw [textIn, hnone]

/-- Tokens in the order of some families have the texts of these families one after the other. -/
theorem flatMap_text_eq {families : List SuffixFamily} {tokens : List SuffixToken}
    (hnodup : families.Nodup) (h : (tokens.map (·.family)).Sublist families) :
    tokens.flatMap (·.text) = families.flatMap (textIn tokens) := by
  -- induction on the families: either no token is of the first one, or the first token is
  induction families generalizing tokens with
  | nil =>
    have hnil : tokens = [] := by simpa using h
    simp [hnil]
  | cons family families ih =>
    obtain ⟨hnew, hrest⟩ := List.nodup_cons.mp hnodup
    rw [List.flatMap_cons]
    rcases List.sublist_cons_iff.mp h with h | ⟨others, hfirst, h⟩
    · -- no token is of the first family
      rw [textIn_eq_nil fun hmem => hnew (h.subset hmem), List.nil_append]
      exact ih hrest h
    · obtain ⟨token, tokens, rfl, rfl, rfl⟩ := List.map_eq_cons_iff.mp hfirst
      rw [List.flatMap_cons, textIn_cons_self, ih hrest h]
      congr 1
      refine List.flatMap_congr fun other hother => ?_
      have hne : token.family ≠ other := by
        rintro rfl
        exact hnew hother
      exact (textIn_cons_of_ne hne tokens).symm

/-! ### What is left of a name -/

theorem withoutEnding_nil (text : Text) : withoutEnding [] text = text := by
  simp [withoutEnding]

/-- The ending that a text has is taken off. -/
theorem withoutEnding_append (text ending : Text) :
    withoutEnding ending (text ++ ending) = text := by
  have hends : ending.isSuffixOf (text ++ ending) = true := by
    rw [List.isSuffixOf_iff_suffix]
    exact List.suffix_append text ending
  rw [withoutEnding, if_pos hends, List.length_append, Nat.add_sub_cancel, List.take_left]

/-- Taking off a token that is not there takes off nothing. -/
theorem withoutModifiers_eq (m : Match) (name : Text) :
    withoutModifiers m name =
      withoutEnding (m.textOf .saturation) (withoutEnding (m.textOf .rounding) name) := by
  have hstep : ∀ (family : SuffixFamily) (text : Text),
      (match m.token? family with
      | some token => withoutEnding token.text text
      | none => text) = withoutEnding (m.textOf family) text := by
    intro family text
    unfold Match.textOf textIn Match.token?
    cases m.tokens.find? (·.family == family) with
    | none => exact (withoutEnding_nil text).symm
    | some token => rfl
  rw [← hstep .rounding, ← hstep .saturation]
  rfl

/-- The name of a conversion is the stem and the texts of its tokens. -/
theorem Match.Reassembles.name_eq {tokens : TokenTable} {c : Catalog} {name : Text} {m : Match}
    (h : m.Reassembles tokens c name)
    (hslots : m.entry.suffixes.Sublist [.width, .saturation, .rounding]) :
    name = m.stem ++ m.textOf .width ++ m.textOf .saturation ++ m.textOf .rounding := by
  have hflat := flatMap_text_eq (by decide) (h.families.trans hslots)
  rw [← h.text, hflat]
  simp [Match.textOf]

/-- Without its modifiers, the name of a conversion is the stem and the width. -/
theorem withoutModifiers_eq_of_reassembles {tokens : TokenTable} {c : Catalog} {name : Text}
    {m : Match} (h : m.Reassembles tokens c name)
    (hslots : m.entry.suffixes.Sublist [.width, .saturation, .rounding]) :
    withoutModifiers m name = m.stem ++ m.textOf .width := by
  rw [withoutModifiers_eq, h.name_eq hslots, withoutEnding_append, withoutEnding_append]

/-! ### The result of a conversion -/

/-- The shapes that names spell are numbers but for two scalars. -/
theorem TypeName.Spells.isNumeric_iff {widths : List Int} {name : Text} {t : TypeInfo}
    (h : TypeName.Spells widths name t) :
    t.kind.isNumeric = true ↔ ¬ (t.kind = .void ∨ t.kind = .bool) := by
  cases h with
  | scalar s => exact isNumeric_kind_iff s
  | vector s => exact isNumeric_kind_iff s

/-- Behind the start of a conversion stands the name of its result. -/
theorem destination_of_start {m : Match} {name typeName : Text}
    (h : withoutModifiers m name = conversionStart ++ typeName) (widths : List Int) :
    destination name m widths =
      match TypeName.parse typeName widths with
      | .error f => .error (.fault f)
      | .ok none => .error (.failure (.destination name (.notAType typeName)))
      | .ok (some t) =>
        if t.kind = .void ∨ t.kind = .bool then
          .error (.failure (.destination name (.notAType typeName)))
        else .ok t := by
  have hstarts : conversionStart.isPrefixOf (conversionStart ++ typeName) = true := by
    rw [List.isPrefixOf_iff_prefix]
    exact List.prefix_append conversionStart typeName
  cases hparse : TypeName.parse typeName widths with
  | error f => simp only [destination, h, hstarts, hparse, List.drop_left, if_true]
  | ok found =>
    cases found <;> simp only [destination, h, hstarts, hparse, List.drop_left, if_true]

/-- **The result of a name.** A name says its result if what is left without the modifiers is the
    start of a conversion and the name of a number or a vector of numbers. -/
theorem destination_eq_ok_iff {m : Match} {name : Text} {widths : List Int} {t : TypeInfo} :
    destination name m widths = .ok t ↔
      ∃ typeName, withoutModifiers m name = conversionStart ++ typeName ∧
        TypeName.Spells widths typeName t ∧ t.kind.isNumeric = true := by
  constructor
  · intro h
    by_cases hstarts : conversionStart <+: withoutModifiers m name
    · -- what follows the start has to be the name of a type, and that type has to be numeric
      obtain ⟨typeName, htext⟩ := hstarts
      rw [destination_of_start htext.symm] at h
      split at h
      · cases h
      · cases h
      · next u hparse =>
        have hspells := TypeName.parse_eq_ok_some_iff.mp hparse
        split at h
        · cases h
        · next hkind =>
          cases h
          exact ⟨typeName, htext.symm, hspells, hspells.isNumeric_iff.mpr hkind⟩
    · -- any other start is refused
      have hstarts' : conversionStart.isPrefixOf (withoutModifiers m name) ≠ true := by
        rwa [ne_eq, List.isPrefixOf_iff_prefix]
      unfold destination at h
      dsimp only at h
      rw [if_neg hstarts'] at h
      cases h
  · rintro ⟨typeName, htext, hspells, hnumeric⟩
    rw [destination_of_start htext, TypeName.parse_eq_ok_some_iff.mpr hspells]
    exact if_neg (hspells.isNumeric_iff.mp hnumeric)

/-- The description of a conversion has the result that its name says. -/
theorem assemble_eq_of_convert {d : Mangling.Decoded} {m : Match}
    (hcategory : m.category d.params = .convert) (widths : List Int) :
    assemble d m widths = (destination d.name m widths).map fun t =>
      ⟨true, .convert, d.name, t, d.params, m.variant⟩ := by
  unfold assemble
  simp only [hcategory, if_true]
  cases destination d.name m widths with
  | error e => rfl
  | ok t =>
    have hcheck : CallInfo.check ⟨true, .convert, d.name, t, d.params, m.variant⟩
        = .ok ⟨true, .convert, d.name, t, d.params, m.variant⟩ :=
      CallInfo.check_eq_ok_iff.mpr ⟨rfl, by simp [CallInfo.WellFormed]⟩
    show (CallInfo.check ⟨true, .convert, d.name, t, d.params, m.variant⟩).mapError
      (fun e => Stop.fault (.call e)) = _
    rw [hcheck]
    rfl

/-! ### Widths -/

/-- The text of the token is the plain numeral of its value, which is a positive width. -/
def SuffixToken.IsPlain (t : SuffixToken) : Prop :=
  ∃ n : Nat, n ≠ 0 ∧ t.value = .lanes n ∧ t.text = Text.numeral 10 n ∧
    t.text.length ≤ Text.maxDigits

/-- If the match has a width token, its value is one of the given widths. -/
def Match.WidthIn (m : Match) (widths : List Int) : Prop :=
  ∀ t, m.token? .width = some t → ∃ n ∈ widths, t.value = .lanes n

/-- The text of a family is that of its token. -/
theorem Match.textOf_of_token? {m : Match} {family : SuffixFamily} {t : SuffixToken}
    (h : m.token? family = some t) : m.textOf family = t.text := by
  unfold Match.token? at h
  rw [Match.textOf, textIn, h]

/-- A family without a token has no text in the name. -/
theorem Match.textOf_of_none {m : Match} {family : SuffixFamily} (h : m.token? family = none) :
    m.textOf family = [] := by
  unfold Match.token? at h
  rw [Match.textOf, textIn, h]

/-- The token of a family is one of the match and of the family. -/
theorem Match.mem_of_token? {m : Match} {family : SuffixFamily} {t : SuffixToken}
    (h : m.token? family = some t) : t ∈ m.tokens ∧ t.family = family := by
  unfold Match.token? at h
  exact ⟨List.mem_of_find?_eq_some h, by simpa using List.find?_some h⟩

/-- Without a width token there is no width. -/
theorem Match.variant_width_of_none {m : Match} (h : m.token? .width = none) :
    m.variant.width = 0 := by
  simp only [Match.variant, h]

/-- The width is the value of the width token. -/
theorem Match.variant_width_of_token? {m : Match} {t : SuffixToken} {n : Int}
    (h : m.token? .width = some t) (hvalue : t.value = .lanes n) : m.variant.width = n := by
  obtain ⟨family, text, value⟩ := t
  subst hvalue
  simp only [Match.variant, h]

/-- Without a width token every width is fine. -/
theorem Match.widthIn_of_none {m : Match} {widths : List Int} (h : m.token? .width = none) :
    m.WidthIn widths := by
  intro t ht
  rw [h] at ht
  cases ht

/-- With a width token its value has to be one of the widths. -/
theorem Match.widthIn_iff_of_token? {m : Match} {widths : List Int} {t : SuffixToken} {n : Int}
    (h : m.token? .width = some t) (hvalue : t.value = .lanes n) :
    m.WidthIn widths ↔ n ∈ widths := by
  constructor
  · intro hin
    obtain ⟨k, hk, hk'⟩ := hin t h
    rw [hvalue] at hk'
    cases hk'
    exact hk
  · intro hn u hu
    rw [h] at hu
    cases hu
    exact ⟨n, hn, hvalue⟩

/-- A scalar with a plain width token is read as the vector of the width that the variant has, and
    as no type if vectors do not have this width. -/
theorem parse_spelling_textOf {m : Match} {s : Scalar} (hnumeric : s.kind.isNumeric = true)
    (hplain : ∀ t ∈ m.tokens, t.family = .width → t.IsPlain) (widths : List Int) :
    (m.WidthIn widths → TypeName.parse (s.spelling ++ m.textOf .width) widths
      = .ok (some { s.type with width := m.variant.width })) ∧
    (¬ m.WidthIn widths → TypeName.parse (s.spelling ++ m.textOf .width) widths = .ok none) := by
  cases htoken : m.token? .width with
  | none =>
    refine ⟨fun _ => ?_, fun hnot => absurd (Match.widthIn_of_none htoken) hnot⟩
    rw [Match.textOf_of_none htoken, List.append_nil, Match.variant_width_of_none htoken]
    exact TypeName.parse_scalar s widths
  | some t =>
    obtain ⟨hmem, hfamily⟩ := Match.mem_of_token? htoken
    obtain ⟨n, hn, hvalue, htext, hlen⟩ := hplain t hmem hfamily
    rw [Match.textOf_of_token? htoken, Match.variant_width_of_token? htoken hvalue,
      Match.widthIn_iff_of_token? htoken hvalue, htext, TypeName.parse_vector s widths hn
      (htext ▸ hlen)]
    exact ⟨fun h => by rw [if_pos ⟨h, hnumeric⟩], fun h => by rw [if_neg fun hboth => h hboth.1]⟩

/-! ### Conversions -/

/-- **Conversions.** Where conversions have slots for width, saturation and rounding in this order,
    the description of a matched conversion has a result whose text stands in the name between the
    start and the modifiers.  If moreover the stem names a number and widths are written as plain
    numerals, there is a description exactly when vectors have the width of the match, and its
    result is that number with the width of the variant.  The matcher may be older than the
    entries. -/
theorem assemble_conversion {built c : Catalog} (hbuilt : built.Loaded) (hc : c.Loaded)
    (hslots : ∀ stem e, c.get? stem = some e → e.category = .convert →
      e.suffixes.Sublist [.width, .saturation, .rounding])
    {d : Mangling.Decoded} {m : Match}
    (hm : (Matcher.ofCatalog built).classify c d.name = some m)
    (hcategory : m.entry.category = .convert) (hsampled : m.entry.sampled = none)
    (widths : List Int) :
    (∀ info, assemble d m widths = .ok info →
      info.returnType.kind.isNumeric = true ∧
      ∃ text, info.returnType.text = .ok text ∧
        d.name = conversionStart ++ text ++ m.textOf .saturation ++ m.textOf .rounding) ∧
    ∀ s : Scalar, s.kind.isNumeric = true → m.stem = conversionStart ++ s.spelling →
      (∀ t ∈ m.tokens, t.family = .width → t.IsPlain) →
      (m.WidthIn widths → assemble d m widths = .ok
        ⟨true, .convert, d.name, { s.type with width := m.variant.width }, d.params, m.variant⟩) ∧
      (¬ m.WidthIn widths →
        ∃ e, assemble d m widths = .error (.failure (.destination d.name e))) := by
  -- from the left: the stem and the tokens are the name, in the order of the slots
  have hreassembles := Matcher.reassembles_of_classify hbuilt.valid hc.valid hm
  have hsublist := hslots _ _ hreassembles.found hcategory
  have hname := hreassembles.name_eq hsublist
  -- from the right: without the modifiers, the stem and the width are left
  have hleft := withoutModifiers_eq_of_reassembles hreassembles hsublist
  have hconvert : m.category d.params = .convert := by rw [Match.category, hsampled, hcategory]
  rw [assemble_eq_of_convert hconvert]
  refine ⟨fun info hinfo => ?_, fun s hnumeric hstem hplain => ?_⟩
  · obtain ⟨t, ht, rfl⟩ := map_eq_ok_iff.mp hinfo
    obtain ⟨typeName, hstart, hspells, hnumeric⟩ := destination_eq_ok_iff.mp ht
    refine ⟨hnumeric, typeName, hspells.text, ?_⟩
    rw [← hstart, hleft]
    exact hname
  · have hstart :
        withoutModifiers m d.name = conversionStart ++ (s.spelling ++ m.textOf .width) := by
      rw [hleft, hstem, List.append_assoc]
    obtain ⟨hread, hrefused⟩ := parse_spelling_textOf hnumeric hplain widths
    have hkind : ¬ (s.type.kind = .void ∨ s.type.kind = .bool) := (isNumeric_kind_iff s).mp hnumeric
    refine ⟨fun hin => ?_, fun hnot => ⟨.notAType (s.spelling ++ m.textOf .width), ?_⟩⟩
    · rw [destination_of_start hstart, hread hin]
      dsimp only
      rw [if_neg hkind, map_ok]
    · rw [destination_of_start hstart, hrefused hnot]
      rfl

/-- The conversion with a token of every family has a result of sixteen lanes, and none where
    vectors have only two. -/
theorem assemble_conversionMatch :
    let d : Mangling.Decoded := ⟨"convert_int16_sat_rte", [.scalar .float32 false], true⟩
    assemble d conversionMatch [2, 16] = .ok
        ⟨true, .convert, d.name, { Scalar.int.type with width := 16 }, d.params,
          conversionMatch.variant⟩ ∧
      ∃ e, assemble d conversionMatch [2] = .error (.failure (.destination d.name e)) := by
  intro d
  have hslots : ∀ stem e, conversions.get? stem = some e → e.category = .convert →
      e.suffixes.Sublist [.width, .saturation, .rounding] := by
    have hall : ∀ p ∈ conversions.entries, p.2.category = .convert →
        p.2.suffixes.Sublist [.width, .saturation, .rounding] := by decide +kernel
    intro stem e hget
    exact hall _ (Table.mem_of_find? hget)
  have hplain : ∀ t ∈ conversionMatch.tokens, t.family = .width → t.IsPlain := by
    intro t ht hfamily
    simp only [conversionMatch, List.mem_cons, List.not_mem_nil, or_false] at ht
    rcases ht with rfl | rfl | rfl
    · exact ⟨16, by decide, rfl, by decide +kernel, by decide⟩
    · cases hfamily
    · cases hfamily
  have hassemble := fun widths => (assemble_conversion loaded_conversions loaded_conversions hslots
    (d := d) Matcher.classify_eq_conversionMatch rfl rfl widths).2 .int rfl (by decide +kernel)
    hplain
  have htoken : conversionMatch.token? .width = some ⟨.width, "16", .lanes 16⟩ := rfl
  refine ⟨(hassemble [2, 16]).1 ?_, (hassemble [2]).2 ?_⟩
  · intro t ht
    rw [htoken] at ht
    cases ht
    exact ⟨16, by decide, rfl⟩
  · intro hin
    obtain ⟨n, hn, hvalue⟩ := hin _ htoken
    cases hvalue
    revert hn
    decide

end KernelCalls
