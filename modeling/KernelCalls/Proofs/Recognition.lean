import KernelCalls.Proofs.Conversion
import KernelCalls.Proofs.Mangling.Limits
import KernelCalls.Registry.Basic

namespace KernelCalls

open Outcome

/-!
# What the pipeline comes to

Whatever catalogs were loaded, the pipeline describes a call, refuses a symbol, or stops at a number
beyond `Text.maxDigits`.  The checks on shapes and descriptions are made on the way and none of them
ever fails, and a description can be written down in one line.

* `Limit` : the numbers that stop the pipeline.
* `assemble_cases`, `build_cases_of_matched` : what the steps come to.
* `Describes`, `build_cases` : the description of a call, and the three ways the pipeline ends.
-/

/-! ### Results -/

/-- The result that a type name spells is presentable, and its width is one of those allowed. -/
theorem TypeName.Spells.presentable {widths : List Int} {name : Text} {t : TypeInfo}
    (h : TypeName.Spells widths name t) :
    t.Presentable ∧ (t.width = 0 ∨ 0 < t.width ∧ t.width ∈ widths) := by
  cases h with
  | scalar s => exact ⟨TypeInfo.presentable_type s, .inl rfl⟩
  | @vector s n ne_zero short allowed isNumeric =>
    refine ⟨(TypeInfo.presentable_type s).withWidth isNumeric
      ((Text.isNumeral_numeral n).lt_tenTo short), .inr ⟨?_, allowed⟩⟩
    show (0 : Int) < n
    omega

/-- A name whose digits can be read is a type name or not. -/
theorem TypeName.overlong_of_parse {name : Text} {widths : List Int} {f : Fault}
    (h : TypeName.parse name widths = .error f) :
    ∃ e, f = .number e ∧ Mangling.Overlong name e := by
  obtain ⟨digits, hends, hdigits, hlong, rfl⟩ := exists_of_parse_eq_error h
  exact ⟨_, rfl, .numeral hends.isInfix hdigits hlong⟩

/-- A text without its ending is a prefix of it. -/
theorem withoutEnding_isPrefix (ending text : Text) : withoutEnding ending text <+: text := by
  unfold withoutEnding
  split
  · exact List.take_prefix _ _
  · exact List.prefix_rfl

/-- A name says its result, or says none, unless a number in it is too long. -/
theorem overlong_of_destination {name : Text} {m : Match} {widths : List Int} {f : Fault}
    (h : destination name m widths = .error (.fault f)) :
    ∃ e, f = .number e ∧ Mangling.Overlong name e := by
  have hprefix : withoutModifiers m name <+: name := by
    rw [withoutModifiers_eq]
    exact (withoutEnding_isPrefix _ _).trans (withoutEnding_isPrefix _ _)
  by_cases hstarts : conversionStart <+: withoutModifiers m name
  · -- the type name is a part of the name without its modifiers, and that is a part of the name
    obtain ⟨typeName, htext⟩ := hstarts
    rw [destination_of_start htext.symm] at h
    split at h
    · next g hparse =>
      cases h
      obtain ⟨e, rfl, he⟩ := TypeName.overlong_of_parse hparse
      refine ⟨e, rfl, he.mono (List.IsInfix.trans ?_ hprefix.isInfix)⟩
      rw [← htext]
      exact (List.suffix_append _ _).isInfix
    · cases h
    · split at h <;> cases h
  · have hstarts' : conversionStart.isPrefixOf (withoutModifiers m name) ≠ true := by
      rwa [ne_eq, List.isPrefixOf_iff_prefix]
    unfold destination at h
    dsimp only at h
    rw [if_neg hstarts'] at h
    cases h

/-! ### Putting a description together -/

/-- The second parameter is a sampler. -/
def SecondIsSampler (params : List TypeInfo) : Prop :=
  ∃ t, params[1]? = some t ∧ t.kind = .handle ∧
    (t.handleName = ("ocl_sampler" : Text) ∨ t.handleName = ("sampler_t" : Text))

/-- The sampler is looked for by the name of the second handle. -/
theorem hasSampler_iff {params : List TypeInfo} :
    CallInfo.hasSampler params = true ↔ SecondIsSampler params := by
  unfold CallInfo.hasSampler SecondIsSampler
  cases params[1]? with
  | none => simp
  | some t => simp [TypeInfo.isHandle, CallInfo.samplerNames]

/-- A call has the category for samplers where there is one and a sampler is given, and otherwise
    that of the entry. -/
theorem Match.category_eq (m : Match) (params : List TypeInfo) :
    (∀ s, m.entry.sampled = some s → SecondIsSampler params → m.category params = s) ∧
    ((m.entry.sampled = none ∨ ¬ SecondIsSampler params) →
      m.category params = m.entry.category) := by
  rw [← hasSampler_iff]
  unfold Match.category
  cases m.entry.sampled with
  | none => simp
  | some sampled => simp_all

/-- What was stored in a catalog has a category, with and without a sampler. -/
theorem Catalog.Filed.category_ne {stem : Text} {m : Match} (h : Catalog.Filed stem m.entry)
    (params : List TypeInfo) : m.category params ≠ .unclassified := by
  have hcategory := h.valid.category
  have hsampled := h.valid.sampled
  unfold Match.category
  split
  · next s hs =>
    split
    · rintro rfl
      exact hsampled hs
    · exact hcategory
  · exact hcategory

/-- Any other call than a conversion is described without a result. -/
theorem assemble_eq_of_ne_convert {d : Mangling.Decoded} {m : Match}
    (hcategory : m.category d.params ≠ .unclassified) (hconvert : m.category d.params ≠ .convert)
    (widths : List Int) : assemble d m widths =
      .ok ⟨true, m.category d.params, d.name, .void, d.params, m.variant⟩ := by
  have hcheck : CallInfo.check ⟨true, m.category d.params, d.name, .void, d.params, m.variant⟩
      = .ok ⟨true, m.category d.params, d.name, .void, d.params, m.variant⟩ :=
    CallInfo.check_eq_ok_iff.mpr ⟨rfl, by simp [CallInfo.WellFormed, hcategory]⟩
  unfold assemble
  simp only [hconvert, if_false]
  show (CallInfo.check ⟨true, m.category d.params, d.name, .void, d.params, m.variant⟩).mapError
    (fun e => Stop.fault (.call e)) = _
  rw [hcheck]
  rfl

/-- A failure can be written down if the reason it reports can be. -/
def LookupFailure.Presentable : LookupFailure → Prop
  | .decode f => f.reason.Presentable
  | .miss _ | .destination _ _ => True

/-- The failure of a conversion quotes texts only. -/
theorem presentable_of_destination {name : Text} {m : Match} {widths : List Int}
    {f : LookupFailure} (h : destination name m widths = .error (.failure f)) :
    f.Presentable := by
  unfold destination at h
  dsimp only at h
  split at h
  · split at h
    · cases h
    · cases h
      trivial
    · split at h <;> cases h
      trivial
  · cases h
    trivial

/-- The result of a call: none, or for a conversion a number or a vector of numbers. -/
structure IsResult (widths : List Int) (category : Category) (t : TypeInfo) : Prop where
  absent : category ≠ .convert → t = .void
  numeric : category = .convert → t.kind.isNumeric = true
  width : t.width = 0 ∨ 0 < t.width ∧ t.width ∈ widths
  presentable : t.Presentable

/-- **Assembly.** A decoded and matched symbol is described with a result, or its name says none, or
    a number in the name is too long; the description is accepted. -/
theorem assemble_cases {d : Mangling.Decoded} {m : Match} {stem : Text}
    (h : Catalog.Filed stem m.entry) (widths : List Int) :
    (∃ t, IsResult widths (m.category d.params) t ∧
      CallInfo.WellFormed ⟨true, m.category d.params, d.name, t, d.params, m.variant⟩ ∧
      assemble d m widths = .ok ⟨true, m.category d.params, d.name, t, d.params, m.variant⟩) ∨
    (∃ f, assemble d m widths = .error (.failure f) ∧ f.Presentable) ∨
    ∃ e, assemble d m widths = .error (.fault (.number e)) ∧ Mangling.Overlong d.name e := by
  have hcategory := h.category_ne d.params
  -- only a conversion has a result, which its name must say
  by_cases hconvert : m.category d.params = .convert
  · rw [assemble_eq_of_convert hconvert, hconvert]
    cases hdestination : destination d.name m widths with
    | ok t =>
      obtain ⟨typeName, -, hspells, hnumeric⟩ := destination_eq_ok_iff.mp hdestination
      obtain ⟨hpresentable, hwidth⟩ := hspells.presentable
      exact .inl ⟨t, ⟨fun hne => absurd rfl hne, fun _ => hnumeric, hwidth, hpresentable⟩,
        by simp [CallInfo.WellFormed], rfl⟩
    | error stop =>
      cases stop with
      | failure f => exact .inr (.inl ⟨f, rfl, presentable_of_destination hdestination⟩)
      | fault f =>
        obtain ⟨e, rfl, he⟩ := overlong_of_destination hdestination
        exact .inr (.inr ⟨e, rfl, he⟩)
  · refine .inl ⟨.void, ⟨fun _ => rfl, fun hc => absurd hc hconvert, .inl rfl,
      TypeInfo.presentable_type .void⟩, ?_, assemble_eq_of_ne_convert hcategory hconvert widths⟩
    simp [CallInfo.WellFormed, hcategory]

/-! ### Writing a description down -/

/-- The modifiers are written down unless the width is too long. -/
theorem Variant.text_cases (v : Variant) :
    (∃ text, v.text = .ok text) ∨
      v.text = .error .tooLongToWrite ∧ Text.tenTo Text.maxDigits ≤ v.width.natAbs := by
  unfold Variant.text Variant.parts Text.writeInt
  by_cases hwidth : v.width = 0
  · rw [if_pos hwidth]
    exact .inl ⟨_, rfl⟩
  · rw [if_neg hwidth]
    by_cases hshort : v.width.natAbs < Text.tenTo Text.maxDigits
    · rw [if_pos hshort]
      exact .inl ⟨_, rfl⟩
    · rw [if_neg hshort]
      exact .inr ⟨rfl, Nat.le_of_not_lt hshort⟩

/-- A description with shapes that have a text is written down as its modifiers are. -/
theorem CallInfo.exists_text_eq_map {info : CallInfo} (hvalid : info.isValid = true)
    (hparams : ∀ t ∈ info.params, t.Presentable) (hreturn : info.returnType.Presentable) :
    ∃ line : String → Text, info.text = info.variant.text.map line := by
  obtain ⟨params, hparams⟩ := exists_mapM_eq_ok fun t ht => (hparams t ht).exists_text
  obtain ⟨returns, hreturn⟩ := hreturn.exists_text
  unfold CallInfo.text
  rw [if_pos hvalid, hparams, hreturn]
  by_cases hconvert : info.category = .convert
  all_goals
    simp only [hconvert, if_true, if_false]
    cases info.variant.text with
    | error e => exact ⟨fun _ => [], rfl⟩
    | ok variant => exact ⟨fun _ => _, rfl⟩

/-- The width of a match is the value of one of its tokens, or none. -/
theorem Match.exists_token_of_width {m : Match} (h : m.variant.width ≠ 0) :
    ∃ t ∈ m.tokens, t.family = .width ∧ t.value = .lanes m.variant.width := by
  cases htoken : m.token? .width with
  | none => exact absurd (Match.variant_width_of_none htoken) h
  | some t =>
    obtain ⟨hmem, hfamily⟩ := Match.mem_of_token? htoken
    refine ⟨t, hmem, hfamily, ?_⟩
    -- a token that stands for no lanes gives no width
    cases hvalue : t.value with
    | lanes n => rw [Match.variant_width_of_token? htoken hvalue]
    | _ =>
      obtain ⟨family, text, value⟩ := t
      subst hvalue
      exact absurd (by simp only [Match.variant, htoken]) h

/-! ### The pipeline -/

/-- A number beyond `Text.maxDigits` that stops the pipeline: one in the symbol, or the width that a
    suffix token stands for. -/
inductive Limit (tokens : TokenTable) (symbol : Text) : Text.NumberError → Prop where
  | overlong {e : Text.NumberError} (inside : Mangling.Overlong symbol e) : Limit tokens symbol e
  | width {text : Text} {n : Int} (listed : (text, SuffixValue.lanes n) ∈ tokens.get .width)
      (long : Text.tenTo Text.maxDigits ≤ n.natAbs) : Limit tokens symbol .tooLongToWrite

/-- The number is too long to be read or written. -/
def Text.NumberError.IsLimit (e : Text.NumberError) : Prop :=
  e = .tooLongToWrite ∨ ∃ digits, e = .tooLongToRead digits

/-- Any of these numbers is too long to be read or to be written. -/
theorem Limit.isLimit {tokens : TokenTable} {symbol : Text} {e : Text.NumberError}
    (h : Limit tokens symbol e) : e.IsLimit := by
  cases h with
  | width => exact .inl rfl
  | overlong inside =>
    cases inside with
    | numeral | sequence => exact .inr ⟨_, rfl⟩
    | place => exact .inl rfl

/-- What the description of a call says. -/
structure Describes (matcher : Matcher) (c : Catalog) (widths : List Int) (symbol : Text)
    (info : CallInfo) : Prop where
  isValid : info.isValid = true
  wellFormed : info.WellFormed
  /-- Name and parameters are those of the symbol, the category is that of the entry that the name
      is matched by, and the modifiers are those of the match. -/
  decoded : ∃ mangled m, Mangling.decode symbol widths = .ok ⟨info.name, info.params, mangled⟩ ∧
    matcher.classify c info.name = some m ∧ c.get? m.stem = some m.entry ∧
    info.variant = m.variant ∧
    (∀ s, m.entry.sampled = some s → SecondIsSampler info.params → info.category = s) ∧
    ((m.entry.sampled = none ∨ ¬ SecondIsSampler info.params) →
      info.category = m.entry.category)
  result : IsResult widths info.category info.returnType
  params : ∀ t ∈ info.params, t.Presentable
  text : ∃ text, info.text = .ok text

/-- What the pipeline comes to with a description, which is written down on the way. -/
theorem build_of_recognise {m : Matcher} {c : Catalog} {widths : List Int} {symbol : Text}
    {info : CallInfo} (h : recognise m c widths symbol = .ok info) :
    build m c widths symbol = match info.text with
      | .ok _ => .ok (info, none)
      | .error e => .error (.number e) := by
  cases htext : info.text <;> simp only [build, h, htext]

/-- The way of a symbol that is decoded and matched. -/
theorem build_cases_of_matched {built c : Catalog} (hbuilt : built.Valid) (hc : c.Valid)
    {widths : List Int} {symbol : Text} {d : Mangling.Decoded} {m : Match}
    (hdecode : Mangling.decode symbol widths = .ok d)
    (hm : (Matcher.ofCatalog built).classify c d.name = some m) :
    (∃ info, build (.ofCatalog built) c widths symbol = .ok (info, none) ∧
      Describes (.ofCatalog built) c widths symbol info) ∨
    (∃ f, build (.ofCatalog built) c widths symbol = .ok (.invalid, some f) ∧ f.Presentable) ∨
    ∃ e, build (.ofCatalog built) c widths symbol = .error (.number e) ∧
      Limit built.tokens symbol e := by
  obtain ⟨hparams, hname⟩ := Mangling.presentable_of_decode hdecode
  have hreassembles := Matcher.reassembles_of_classify hbuilt hc hm
  have hrecognise : recognise (.ofCatalog built) c widths symbol = assemble d m widths := by
    rw [recognise, hdecode]
    simp only [hm]
  rcases assemble_cases (hc.filed_of_get? hreassembles.found) widths with
    ⟨t, hresult, hwf, hassemble⟩ | ⟨f, hassemble, hf⟩ | ⟨e, hassemble, he⟩
  · rw [hassemble] at hrecognise
    rw [build_of_recognise hrecognise]
    obtain ⟨line, hline⟩ : ∃ line : String → Text,
        CallInfo.text ⟨true, m.category d.params, d.name, t, d.params, m.variant⟩
          = m.variant.text.map line :=
      CallInfo.exists_text_eq_map rfl hparams hresult.presentable
    -- the description is put together; what is left is to write it down
    rcases m.variant.text_cases with ⟨text, htext⟩ | ⟨htext, hlong⟩
    · have htext' := hline.trans (congrArg (Except.map line) htext)
      refine .inl ⟨_, by rw [htext']; rfl, ?_⟩
      obtain ⟨hsampled, hunsampled⟩ := m.category_eq d.params
      exact ⟨rfl, hwf, ⟨d.mangled, m, hdecode, hm, hreassembles.found, rfl, hsampled, hunsampled⟩,
        hresult, hparams, _, htext'⟩
    · -- the width is that of a token, whose value is too long
      have htext' := hline.trans (congrArg (Except.map line) htext)
      have hne : m.variant.width ≠ 0 := by
        intro h0
        rw [h0] at hlong
        exact absurd (Text.tenTo_pos _) (Nat.not_lt_of_le hlong)
      obtain ⟨token, htoken, hfamily, hvalue⟩ := Match.exists_token_of_width hne
      have hlisted := hreassembles.listed token htoken
      rw [hfamily, hvalue] at hlisted
      exact .inr (.inr ⟨_, by rw [htext']; rfl, .width hlisted hlong⟩)
  · exact .inr (.inl ⟨f, by rw [build, hrecognise, hassemble], hf⟩)
  · exact .inr (.inr ⟨e, by rw [build, hrecognise, hassemble], .overlong (he.mono hname)⟩)

/-- A symbol that cannot be decoded is none, and the failure is that of the decoding. -/
theorem build_of_failed {m : Matcher} {c : Catalog} {widths : List Int} {symbol : Text}
    {f : Mangling.Failure} (h : Mangling.decode symbol widths = .error (.failed f)) :
    build m c widths symbol = .ok (.invalid, some (.decode f)) := by
  rw [build, recognise, h]

/-- **Calls.** The pipeline over any two loaded catalogs describes the call, or the symbol is none
    and the failure says why, or a number is too long. -/
theorem build_cases {built c : Catalog} (hbuilt : built.Loaded) (hc : c.Loaded)
    (widths : List Int) (symbol : Text) :
    (∃ info, build (.ofCatalog built) c widths symbol = .ok (info, none) ∧
      Describes (.ofCatalog built) c widths symbol info) ∨
    (∃ f, build (.ofCatalog built) c widths symbol = .ok (.invalid, some f) ∧ f.Presentable) ∨
    ∃ e, build (.ofCatalog built) c widths symbol = .error (.number e) ∧
      Limit built.tokens symbol e := by
  rcases Mangling.decode_cases symbol widths with
    ⟨d, hdecode⟩ | ⟨f, hdecode, -, hf⟩ | ⟨e, hdecode, he⟩
  · -- a name is matched by an entry or missed
    cases hm : (Matcher.ofCatalog built).classify c d.name with
    | some m => exact build_cases_of_matched hbuilt.valid hc.valid hdecode hm
    | none =>
      refine .inr (.inl ⟨.miss d.name, ?_, trivial⟩)
      rw [build, recognise, hdecode]
      simp only [hm]
  · exact .inr (.inl ⟨.decode f, build_of_failed hdecode, hf⟩)
  · refine .inr (.inr ⟨e, ?_, .overlong he⟩)
    rw [build, recognise, hdecode]

/-- **The pipeline.** Whatever was loaded before and after the registry was made, the call of a
    symbol is described, or the symbol is none and the failure says why, or a number is too long.
    No check of a shape or of a description ever fails. -/
theorem Registry.pipeline_cases {built c : Catalog} (hbuilt : built.Loaded) (hc : c.Loaded)
    {r : Registry} (hr : r.matcher = .ofCatalog built) (symbol : Text) :
    (∃ info, r.pipeline c symbol = .ok (info, none) ∧
      Describes r.matcher c r.widths symbol info) ∨
    (∃ f, r.pipeline c symbol = .ok (.invalid, some f) ∧ f.Presentable) ∨
    ∃ e, r.pipeline c symbol = .error (.number e) ∧ Limit built.tokens symbol e ∧ e.IsLimit := by
  rcases build_cases hbuilt hc r.widths symbol with
    ⟨info, hbuild, hinfo⟩ | ⟨f, hbuild, hf⟩ | ⟨e, hbuild, he⟩
  · exact .inl ⟨info, by rw [pipeline, hr, hbuild], hr ▸ hinfo⟩
  · exact .inr (.inl ⟨f, by rw [pipeline, hr, hbuild], hf⟩)
  · exact .inr (.inr ⟨e, by rw [pipeline, hr, hbuild], he, he.isLimit⟩)

/-- A conversion to a vector of sixteen numbers is described with its result. -/
theorem pipeline_conversions :
    let r := Registry.ofCatalog 0 conversions [2, 16]
    let symbol : Text := "_Z21convert_int16_sat_rteDv16_f"
    ∃ info, r.pipeline conversions symbol = .ok (info, none) ∧
      Describes r.matcher conversions r.widths symbol info ∧
      info.category = .convert ∧ info.returnType = { Scalar.int.type with width := 16 } := by
  intro r symbol
  have hbuild : r.pipeline conversions symbol = .ok
      (⟨true, .convert, "convert_int16_sat_rte", { Scalar.int.type with width := 16 },
        [{ Scalar.float.type with width := 16 }], conversionMatch.variant⟩, none) := by
    show build (.ofCatalog conversions) conversions [2, 16] symbol = _
    rw [Matcher.ofCatalog_conversions]
    decide +kernel
  rcases Registry.pipeline_cases loaded_conversions loaded_conversions (r := r) rfl symbol with
    ⟨info, hinfo, hdescribes⟩ | ⟨f, hfailure, -⟩ | ⟨e, hfault, -⟩
  · refine ⟨info, hinfo, hdescribes, ?_⟩
    rw [hbuild] at hinfo
    cases hinfo
    exact ⟨rfl, rfl⟩
  · rw [hbuild] at hfailure
    cases hfailure
  · rw [hbuild] at hfault
    cases hfault

end KernelCalls
