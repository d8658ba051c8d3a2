import KernelCalls.Proofs.Catalog.Invariant
import KernelCalls.Proofs.Datum

namespace KernelCalls

open Outcome

/-!
# Loads that report what is wrong

What is wrong with data is reported as a problem of its source, unless the data holds a value that
stops the load in another way: an integer that is too long to be written, a width that is neither a
number nor a text, or a field without elements where several are listed.

* `Catalog.Reported` : if there is an error, it is a problem of the data.
* `Datum.Numberlike`, `Datum.Iterable`, `Catalog.Plain` : data without such values.
* `reported_parseTokens`, `reported_parseRecord` : wrong tokens and wrong records are reported.
* `load_ok_or_problem` : a load of plain data succeeds or reports a problem.
-/

namespace Datum

/-- The value is taken for a number, or refused as one that spells none. -/
def Numberlike : Datum → Prop
  | .null | .bool _ | .int _ | .text _ => True
  | .float f => f.isInf = false
  | _ => False

/-- The value can be gone through. -/
def Iterable (d : Datum) : Prop := ∃ items, d.elements = .ok items

/-- What is met when a writable value is gone through is writable. -/
theorem Writable.elements {d : Datum} (h : d.Writable) {items : List Datum}
    (hitems : d.elements = .ok items) : ∀ e ∈ items, e.Writable := by
  intro e he
  cases d with
  | list all =>
    cases hitems
    exact h.item he
  | map pairs =>
    cases hitems
    obtain ⟨p, hp, rfl⟩ := List.mem_map.mp he
    exact h.key hp
  | text t =>
    cases hitems
    obtain ⟨c, -, rfl⟩ := List.mem_map.mp he
    exact writable_text _
  | _ => cases hitems

/-- What is found under a name is the value of some pair. -/
theorem exists_mem_of_lookup? {name : Text} {pairs : List (Key × Datum)} {d : Datum}
    (h : lookup? name pairs = some d) : ∃ k, (k, d) ∈ pairs := by
  obtain ⟨p, hp, rfl⟩ := Option.map_eq_some_iff.mp h
  exact ⟨p.1, List.mem_of_find?_eq_some hp⟩

end Datum

namespace Catalog

variable {α β : Type}

/-- If there is an error, it is a problem of the data. -/
def Reported (x : Except Issue α) : Prop := ∀ issue, x = .error issue → ∃ p, issue = .problem p

/-! ### Composed results -/

theorem reported_ok (a : α) : Reported (.ok a) := by
  intro issue h
  cases h

theorem reported_problem (p : Problem) : Reported (.error (.problem p) : Except Issue α) := by
  intro issue h
  cases h
  exact ⟨p, rfl⟩

/-- The error of one result is reported as well where it is the error of another. -/
theorem Reported.error {x : Except Issue α} {e : Issue} (hx : Reported x) (h : x = .error e) :
    Reported (.error e : Except Issue β) := by
  intro issue hissue
  cases hissue
  exact hx e h

/-- Steps report if the first does, and the second on whatever the first gives. -/
theorem Reported.bind {x : Except Issue α} {f : α → Except Issue β} (hx : Reported x)
    (hf : ∀ a, x = .ok a → Reported (f a)) : Reported (x.bind f) := by
  cases x with
  | error e => exact hx.error rfl
  | ok a => exact hf a rfl

/-- A function on what is read adds nothing to report. -/
theorem Reported.map {x : Except Issue α} {f : α → β} (hx : Reported x) : Reported (x.map f) := by
  cases x with
  | error e => exact hx.error rfl
  | ok a => exact reported_ok (f a)

/-- Steps over a list report if each of them does. -/
theorem reported_mapM {f : α → Except Issue β} {items : List α}
    (h : ∀ a ∈ items, Reported (f a)) : Reported (items.mapM f) := by
  -- the first error is that of the first item which fails
  induction items with
  | nil => exact reported_ok []
  | cons a rest ih =>
    rw [List.mapM_cons]
    refine (h a List.mem_cons_self).bind fun b _ => ?_
    exact (ih fun a ha => h a (List.mem_cons_of_mem _ ha)).bind fun bs _ => reported_ok (b :: bs)

/-- What a field holds is a value of the mapping. -/
theorem writable_of_given? {name : Text} {pairs : List (Key × Datum)} {d : Datum}
    (h : (Datum.map pairs).Writable) (hd : given? name pairs = some d) : d.Writable := by
  obtain ⟨hlookup, -⟩ := Option.filter_eq_some_iff.mp hd
  obtain ⟨k, hk⟩ := Datum.exists_mem_of_lookup? hlookup
  exact h.value hk

/-- Only a value without a text stops a text from being read. -/
theorem reported_textOf {d : Datum} (h : d.Writable) : Reported (textOf d) := by
  obtain ⟨text, htext⟩ := Datum.exists_bare h
  rw [textOf, htext]
  exact reported_ok text

/-! ### Suffix tokens -/

/-- Where a text spells no number, it says so or says that it is too long. -/
theorem readInt_error {t : Text} {e : Text.NumberError} (h : Text.readInt t = .error e) :
    e = .notNumeral 10 t ∨ ∃ n, e = .tooLongToRead n := by
  unfold Text.readInt at h
  dsimp only at h
  split at h
  · cases h
    exact .inl rfl
  · split at h
    · cases h
      exact .inr ⟨_, rfl⟩
    · split at h <;> cases h
      exact .inl rfl

/-- A number or a text is refused for what it says, not for its kind or as an infinity. -/
theorem toInt_error {d : Datum} (h : d.Numberlike) (hnull : d ≠ .null) {e : Text.NumberError}
    (he : d.toInt = .error e) :
    e = .undefined ∨ ∃ t, e = .notNumeral 10 t ∨ ∃ n, e = .tooLongToRead n := by
  cases d with
  | float f =>
    rw [Datum.toInt] at he
    split at he
    · cases he
      exact .inl rfl
    · -- an infinity was excluded, so only what is no number is left
      rw [if_neg (by simp [show f.isInf = false from h])] at he
      cases he
  | text t => exact .inr ⟨t, readInt_error he⟩
  | null => exact absurd rfl hnull
  | bool b => cases he
  | int i => cases he
  | _ => cases h

/-- Lanes that are like numbers are read, or their problem is reported. -/
theorem reported_readLanes {token : Text} {value : Datum} (h : value.Numberlike) :
    Reported (readLanes token value) := by
  unfold readLanes
  extract_lets given
  -- where no number is given, the token itself has to spell one
  have hgiven : given.Numberlike ∧ given ≠ .null := by
    cases value with
    | null => exact ⟨trivial, by simp [given]⟩
    | _ => exact ⟨h, by simp [given]⟩
  cases hint : given.toInt with
  | ok n => exact reported_ok _
  | error e =>
    rcases toInt_error hgiven.1 hgiven.2 hint with rfl | ⟨t, rfl | ⟨n, rfl⟩⟩
    all_goals exact reported_problem _

/-- So is the value of a token, which only for widths is a number. -/
theorem reported_readToken {family : SuffixFamily} {token : Text} {value : Datum}
    (h : family = .width → value.Numberlike) : Reported (readToken family token value) := by
  cases family with
  | width => exact reported_readLanes (h rfl)
  | saturation => exact reported_ok _
  | format | rounding =>
    rw [readToken]
    split
    · exact reported_ok _
    · exact reported_problem _

/-- So are all tokens of a family. -/
theorem reported_readTokens {family : SuffixFamily} {pairs : List (Datum × Datum)}
    {read : Table Text SuffixValue} (hkeys : ∀ p ∈ pairs, p.1.Writable)
    (hvalues : family = .width → ∀ p ∈ pairs, p.2.Numberlike) :
    Reported (readTokens family pairs read) := by
  -- pair by pair, for any tokens that were read before
  induction pairs generalizing read with
  | nil => exact reported_ok read
  | cons p rest ih =>
    obtain ⟨key, value⟩ := p
    rw [readTokens_cons]
    refine (reported_textOf (hkeys _ List.mem_cons_self)).bind fun token _ => ?_
    split
    · exact reported_problem _
    · refine (reported_readToken fun hw => hvalues hw _ List.mem_cons_self).bind fun v _ => ?_
      exact ih (fun p hp => hkeys p (List.mem_cons_of_mem _ hp))
        fun hw p hp => hvalues hw p (List.mem_cons_of_mem _ hp)

/-- Tokens that are not good are reported if the values of widths are numbers or texts. -/
theorem reported_parseTokens {family : SuffixFamily} {tokens : Datum} (hw : tokens.Writable)
    (hwidth : family = .width → ∀ pairs, tokens = .map pairs → ∀ p ∈ pairs, p.2.Numberlike) :
    Reported (parseTokens family tokens) := by
  unfold parseTokens
  split
  · next items =>
    refine (reported_mapM fun d hd => reported_textOf (hw.item hd)).bind fun names _ => ?_
    -- tokens without values are texts and stand for themselves
    refine reported_readTokens (fun p hp => ?_) fun _ p hp => ?_
    · obtain ⟨q, -, rfl⟩ := List.mem_map.mp hp
      exact Datum.writable_text _
    · obtain ⟨q, -, rfl⟩ := List.mem_map.mp hp
      trivial
  · next pairs =>
    refine reported_readTokens (fun p hp => ?_) fun hf p hp => ?_
    · obtain ⟨q, hq, rfl⟩ := List.mem_map.mp hp
      exact hw.key hq
    · obtain ⟨q, hq, rfl⟩ := List.mem_map.mp hp
      exact hwidth hf pairs rfl q hq
  · exact reported_problem _

/-! ### Records -/

/-- A category is read or reported, whatever the data is. -/
theorem reported_parseCategory (stem : Text) (d : Datum) : Reported (parseCategory stem d) := by
  unfold parseCategory
  split
  · exact reported_problem _
  · exact reported_problem _
  · exact reported_ok _

/-- So is the category of calls with a sampler. -/
theorem reported_parseSampled (stem : Text) (pairs : List (Key × Datum)) :
    Reported (parseSampled stem pairs) := by
  unfold parseSampled
  split
  · exact reported_ok _
  · exact reported_ok _
  · exact (reported_parseCategory stem _).map

/-- A slot that can be written is read or reported. -/
theorem reported_parseSlot {stem : Text} {d : Datum} (h : d.Writable) :
    Reported (parseSlot stem d) := by
  obtain ⟨text, htext⟩ := Datum.exists_written d h
  unfold parseSlot
  -- the slot is named by a text, or its text stands in the problem
  split
  · split
    · exact reported_ok _
    · exact reported_problem _
  · rw [htext]
    exact reported_problem _

/-- A field that can be gone through, if it is there, is listed. -/
theorem reported_listed {name : Text} {pairs : List (Key × Datum)}
    (h : ∀ d, given? name pairs = some d → d.Iterable) : Reported (listed name pairs) := by
  unfold listed
  cases hgiven : given? name pairs with
  | none => exact reported_ok _
  | some d =>
    obtain ⟨items, hitems⟩ := h d hgiven
    dsimp only
    rw [hitems]
    exact reported_ok items

/-- What a record lists can be written, as the record can. -/
theorem writable_of_listed {name : Text} {pairs : List (Key × Datum)} {items : List Datum}
    (h : (Datum.map pairs).Writable) (hitems : listed name pairs = .ok items) :
    ∀ d ∈ items, d.Writable := by
  unfold listed at hitems
  cases hgiven : given? name pairs with
  | none =>
    rw [hgiven] at hitems
    cases hitems
    simp
  | some d =>
    rw [hgiven] at hitems
    dsimp only at hitems
    cases helements : d.elements with
    | error e =>
      rw [helements] at hitems
      cases hitems
    | ok all =>
      rw [helements] at hitems
      cases hitems
      exact (writable_of_given? h hgiven).elements helements

/-- Slots are read or reported as long as they can be gone through. -/
theorem reported_parseSlots {stem : Text} {pairs : List (Key × Datum)}
    (h : (Datum.map pairs).Writable)
    (hlisted : ∀ d, given? "suffixes" pairs = some d → d.Iterable) :
    Reported (parseSlots stem pairs) := by
  rw [parseSlots_eq]
  -- first what is listed, then the slots that are named, and last that none is named twice
  refine Reported.bind ?_ fun names hnames => ?_
  · split
    · exact reported_ok _
    · exact reported_listed hlisted
  · have hwritable : ∀ d ∈ names, d.Writable := by
      split at hnames
      · cases hnames
        intro d hd
        rw [List.mem_singleton.mp hd]
        exact Datum.writable_text _
      · exact writable_of_listed h hnames
    refine (reported_mapM fun d hd => reported_parseSlot (hwritable d hd)).bind fun slots _ => ?_
    split
    · exact reported_ok _
    · exact reported_problem _

/-- The fields of a value can be written, as the value can. -/
theorem writable_fieldsOf {d : Datum} (h : d.Writable) : (Datum.map (fieldsOf d)).Writable := by
  cases d with
  | map pairs => exact h
  | text s =>
    refine Datum.writable_map fun p hp => ?_
    rw [List.mem_singleton.mp hp]
    exact ⟨Datum.writable_text _, Datum.writable_text s⟩
  | _ => exact Datum.writable_map (by simp [fieldsOf])

/-- A record is read or reported if what it lists can be gone through. -/
theorem reported_parseRecord {stem : Text} {d : Datum} (h : d.Writable)
    (hslots : ∀ e, given? "suffixes" (fieldsOf d) = some e → e.Iterable)
    (haliases : ∀ e, given? "aliases" (fieldsOf d) = some e → e.Iterable) :
    Reported (parseRecord stem d) := by
  have hfields := writable_fieldsOf h
  rw [parseRecord_eq]
  split
  · exact reported_problem _
  · -- the fields in the order in which they are read
    refine (reported_parseSlots hfields hslots).bind fun suffixes _ => ?_
    refine (reported_parseCategory stem _).bind fun category _ => ?_
    refine (reported_parseSampled stem _).bind fun sampled _ => ?_
    refine (reported_listed haliases).bind fun items hitems => ?_
    have haliases := writable_of_listed hfields hitems
    exact (reported_mapM fun d hd => reported_textOf (haliases d hd)).bind
      fun aliases _ => reported_ok _

/-! ### Whole catalogs -/

/-- Nothing in a mapping stops its load but problems that are reported: all integers can be written,
    the tokens of widths have numbers or texts for values, and slots and aliases can be gone
    through. -/
structure Plain (pairs : List (Key × Datum)) : Prop where
  writable : (Datum.map pairs).Writable
  widths : ∀ families tokens, given? "suffixes" pairs = some (.map families) →
    (Key.text "width", Datum.map tokens) ∈ families → ∀ p ∈ tokens, p.2.Numberlike
  listed : ∀ records, given? "builtins" pairs = some (.map records) → ∀ p ∈ records,
    ∀ name ∈ (["suffixes", "aliases"] : List Text), ∀ d, given? name (fieldsOf p.2) = some d →
      d.Iterable

/-- A clash is reported. -/
theorem reported_store (entries : List (Text × Entry)) (c : Catalog) :
    Reported (store entries c).2 := by
  induction entries generalizing c with
  | nil => exact reported_ok ()
  | cons p rest ih =>
    rw [store]
    split
    · exact reported_problem _
    · exact ih _

/-- The tokens of a family are those under its name. -/
theorem reported_loadFamilies {families : List (Key × Datum)} (c : Catalog)
    (hw : (Datum.map families).Writable)
    (hwidth : ∀ tokens, (Key.text "width", Datum.map tokens) ∈ families →
      ∀ p ∈ tokens, p.2.Numberlike) : Reported (loadFamilies families c).2 := by
  induction families generalizing c with
  | nil => exact reported_ok ()
  | cons p rest ih =>
    obtain ⟨key, tokens⟩ := p
    unfold loadFamilies
    extract_lets family
    -- a key is the family that it names; widths come under their name alone
    have hfamily : Reported family ∧ (family = .ok .width → key = .text "width") := by
      cases key with
      | text s =>
        dsimp only [family]
        split
        · next f hf =>
          refine ⟨reported_ok _, fun hwidth => ?_⟩
          cases hwidth
          rw [eq_name_of_ofName? hf]
          rfl
        · exact ⟨reported_problem _, nofun⟩
      | _ =>
        obtain ⟨text, htext⟩ := Datum.exists_keyWritten (hw.key List.mem_cons_self)
        dsimp only [family]
        rw [htext]
        exact ⟨reported_problem _, nofun⟩
    cases hf : family with
    | error e => exact hfamily.1.error hf
    | ok f =>
      -- a family of widths has numbers or texts, by what is known of the data
      have htokens : Reported (parseTokens f tokens) := by
        refine reported_parseTokens (hw.value List.mem_cons_self) fun hfw pairs hpairs => ?_
        rw [hfw] at hf
        rw [hfamily.2 hf, hpairs] at hwidth
        exact hwidth pairs List.mem_cons_self
      dsimp only
      cases hread : parseTokens f tokens with
      | error e => exact htokens.error hread
      | ok read =>
        exact ih _ hw.tail fun tokens htokens => hwidth tokens (List.mem_cons_of_mem _ htokens)

/-- Records are loaded or reported as long as what they list can be gone through. -/
theorem reported_loadRecords {records : List (Key × Datum)} (c : Catalog)
    (hw : (Datum.map records).Writable)
    (hlisted : ∀ p ∈ records, ∀ name ∈ (["suffixes", "aliases"] : List Text),
      ∀ d, given? name (fieldsOf p.2) = some d → d.Iterable) :
    Reported (loadRecords records c).2 := by
  induction records generalizing c with
  | nil => exact reported_ok ()
  | cons p rest ih =>
    obtain ⟨key, record⟩ := p
    -- reading the first record reports, and so does storing its entries
    have hrecord : Reported ((textOf key.toDatum).bind fun stem => parseRecord stem record) := by
      refine (reported_textOf (hw.key List.mem_cons_self)).bind fun stem _ => ?_
      have hfields := hlisted _ List.mem_cons_self
      exact reported_parseRecord (hw.value List.mem_cons_self)
        (hfields "suffixes" (by simp)) (hfields "aliases" (by simp))
    unfold loadRecords
    dsimp only
    split
    · next e he => exact hrecord.error he
    · next entries _ =>
      have hstore := reported_store entries c
      split
      · next c' e he =>
        rw [he] at hstore
        exact hstore
      · exact ih _ hw.tail fun p hp => hlisted p (List.mem_cons_of_mem _ hp)

/-- A section that is no mapping is reported. -/
theorem reported_section {name : Text} {pairs : List (Key × Datum)} {problem : Problem} :
    Reported (section? name pairs problem) := by
  unfold section?
  split
  · exact reported_ok _
  · exact reported_ok _
  · exact reported_problem _

/-- A section is a mapping of the data, or missing. -/
theorem section_eq_ok {name : Text} {pairs inner : List (Key × Datum)} {problem : Problem}
    (h : section? name pairs problem = .ok inner) :
    inner = [] ∨ given? name pairs = some (.map inner) := by
  unfold section? at h
  split at h
  · cases h
    exact .inl rfl
  · next hgiven =>
    cases h
    exact .inr hgiven
  · cases h

/-- A version that can be written is read. -/
theorem reported_parseVersion {pairs : List (Key × Datum)} (h : (Datum.map pairs).Writable) :
    Reported (parseVersion pairs) := by
  unfold parseVersion
  split
  · exact reported_ok _
  · exact reported_ok _
  · next d _ hd =>
    obtain ⟨k, hk⟩ := Datum.exists_mem_of_lookup? hd
    exact (reported_textOf (h.value hk)).map

/-- So data without the values above is loaded or reported. -/
theorem reported_loadMapping {pairs : List (Key × Datum)} (h : Plain pairs) (c : Catalog) :
    Reported (loadMapping pairs c).2 := by
  unfold loadMapping
  split
  · next e he => exact (reported_parseVersion h.writable).error he
  · next version _ =>
    dsimp only
    split
    · next e he => exact reported_section.error he
    · next families hfamilies =>
      -- a section that is missing has nothing in it that could fail
      have hload : Reported (loadFamilies families { c with version }).2 := by
        rcases section_eq_ok hfamilies with rfl | hgiven
        · exact reported_ok ()
        · exact reported_loadFamilies _ (writable_of_given? h.writable hgiven)
            fun tokens => h.widths families tokens hgiven
      split
      · next c' e he =>
        rw [he] at hload
        exact hload
      · split
        · next e he => exact reported_section.error he
        · next records hrecords =>
          rcases section_eq_ok hrecords with rfl | hgiven
          · exact reported_ok ()
          · exact reported_loadRecords _ (writable_of_given? h.writable hgiven)
              (h.listed records hgiven)

/-- **Plain data.** A load of data without values that stop it otherwise succeeds, or reports a
    problem of its source. -/
theorem load_ok_or_problem {data : Datum} (h : ∀ pairs, data = .map pairs → Plain pairs)
    (c : Catalog) (source : Text) :
    (c.load data source).2 = .ok () ∨
      ∃ p, (c.load data source).2 = .error ⟨source, .problem p⟩ := by
  cases data with
  | map pairs =>
    have hload := reported_loadMapping (h pairs rfl) c
    unfold load
    dsimp only
    cases hresult : (loadMapping pairs c).2 with
    | ok u => exact .inl rfl
    | error e =>
      obtain ⟨p, rfl⟩ := hload e hresult
      exact .inr ⟨p, rfl⟩
  | _ => exact .inr ⟨.notMapping, rfl⟩

end Catalog

end KernelCalls
