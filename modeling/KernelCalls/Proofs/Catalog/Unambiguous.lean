import KernelCalls.Catalog.Bundled
import KernelCalls.Proofs.Catalog.Classification

namespace KernelCalls

/-!
# Catalogs with unambiguous tokens

The search for a match never goes back: a slot keeps the token that it has taken, and a slot that
can take a token is not passed over.  Where no token is a proper prefix of another one this loses
nothing.  At every place of a tail there is one text that can be taken; the first slot that has it
takes it, and the slots behind can still take what is left.

* `TokenTable.Unambiguous` : no token is a proper prefix of another one.
* `Decomposes` : a stem, and tokens for some of its slots, however they are chosen.
* `TokenTable.Unambiguous.exists_consumes` : the exchange argument, slot by slot.
* `Matcher.classify_of_unambiguous` : a name has a match if it has a decomposition.
-/

/-- No token is a proper prefix of a token of the same or another family. -/
def TokenTable.Unambiguous (tokens : TokenTable) : Prop :=
  ∀ family other, ∀ p ∈ tokens.get family, ∀ q ∈ tokens.get other, p.1 <+: q.1 → p.1 = q.1

/-- The catalog that comes with the program is unambiguous. -/
theorem Catalog.bundled_unambiguous : Catalog.bundled.tokens.Unambiguous := by
  intro family other
  cases family <;> cases other <;> decide

/-- A stem of the catalog with a tail that is made up of tokens for some slots of the entry, at
    least one, in their order. -/
structure Decomposes (c : Catalog) (stem tail : Text) (entry : Entry) (taken : List SuffixToken) :
    Prop where
  found : c.get? stem = some entry
  tail_ne_nil : tail ≠ []
  taken_ne_nil : taken ≠ []
  families : (taken.map (·.family)).Sublist entry.suffixes
  listed : ∀ t ∈ taken, (t.text, t.value) ∈ c.tokens.get t.family
  text : taken.flatMap (·.text) = tail

namespace TokenTable.Unambiguous

variable {tokens : TokenTable} {family other : SuffixFamily} {p q : Text × SuffixValue}
  {tail : Text}

/-- Tokens that a tail starts with have one text. -/
theorem eq_of_starts (h : tokens.Unambiguous) (hp : p ∈ tokens.get family)
    (hq : q ∈ tokens.get other) (hptail : p.1 <+: tail) (hqtail : q.1 <+: tail) : p.1 = q.1 := by
  rcases List.prefix_or_prefix_of_prefix hptail hqtail with hpq | hqp
  · exact h family other p hp q hq hpq
  · exact (h other family q hq p hp hqp).symm

/-- **Exchange.** If tokens for some of the slots make up a tail, then the slots also take the tail
    when each takes what it can. -/
theorem exists_consumes (h : tokens.Unambiguous)
    (hne : ∀ family, ∀ p ∈ tokens.get family, p.1 ≠ []) {slots : List SuffixFamily}
    {taken : List SuffixToken} (hfamilies : (taken.map (·.family)).Sublist slots)
    (hlisted : ∀ t ∈ taken, (t.text, t.value) ∈ tokens.get t.family) :
    ∃ taken', Consumes tokens slots (taken.flatMap (·.text)) taken' [] := by
  -- induction on the slots, for all tokens that fill some of them
  induction slots generalizing taken with
  | nil =>
    have hnil : taken = [] := by simpa using hfamilies
    subst hnil
    exact ⟨[], .done⟩
  | cons family slots ih =>
    cases taken with
    | nil =>
      -- nothing is left, and no token is empty
      have hempty : (([] : List SuffixToken).map (·.family)).Sublist slots := List.nil_sublist slots
      obtain ⟨taken', hconsumes⟩ := ih hempty hlisted
      have habsent : ∀ p ∈ tokens.get family, ¬ p.1 <+: [] := by
        intro p hp hstarts
        exact hne family p hp (List.prefix_nil.mp hstarts)
      exact ⟨taken', .skip habsent hconsumes⟩
    | cons t rest =>
      obtain ⟨ht, hrest⟩ := List.forall_mem_cons.mp hlisted
      have hstarts : t.text <+: (t :: rest).flatMap (·.text) := by
        rw [List.flatMap_cons]
        exact List.prefix_append _ _
      by_cases hhas : ∃ value, (t.text, value) ∈ tokens.get family
      · -- the slot takes the text, whichever slot it was meant for
        obtain ⟨value, hvalue⟩ := hhas
        -- the tokens behind fill slots behind, also where this one was meant for a later slot
        have hbehind : (rest.map (·.family)).Sublist slots := by
          rw [List.map_cons] at hfamilies
          rcases List.cons_sublist_cons'.mp hfamilies with hlater | ⟨-, hbehind⟩
          · exact (List.sublist_cons_self _ _).trans hlater
          · exact hbehind
        obtain ⟨taken', hconsumes⟩ := ih hbehind hrest
        have hlongest : IsLongest (tokens.get family) ((t :: rest).flatMap (·.text)) t.text
            value := by
          refine ⟨hvalue, hstarts, fun p hp hp' => ?_⟩
          have heq : p.1 = t.text := h.eq_of_starts hp hvalue hp' hstarts
          exact Nat.le_of_eq (congrArg List.length heq)
        rw [List.flatMap_cons] at hlongest ⊢
        exact ⟨_, .take hlongest hconsumes⟩
      · -- no other token can stand here, so the slot is passed over
        have habsent : ∀ p ∈ tokens.get family, ¬ p.1 <+: (t :: rest).flatMap (·.text) := by
          intro p hp hp'
          have heq : p.1 = t.text := h.eq_of_starts hp ht hp' hstarts
          exact hhas ⟨p.2, heq ▸ hp⟩
        have hlater : ((t :: rest).map (·.family)).Sublist slots := by
          rw [List.map_cons] at hfamilies ⊢
          refine (List.cons_sublist_cons'.mp hfamilies).resolve_right ?_
          rintro ⟨heq, -⟩
          exact hhas ⟨t.value, heq ▸ ht⟩
        obtain ⟨taken', hconsumes⟩ := ih hlater hlisted
        exact ⟨taken', .skip habsent hconsumes⟩

end TokenTable.Unambiguous

/-! ### Stems -/

variable {c : Catalog} {stem tail : Text} {entry : Entry} {taken : List SuffixToken}

/-- What a search takes is a decomposition. -/
theorem Splits.decomposes (h : Splits c stem tail entry taken) :
    Decomposes c stem tail entry taken where
  found := h.found
  tail_ne_nil := h.tail_ne_nil
  taken_ne_nil := h.taken_ne_nil
  families := h.consumed.families
  listed := h.consumed.listed
  text := by
    have htext := h.consumed.text_eq
    rwa [List.append_nil] at htext

/-- Where a stem has a decomposition, a search takes one. -/
theorem Decomposes.exists_splits (hvalid : c.Valid) (hun : c.tokens.Unambiguous) (hstem : stem ≠ [])
    (h : Decomposes c stem tail entry taken) : ∃ taken', Splits c stem tail entry taken' := by
  have hne : ∀ family, ∀ p ∈ c.tokens.get family, p.1 ≠ [] :=
    fun family => (hvalid.tokens family).ne_nil
  obtain ⟨taken', hconsumes⟩ := hun.exists_consumes hne h.families h.listed
  rw [h.text] at hconsumes
  -- a token that was taken needs a slot
  have hslots : entry.suffixes ≠ [] := by
    intro hnil
    have hfamilies := h.families
    rw [hnil, List.sublist_nil, List.map_eq_nil_iff] at hfamilies
    exact h.taken_ne_nil hfamilies
  -- the tail is not empty, so something is taken from it
  have htaken : taken' ≠ [] := by
    rintro rfl
    exact h.tail_ne_nil hconsumes.text_eq.symm
  exact ⟨taken', hstem, h.tail_ne_nil, h.found, hslots, hconsumes, htaken⟩

/-! ### Names -/

/-- **Completeness of the search.** In a catalog with unambiguous tokens, a name that is none by
    itself has a match if it is a stem and tokens for some of its slots, however these are chosen.
    The match has the longest such stem, and its tokens are such a choice. -/
theorem Matcher.classify_of_unambiguous (h : c.Loaded) (hun : c.tokens.Unambiguous) {name : Text}
    (hbare : ∀ e, c.get? name = some e → e.bare = false) :
    (((ofCatalog c).classify c name).isSome ↔ ∃ stem tail entry taken,
      stem ≠ [] ∧ name = stem ++ tail ∧ Decomposes c stem tail entry taken) ∧
    ∀ m, (ofCatalog c).classify c name = some m → ∃ tail,
      name = m.stem ++ tail ∧ Decomposes c m.stem tail m.entry m.tokens ∧
        ∀ stem' tail' entry' taken', stem' ≠ [] → name = stem' ++ tail' →
          Decomposes c stem' tail' entry' taken' → stem'.length ≤ m.stem.length := by
  have hclassified := classified_classify h.valid name
  generalize (ofCatalog c).classify c name = result at hclassified
  cases hclassified with
  | exact found bare =>
    rw [hbare _ found] at bare
    cases bare
  | @split stem tail entry taken _ name_eq splits longest =>
    refine ⟨?_, ?_⟩
    · have hdecomposes : ∃ stem tail entry taken,
          stem ≠ [] ∧ name = stem ++ tail ∧ Decomposes c stem tail entry taken :=
        ⟨stem, tail, entry, taken, splits.stem_ne_nil, name_eq, splits.decomposes⟩
      simpa using hdecomposes
    · rintro m ⟨⟩
      refine ⟨tail, name_eq, splits.decomposes, ?_⟩
      intro stem' tail' entry' taken' hstem' hname' hdecomposes
      -- the search takes every decomposition for a split, so its longest split is at least as long
      obtain ⟨taken'', hsplits⟩ := hdecomposes.exists_splits h.valid hun hstem'
      exact longest stem' tail' entry' taken'' hname' hsplits
  | miss _ absent =>
    refine ⟨?_, fun m hm => by cases hm⟩
    -- a decomposition would be a split, and the search has none
    have hnone : ¬ ∃ stem tail entry taken,
        stem ≠ [] ∧ name = stem ++ tail ∧ Decomposes c stem tail entry taken := by
      rintro ⟨stem, tail, entry, taken, hstem, hname, hdecomposes⟩
      obtain ⟨taken', hsplits⟩ := hdecomposes.exists_splits h.valid hun hstem
      exact absent stem tail entry taken' hname hsplits
    simpa using hnone

/-- Data of a write with slots for a width and a format, both of which know the token `2`. -/
def sharedTokenData : Datum :=
  let tokens := Datum.map [
    (.text "width", .list [.text "2", .text "16"]),
    (.text "format", .map [(.text "2", .text "Half"), (.text "ui", .text "UInt")])]
  let slots := Datum.list [.text "width", .text "format"]
  let record := Datum.map [(.text "category", .text "WRITE_IMAGE"), (.text "suffixes", slots)]
  .map [(.text "suffixes", tokens), (.text "builtins", .map [(.text "write", record)])]

/-- The catalog of that write. -/
def sharedToken : Catalog := (Catalog.empty.load sharedTokenData Catalog.dataSource).1

theorem sharedToken_eq : sharedToken = ⟨none,
    [("write", ⟨"write", .writeImage, [.width, .format], false, none⟩)],
    ⟨[("2", .lanes 2), ("16", .lanes 16)], [("2", .pixels .half), ("ui", .pixels .uint)],
      [], []⟩⟩ := by
  decide +kernel

/-- A name whose token may be meant for either slot has a match, although the format is not where
    the search finds it. -/
theorem Matcher.isSome_classify_sharedToken :
    let entry : Entry := ⟨"write", .writeImage, [.width, .format], false, none⟩
    let format : SuffixToken := ⟨.format, "2", .pixels .half⟩
    sharedToken.Loaded ∧ sharedToken.tokens.Unambiguous ∧ sharedToken.get? "write2" = none ∧
      Decomposes sharedToken "write" "2" entry [format] ∧
      ((ofCatalog sharedToken).classify sharedToken "write2").isSome := by
  intro entry format
  have hloaded : sharedToken.Loaded := .load .empty _ _
  have hunambiguous : sharedToken.tokens.Unambiguous := by
    rw [sharedToken_eq]
    intro family other
    cases family <;> cases other <;> decide
  have hnone : sharedToken.get? "write2" = none := by rw [sharedToken_eq]; decide
  have hbare : ∀ e, sharedToken.get? "write2" = some e → e.bare = false := by
    intro e he
    rw [hnone] at he
    cases he
  have hdecomposes : Decomposes sharedToken "write" "2" entry [format] := by
    rw [sharedToken_eq]
    constructor <;> decide
  obtain ⟨hiff, -⟩ := classify_of_unambiguous hloaded hunambiguous hbare
  refine ⟨hloaded, hunambiguous, hnone, hdecomposes, hiff.mpr ?_⟩
  exact ⟨"write", "2", entry, [format], by decide, by decide, hdecomposes⟩

/-- Data of a stem without a character. -/
def emptyStemData : Datum :=
  let record := Datum.map [(.text "category", .text "CONVERT"), (.text "suffixes", .text "width")]
  .map [(.text "suffixes", .map [(.text "width", .list [.text "2"])]),
    (.text "builtins", .map [(.text "", record)])]

/-- The catalog of that stem. -/
def emptyStem : Catalog := (Catalog.empty.load emptyStemData Catalog.dataSource).1

/-- An empty stem is never tried, so a name that is one token has no match although it is that stem
    and a tail. -/
theorem Matcher.classify_emptyStem :
    emptyStem.Loaded ∧ emptyStem.tokens.Unambiguous ∧
      (∀ e, emptyStem.get? "2" = some e → e.bare = false) ∧
      (∃ stem tail entry taken, ("2" : Text) = stem ++ tail ∧
        Decomposes emptyStem stem tail entry taken) ∧
      (ofCatalog emptyStem).classify emptyStem "2" = none := by
  have hcatalog : emptyStem = ⟨none, [("", ⟨"", .convert, [.width], false, none⟩)],
      ⟨[("2", .lanes 2)], [], [], []⟩⟩ := by decide +kernel
  refine ⟨.load .empty _ _, ?_⟩
  rw [hcatalog]
  refine ⟨?_, ?_, ?_, rfl⟩
  · intro family other
    cases family <;> cases other <;> decide
  · intro e he
    cases he
  · refine ⟨"", "2", ⟨"", .convert, [.width], false, none⟩, [⟨.width, "2", .lanes 2⟩], rfl, ?_⟩
    constructor <;> decide

end KernelCalls
