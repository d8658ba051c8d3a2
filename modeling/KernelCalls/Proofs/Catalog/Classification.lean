import KernelCalls.Catalog.Matcher
import KernelCalls.Proofs.Catalog.Invariant

namespace KernelCalls

/-!
# What a name is matched by

The match of a name without the bounds and the sorting of the search.  A slot takes the longest
token that the tail starts with and is skipped only if there is none; among all stems whose slots
take the rest of the name, the longest wins; and a name that is a stem by itself needs no slots.

* `IsLongest`, `Consumes` : one slot, and all of them.
* `Splits`, `Classified` : a stem with its tokens, and the match of a name.
* `Match.Reassembles` : a match put together again.
* `Matcher.classify_iff_classified` : the search finds this match.
-/

/-! ### The match of a name -/

/-- The longest token that a tail starts with. -/
structure IsLongest (tokens : Table Text SuffixValue) (tail text : Text) (value : SuffixValue) :
    Prop where
  mem : (text, value) ∈ tokens
  starts : text <+: tail
  longest : ∀ p ∈ tokens, p.1 <+: tail → p.1.length ≤ text.length

/-- Slots take tokens from the front of a tail in order and leave a rest.  A slot stays empty only
    if none of its tokens is there. -/
inductive Consumes (tokens : TokenTable) :
    List SuffixFamily → Text → List SuffixToken → Text → Prop where
  | done {tail : Text} : Consumes tokens [] tail [] tail
  | take {family : SuffixFamily} {slots : List SuffixFamily} {text tail rest : Text}
      {value : SuffixValue} {taken : List SuffixToken}
      (longest : IsLongest (tokens.get family) (text ++ tail) text value)
      (behind : Consumes tokens slots tail taken rest) :
      Consumes tokens (family :: slots) (text ++ tail) (⟨family, text, value⟩ :: taken) rest
  | skip {family : SuffixFamily} {slots : List SuffixFamily} {tail rest : Text}
      {taken : List SuffixToken} (absent : ∀ p ∈ tokens.get family, ¬ p.1 <+: tail)
      (behind : Consumes tokens slots tail taken rest) :
      Consumes tokens (family :: slots) tail taken rest

/-- A name is a stem with slots and a tail that the slots take as a whole, with at least one
    token. -/
structure Splits (c : Catalog) (stem tail : Text) (entry : Entry) (taken : List SuffixToken) :
    Prop where
  stem_ne_nil : stem ≠ []
  tail_ne_nil : tail ≠ []
  found : c.get? stem = some entry
  slots : entry.suffixes ≠ []
  consumed : Consumes c.tokens entry.suffixes tail taken []
  taken_ne_nil : taken ≠ []

/-- The match of a name, or none: the entry of the whole name if that is a name by itself, otherwise
    the longest stem that splits it. -/
inductive Classified (c : Catalog) (name : Text) : Option Match → Prop where
  | exact {entry : Entry} (found : c.get? name = some entry) (bare : entry.bare = true) :
      Classified c name (some ⟨entry, name, [], true⟩)
  | split {stem tail : Text} {entry : Entry} {taken : List SuffixToken}
      (notBare : ∀ e, c.get? name = some e → e.bare = false) (name_eq : name = stem ++ tail)
      (splits : Splits c stem tail entry taken)
      (longest : ∀ stem' tail' entry' taken', name = stem' ++ tail' →
        Splits c stem' tail' entry' taken' → stem'.length ≤ stem.length) :
      Classified c name (some ⟨entry, stem, taken, false⟩)
  | miss (notBare : ∀ e, c.get? name = some e → e.bare = false)
      (absent : ∀ stem tail entry taken, name = stem ++ tail → ¬ Splits c stem tail entry taken) :
      Classified c name none

/-- The stem and the texts of the tokens are the name, the tokens fill slots of the entry in order,
    they are tokens of their families, and the entry is the one of the stem. -/
structure Match.Reassembles (tokens : TokenTable) (c : Catalog) (name : Text) (m : Match) :
    Prop where
  text : m.stem ++ m.tokens.flatMap (·.text) = name
  families : (m.tokens.map (·.family)).Sublist m.entry.suffixes
  listed : ∀ t ∈ m.tokens, (t.text, t.value) ∈ tokens.get t.family
  found : c.get? m.stem = some m.entry

/-! ### One slot -/

/-- Two longest tokens of a tail are the same. -/
theorem IsLongest.unique {tokens : Table Text SuffixValue} {tail text text' : Text}
    {value value' : SuffixValue} (hdistinct : tokens.Distinct)
    (h : IsLongest tokens tail text value) (h' : IsLongest tokens tail text' value') :
    text = text' ∧ value = value' := by
  have hle := h'.longest _ h.mem h.starts
  have hge := h.longest _ h'.mem h'.starts
  obtain rfl : text = text' :=
    (List.prefix_of_prefix_length_le h.starts h'.starts hle).eq_of_length_le hge
  exact ⟨rfl, hdistinct.eq_of_mem h.mem h'.mem⟩

namespace Matcher

/-- Tokens in front are at least as long as those behind. -/
theorem pairwise_longestFirst (tokens : Table Text SuffixValue) :
    (longestFirst tokens).Pairwise fun p q => q.1.length ≤ p.1.length := by
  have hsorted :
      (longestFirst tokens).Pairwise fun p q => decide (q.1.length ≤ p.1.length) = true :=
    -- the order of lengths is transitive and total, which is all that sorting asks for
    List.pairwise_mergeSort
      (fun p q r hpq hqr => by
        simp only [decide_eq_true_eq] at *
        omega)
      (fun p q => by
        simp only [Bool.or_eq_true, decide_eq_true_eq]
        omega)
      tokens
  exact hsorted.imp of_decide_eq_true

/-- The first token of the sorted ones that a tail starts with is the longest. -/
theorem isLongest_of_find? {tokens : Table Text SuffixValue} {tail text : Text}
    {value : SuffixValue}
    (h : List.find? (fun t => t.1.isPrefixOf tail) (longestFirst tokens) = some (text, value)) :
    IsLongest tokens tail text value := by
  obtain ⟨hstarts, before, behind, hsplit, hbefore⟩ := List.find?_eq_some_iff_append.mp h
  have hsorted := pairwise_longestFirst tokens
  rw [hsplit, List.pairwise_append, List.pairwise_cons] at hsorted
  refine ⟨List.mem_mergeSort.mp (List.mem_of_find?_eq_some h), by simpa using hstarts, ?_⟩
  intro p hp hstarts'
  -- another such token cannot stand in front of the first one, and those behind are no longer
  have hmem : p ∈ longestFirst tokens := List.mem_mergeSort.mpr hp
  rw [hsplit, List.mem_append, List.mem_cons] at hmem
  rcases hmem with hmem | rfl | hmem
  · have hnot := hbefore p hmem
    simp only [Bool.not_eq_true', List.isPrefixOf_iff_prefix.mpr hstarts',
      Bool.true_eq_false] at hnot
  · exact Nat.le_refl _
  · exact hsorted.2.1.1 p hmem

/-- No token is found in a family only if none of them starts the tail. -/
theorem find?_longestFirst_eq_none {tokens : Table Text SuffixValue} {tail : Text} :
    List.find? (fun t => t.1.isPrefixOf tail) (longestFirst tokens) = none ↔
      ∀ p ∈ tokens, ¬ p.1 <+: tail := by
  simp [longestFirst]

/-! ### All slots -/

/-- What the matcher takes is what the slots take. -/
theorem consumes_consume (built : Catalog) (slots : List SuffixFamily) (tail : Text) :
    Consumes built.tokens slots tail ((ofCatalog built).consume slots tail).1
      ((ofCatalog built).consume slots tail).2 := by
  induction slots generalizing tail with
  | nil => exact .done
  | cons family slots ih =>
    have hget : (ofCatalog built).tokens.get family = longestFirst (built.tokens.get family) :=
      TokenTable.get_map _ _ _
    rw [consume, hget]
    -- the tail either starts with a token, and then the longest is found first, or with none
    split
    · next text value hfind =>
      have hlongest := isLongest_of_find? hfind
      obtain ⟨rest, rfl⟩ := hlongest.starts
      rw [List.drop_left]
      exact .take hlongest (ih rest)
    · next hfind => exact .skip (find?_longestFirst_eq_none.mp hfind) (ih tail)

end Matcher

/-- Slots take the same tokens from a tail every time. -/
theorem Consumes.unique {tokens : TokenTable} (hdistinct : ∀ family, (tokens.get family).Distinct)
    {slots : List SuffixFamily} {tail rest rest' : Text} {taken taken' : List SuffixToken}
    (h : Consumes tokens slots tail taken rest) (h' : Consumes tokens slots tail taken' rest') :
    taken = taken' ∧ rest = rest' := by
  -- induction on one of the two, slot by slot
  induction h generalizing taken' rest' with
  | done =>
    cases h'
    exact ⟨rfl, rfl⟩
  | @take family slots text tail rest value taken longest _ ih =>
    generalize hall : text ++ tail = whole at h' longest
    cases h' with
    | @take _ _ text' tail' _ value' taken' longest' behind' =>
      -- the longest token is the same one, and then so is the tail behind it
      obtain ⟨rfl, rfl⟩ := longest.unique (hdistinct family) longest'
      obtain rfl := List.append_cancel_left hall
      obtain ⟨rfl, rfl⟩ := ih behind'
      exact ⟨rfl, rfl⟩
    | skip absent => exact absurd longest.starts (absent _ longest.mem)
  | @skip family slots tail rest taken absent _ ih =>
    cases h' with
    | take longest' => exact absurd longest'.starts (absent _ longest'.mem)
    | skip _ behind' => exact ih behind'

/-- The tokens and the rest are the tail. -/
theorem Consumes.text_eq {tokens : TokenTable} {slots : List SuffixFamily} {tail rest : Text}
    {taken : List SuffixToken} (h : Consumes tokens slots tail taken rest) :
    taken.flatMap (·.text) ++ rest = tail := by
  induction h with
  | done => rfl
  | take _ _ ih => rw [List.flatMap_cons, List.append_assoc, ih]
  | skip _ _ ih => exact ih

/-- Tokens are taken in the order of the slots, at most one for each. -/
theorem Consumes.families {tokens : TokenTable} {slots : List SuffixFamily} {tail rest : Text}
    {taken : List SuffixToken} (h : Consumes tokens slots tail taken rest) :
    (taken.map (·.family)).Sublist slots := by
  induction h with
  | done => exact .slnil
  | take _ _ ih => exact ih.cons_cons _
  | skip _ _ ih => exact ih.cons _

/-- Only listed tokens are taken. -/
theorem Consumes.listed {tokens : TokenTable} {slots : List SuffixFamily} {tail rest : Text}
    {taken : List SuffixToken} (h : Consumes tokens slots tail taken rest) :
    ∀ t ∈ taken, (t.text, t.value) ∈ tokens.get t.family := by
  induction h with
  | done => simp
  | take longest _ ih => exact List.forall_mem_cons.mpr ⟨longest.mem, ih⟩
  | skip _ _ ih => exact ih

/-! ### One stem -/

namespace Matcher

/-- A tail is read if the slots take up all of it, and it is not empty. -/
theorem readTail_eq_some_iff {built : Catalog} (h : built.Valid) {entry : Entry} {tail : Text}
    {taken : List SuffixToken} :
    (ofCatalog built).readTail entry tail = some taken ↔
      Consumes built.tokens entry.suffixes tail taken [] ∧ taken ≠ [] := by
  have hconsumes := consumes_consume built entry.suffixes tail
  unfold readTail
  constructor
  · intro hread
    dsimp only at hread
    split_ifs at hread with hempty
    cases hread
    simp only [Bool.or_eq_true, not_or, List.isEmpty_iff, Bool.not_eq_true', Bool.not_eq_false]
      at hempty
    -- a tail is refused where something is left over or nothing was taken
    rw [hempty.2] at hconsumes
    exact ⟨hconsumes, hempty.1⟩
  · rintro ⟨htaken, hne⟩
    -- the matcher takes what the slots take, so it takes these tokens
    obtain ⟨h1, h2⟩ := hconsumes.unique (fun family => (h.tokens family).distinct) htaken
    simp [h1, h2, hne]

/-- A stem of a certain length matches a name if it splits the name. -/
theorem matchAt_eq_some_iff {built c : Catalog} (h : built.Valid) {name : Text} {n : Nat}
    {m : Match} :
    (ofCatalog built).matchAt c name n = some m ↔
      ∃ entry taken, c.get? (name.take n) = some entry ∧ entry.suffixes ≠ [] ∧
        Consumes built.tokens entry.suffixes (name.drop n) taken [] ∧ taken ≠ [] ∧
        m = ⟨entry, entry.stem, taken, false⟩ := by
  unfold matchAt
  cases hget : c.get? (name.take n) with
  | none => simp
  | some entry =>
    dsimp only
    split_ifs with hempty
    · simp_all
    · simp only [Option.map_eq_some_iff, readTail_eq_some_iff h]
      constructor
      · rintro ⟨taken, ⟨hconsumes, hne⟩, rfl⟩
        exact ⟨entry, taken, rfl, by simpa using hempty, hconsumes, hne, rfl⟩
      · rintro ⟨_, taken, heq, _, hconsumes, hne, rfl⟩
        cases heq
        exact ⟨taken, ⟨hconsumes, hne⟩, rfl⟩

/-! ### The longest stem -/

/-- The search up to a length finds the longest stem of at most that length. -/
theorem matchUpTo_eq_some {matcher : Matcher} {c : Catalog} {name : Text} {m : Match} {bound : Nat}
    (h : matcher.matchUpTo c name bound = some m) :
    ∃ n, 0 < n ∧ n ≤ bound ∧ matcher.matchAt c name n = some m ∧
      ∀ k, n < k → k ≤ bound → matcher.matchAt c name k = none := by
  -- induction on the bound, which is the length that is tried first
  induction bound with
  | zero => cases h
  | succ bound ih =>
    rw [matchUpTo] at h
    split at h
    · next found hfound =>
      cases h
      exact ⟨bound + 1, by omega, by omega, hfound, fun k hk hk' => by omega⟩
    · next hnone =>
      obtain ⟨n, hpos, hle, hat, hlonger⟩ := ih h
      -- the longest length that is still allowed has just been tried in vain
      refine ⟨n, hpos, by omega, hat, fun k hk hk' => ?_⟩
      rcases Nat.lt_or_ge bound k with hlt | hge
      · obtain rfl : k = bound + 1 := by omega
        exact hnone
      · exact hlonger k hk hge

/-- Where no match is found, no stem up to the bound has one. -/
theorem matchUpTo_eq_none {matcher : Matcher} {c : Catalog} {name : Text} {bound : Nat}
    (h : matcher.matchUpTo c name bound = none) :
    ∀ k, 0 < k → k ≤ bound → matcher.matchAt c name k = none := by
  induction bound with
  | zero =>
    intro k hk hk'
    omega
  | succ bound ih =>
    rw [matchUpTo] at h
    split at h
    · cases h
    · next hnone =>
      intro k hk hk'
      rcases Nat.lt_or_ge bound k with hlt | hge
      · obtain rfl : k = bound + 1 := by omega
        exact hnone
      · exact ih h k hk hge

/-- The greatest of some lengths is at least each of them. -/
theorem le_foldl_max (lengths : List Nat) (start : Nat) :
    start ≤ lengths.foldl max start ∧ ∀ n ∈ lengths, n ≤ lengths.foldl max start := by
  induction lengths generalizing start with
  | nil => simp
  | cons n rest ih =>
    obtain ⟨hstart, hrest⟩ := ih (max start n)
    refine ⟨Nat.le_trans (Nat.le_max_left _ _) hstart, ?_⟩
    exact List.forall_mem_cons.mpr ⟨Nat.le_trans (Nat.le_max_right _ _) hstart, hrest⟩

/-- No stem is longer than the longest one. -/
theorem length_le_longestStem {c : Catalog} {stem : Text} {entry : Entry}
    (h : c.get? stem = some entry) : stem.length ≤ (ofCatalog c).longestStem :=
  (le_foldl_max _ 0).2 _ (List.mem_map.mpr ⟨_, Table.mem_of_find? h, rfl⟩)

/-- A stem that splits a name is within the bounds of the search, and the search tries it. -/
theorem matchAt_of_splits {c : Catalog} (h : c.Valid) {stem tail : Text} {entry : Entry}
    {taken : List SuffixToken} (hs : Splits c stem tail entry taken) :
    (ofCatalog c).matchAt c (stem ++ tail) stem.length = some ⟨entry, stem, taken, false⟩ ∧
      0 < stem.length ∧
      stem.length ≤ min ((stem ++ tail).length - 1) (ofCatalog c).longestStem := by
  have hstem := List.length_pos_iff.mpr hs.stem_ne_nil
  have htail := List.length_pos_iff.mpr hs.tail_ne_nil
  have hlongest := length_le_longestStem hs.found
  refine ⟨?_, hstem, ?_⟩
  · rw [matchAt_eq_some_iff h, List.take_left, List.drop_left]
    exact ⟨entry, taken, hs.found, hs.slots, hs.consumed, hs.taken_ne_nil,
      by rw [(h.filed_of_get? hs.found).stem_eq]⟩
  · -- the tail has a character, and no stem of the catalog is longer than the bound
    rw [List.length_append]
    omega

/-- What the search finds at some length is a stem that splits the name. -/
theorem splits_of_matchAt {c : Catalog} (h : c.Valid) {name : Text} {n : Nat} {m : Match}
    (hat : (ofCatalog c).matchAt c name n = some m) (hpos : 0 < n) (hlt : n < name.length) :
    ∃ entry taken, Splits c (name.take n) (name.drop n) entry taken ∧
      m = ⟨entry, name.take n, taken, false⟩ := by
  obtain ⟨entry, taken, hfound, hslots, hconsumes, hne, rfl⟩ := (matchAt_eq_some_iff h).mp hat
  have hstem := (h.filed_of_get? hfound).stem_eq
  refine ⟨entry, taken, ⟨?_, ?_, hfound, hslots, hconsumes, hne⟩, by rw [hstem]⟩
  · rw [← List.length_pos_iff, List.length_take]
    omega
  · rw [← List.length_pos_iff, List.length_drop]
    omega

/-! ### Names -/

/-- No entry is found that stands for itself if the one that is found, if any, does not. -/
theorem filter_bare_eq_none_iff {found : Option Entry} :
    found.filter (·.bare) = none ↔ ∀ e, found = some e → e.bare = false := by
  cases found <;> simp

/-- The search finds the match of a name. -/
theorem classified_classify {c : Catalog} (h : c.Valid) (name : Text) :
    Classified c name ((ofCatalog c).classify c name) := by
  -- a name by itself comes first, and only then the search for a stem
  unfold classify
  split
  · next entry hfilter =>
    obtain ⟨hfound, hbare⟩ := Option.filter_eq_some_iff.mp hfilter
    exact .exact hfound hbare
  · next hfilter =>
    have hnotBare := filter_bare_eq_none_iff.mp hfilter
    cases hsearch : (ofCatalog c).matchUpTo c name
        (min (name.length - 1) (ofCatalog c).longestStem) with
    | none =>
      -- a stem that splits the name is within the bounds, so it would have been found
      have hnone := matchUpTo_eq_none hsearch
      refine .miss hnotBare fun stem tail entry taken hname hsplits => ?_
      subst hname
      obtain ⟨hat, hpos, hle⟩ := matchAt_of_splits h hsplits
      rw [hnone _ hpos hle] at hat
      cases hat
    | some m =>
      obtain ⟨n, hpos, hle, hat, hlonger⟩ := matchUpTo_eq_some hsearch
      obtain ⟨entry, taken, hsplits, rfl⟩ := splits_of_matchAt h hat hpos (by omega)
      refine .split hnotBare (List.take_append_drop n name).symm hsplits ?_
      intro stem' tail' entry' taken' hname hsplits'
      subst hname
      obtain ⟨hat', _, hle'⟩ := matchAt_of_splits h hsplits'
      have htake : ((stem' ++ tail').take n).length = n := by
        rw [List.length_take]
        omega
      -- a longer stem would have been found first
      by_contra hlt
      rw [hlonger _ (by omega) hle'] at hat'
      cases hat'

end Matcher

/-- Stems of one length split a name in one way. -/
theorem Splits.unique {c : Catalog} (h : c.Valid) {stem stem' tail tail' : Text}
    {entry entry' : Entry} {taken taken' : List SuffixToken} (hs : Splits c stem tail entry taken)
    (hs' : Splits c stem' tail' entry' taken') (heq : stem ++ tail = stem' ++ tail')
    (hlen : stem.length = stem'.length) : entry = entry' ∧ stem = stem' ∧ taken = taken' := by
  obtain ⟨rfl, rfl⟩ := List.append_inj heq hlen
  have hfound := hs.found
  rw [hs'.found] at hfound
  cases hfound
  have hdistinct := fun family => (h.tokens family).distinct
  exact ⟨rfl, rfl, (hs.consumed.unique hdistinct hs'.consumed).1⟩

/-- A name has one match. -/
theorem Classified.unique {c : Catalog} (h : c.Valid) {name : Text} {result result' : Option Match}
    (hr : Classified c name result) (hr' : Classified c name result') : result = result' := by
  -- the three kinds of match exclude each other, and two splits have stems of one length
  cases hr with
  | exact found bare =>
    cases hr' with
    | exact found' _ =>
      rw [found] at found'
      cases found'
      rfl
    | split notBare => exact absurd bare (by simp [notBare _ found])
    | miss notBare => exact absurd bare (by simp [notBare _ found])
  | split notBare name_eq splits longest =>
    cases hr' with
    | exact found bare => exact absurd bare (by simp [notBare _ found])
    | split _ name_eq' splits' longest' =>
      have hle := longest _ _ _ _ name_eq' splits'
      have hge := longest' _ _ _ _ name_eq splits
      obtain ⟨rfl, rfl, rfl⟩ :=
        splits.unique h splits' (name_eq ▸ name_eq') (Nat.le_antisymm hge hle)
      rfl
    | miss _ absent => exact absurd splits (absent _ _ _ _ name_eq)
  | miss notBare absent =>
    cases hr' with
    | exact found bare => exact absurd bare (by simp [notBare _ found])
    | split _ name_eq' splits' => exact absurd splits' (absent _ _ _ _ name_eq')
    | miss => rfl

/-- What a search finds is the name again, also when the entries have changed since the matcher was
    built. -/
theorem Matcher.reassembles_of_classify {built c : Catalog} (hbuilt : built.Valid) (hc : c.Valid)
    {name : Text} {m : Match} (h : (ofCatalog built).classify c name = some m) :
    m.Reassembles built.tokens c name := by
  unfold classify at h
  split at h
  · next entry hfilter =>
    cases h
    obtain ⟨hfound, -⟩ := Option.filter_eq_some_iff.mp hfilter
    exact ⟨by simp, by simp, by simp, hfound⟩
  · -- only the tokens are those of the older catalog; entries are looked up in the newer one
    obtain ⟨n, -, -, hat, -⟩ := matchUpTo_eq_some h
    obtain ⟨entry, taken, hfound, -, hconsumes, -, rfl⟩ := (matchAt_eq_some_iff hbuilt).mp hat
    have hstem := (hc.filed_of_get? hfound).stem_eq
    refine ⟨?_, hconsumes.families, hconsumes.listed, hstem ▸ hfound⟩
    have htail := hconsumes.text_eq
    rw [List.append_nil] at htail
    show entry.stem ++ taken.flatMap (·.text) = name
    rw [hstem, htail, List.take_append_drop]

/-- **Classification.** For every catalog that loads lead to, a search finds the match of a name and
    nothing else, and what is found can be put together again to the name. -/
theorem Matcher.classify_iff_classified {c : Catalog} (h : c.Loaded) (name : Text) :
    (∀ result, (ofCatalog c).classify c name = result ↔ Classified c name result) ∧
      ∀ m, (ofCatalog c).classify c name = some m → m.Reassembles c.tokens c name := by
  have hfound := classified_classify h.valid name
  refine ⟨fun result => ⟨?_, fun hresult => hfound.unique h.valid hresult⟩, ?_⟩
  · rintro rfl
    exact hfound
  · intro m hm
    exact reassembles_of_classify h.valid h.valid hm

/-- Data of a conversion with two widths that start alike. -/
def conversionData : Datum :=
  let tokens := Datum.map [
    (.text "width", .list [.text "16", .text "1"]),
    (.text "saturation", .list [.text "_sat"]),
    (.text "rounding", .map [(.text "_rte", .text "RTE"), (.text "_rtz", .text "RTZ")])]
  let slots := Datum.list [.text "width", .text "saturation", .text "rounding"]
  let record := Datum.map [(.text "category", .text "CONVERT"), (.text "suffixes", slots)]
  .map [(.text "suffixes", tokens), (.text "builtins", .map [(.text "convert_int", record)])]

/-- The catalog of that conversion. -/
def conversions : Catalog := (Catalog.empty.load conversionData Catalog.dataSource).1

theorem loaded_conversions : conversions.Loaded := .load .empty _ _

/-- A conversion that has a token of every family. -/
def conversionMatch : Match where
  entry := ⟨"convert_int", .convert, [.width, .saturation, .rounding], false, none⟩
  stem := "convert_int"
  tokens := [⟨.width, "16", .lanes 16⟩, ⟨.saturation, "_sat", .saturate⟩,
    ⟨.rounding, "_rte", .mode .nearestEven⟩]
  exact := false

/-- Tokens that are listed longest first are left in that order. -/
theorem Matcher.longestFirst_eq_self {tokens : Table Text SuffixValue}
    (h : tokens.Pairwise fun p q => q.1.length ≤ p.1.length) : longestFirst tokens = tokens :=
  List.mergeSort_of_pairwise (h.imp decide_eq_true)

/-- The tokens of the conversion are sorted as they are listed. -/
theorem Matcher.ofCatalog_conversions : ofCatalog conversions = ⟨conversions.tokens, 11⟩ := by
  have hsorted : ∀ family,
      (conversions.tokens.get family).Pairwise fun p q => q.1.length ≤ p.1.length := by
    intro family
    cases family <;> decide +kernel
  have hmap : conversions.tokens.map longestFirst = conversions.tokens := by
    have hwidth := longestFirst_eq_self (hsorted .width)
    have hformat := longestFirst_eq_self (hsorted .format)
    have hsaturation := longestFirst_eq_self (hsorted .saturation)
    have hrounding := longestFirst_eq_self (hsorted .rounding)
    simp only [TokenTable.get] at hwidth hformat hsaturation hrounding
    rw [TokenTable.map, hwidth, hformat, hsaturation, hrounding]
  have hlongest : (ofCatalog conversions).longestStem = 11 := by decide +kernel
  rw [← hlongest, ← hmap]
  rfl

/-- The match of a conversion with all its modifiers. -/
theorem Matcher.classify_eq_conversionMatch :
    (ofCatalog conversions).classify conversions "convert_int16_sat_rte" =
      some conversionMatch := by
  rw [ofCatalog_conversions]
  decide +kernel

/-- The longer of the two widths is taken. -/
theorem Matcher.classified_conversionMatch :
    Classified conversions "convert_int16_sat_rte" (some conversionMatch) ∧
      conversionMatch.Reassembles conversions.tokens conversions "convert_int16_sat_rte" := by
  obtain ⟨hiff, hreassembles⟩ :=
    classify_iff_classified loaded_conversions "convert_int16_sat_rte"
  exact ⟨(hiff _).mp classify_eq_conversionMatch, hreassembles _ classify_eq_conversionMatch⟩

end KernelCalls
