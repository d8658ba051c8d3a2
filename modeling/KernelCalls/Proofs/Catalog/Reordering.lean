import KernelCalls.Proofs.Catalog.Classification
import KernelCalls.Proofs.Catalog.Loading
import KernelCalls.Proofs.Shuffled

namespace KernelCalls

open Outcome

/-!
# Loading in another order

The pairs of a mapping, the tokens of a list and the aliases of a record may come in any order.  A
load in another order succeeds or fails alike, and leads to a catalog in which the same is found,
although its tables are ordered in another way.  Tokens of one length are tried as they come, but a
name goes on with at most one of them, so names are matched alike, too.

* `Catalog.DataReordered` : catalog data in another order.
* `Catalog.Same` : catalogs in which the same is found.
* `contentsOf_reordered` : data in another order says the same.
* `Same.classify_eq` : names are matched alike by catalogs in which the same is found.
* `Loaded.load_order_insensitive` : loads in another order, and loads of the same data again.
-/

namespace Catalog

open Datum

variable {a b : List (Key × Datum)} {d e : Datum}

/-! ### Catalog data in another order -/

/-- The tokens of a family in another order, as a list or as a mapping. -/
def TokensReordered (d e : Datum) : Prop :=
  ListReordered d e ∨ MapReordered (fun _ x y => x = y) d e

/-- A field of a record; aliases may come in another order. -/
def FieldReordered (name : Text) (x y : Datum) : Prop :=
  if name = Text.ofString "aliases" then ListReordered x y else x = y

/-- A section of the data: suffix families and records may come in another order, and so may what is
    in them. -/
def SectionReordered (name : Text) (x y : Datum) : Prop :=
  if name = Text.ofString "suffixes" then MapReordered (fun _ => TokensReordered) x y
  else if name = Text.ofString "builtins" then
    MapReordered (fun _ => MapReordered FieldReordered) x y
  else x = y

/-- The data of a catalog in another order: in that of its mappings, token lists and aliases. -/
def DataReordered (d e : Datum) : Prop := MapReordered SectionReordered d e

/-- Reordering the tokens of a family can be undone. -/
theorem TokensReordered.symm (h : TokensReordered d e) : TokensReordered e d :=
  h.imp ListReordered.symm fun hmap => hmap.symm fun _ _ _ hxy => hxy.symm

/-- Reordering the fields of a record can be undone. -/
theorem FieldReordered.symm {name : Text} (h : FieldReordered name d e) :
    FieldReordered name e d := by
  unfold FieldReordered at *
  split_ifs at * with haliases
  · exact ListReordered.symm h
  · exact Eq.symm h

/-- Reordering a section can be undone. -/
theorem SectionReordered.symm {name : Text} (h : SectionReordered name d e) :
    SectionReordered name e d := by
  unfold SectionReordered at *
  split_ifs at * with hsuffixes hbuiltins
  · exact MapReordered.symm h fun _ _ _ => TokensReordered.symm
  · exact MapReordered.symm h fun _ _ _ hrecord =>
      MapReordered.symm hrecord fun _ _ _ => FieldReordered.symm
  · exact Eq.symm h

/-- Reordering data can be undone. -/
theorem DataReordered.symm (h : DataReordered d e) : DataReordered e d :=
  MapReordered.symm h fun _ _ _ => SectionReordered.symm

/-- A field is given in both mappings, with related values, or in neither. -/
theorem given?_cases {R : Text → Datum → Datum → Prop} (h : Shuffled R a b) {name : Text}
    (htruthy : ∀ x y, R name x y → x.truthy = y.truthy) :
    (given? name a = none ∧ given? name b = none) ∨
      ∃ x y, given? name a = some x ∧ given? name b = some y ∧ R name x y := by
  unfold given?
  rcases h.lookup?_cases name with ⟨hx, hy⟩ | ⟨x, y, hx, hy, hxy⟩
  · rw [hx, hy]
    exact .inl ⟨rfl, rfl⟩
  · -- a value that counts as false is not given, and that is the same on both sides
    rw [hx, hy, Option.filter_some, Option.filter_some, ← htruthy x y hxy]
    split_ifs
    · exact .inr ⟨x, y, rfl, rfl, hxy⟩
    · exact .inl ⟨rfl, rfl⟩

/-! ### Tokens -/

/-- Pairs of texts and values in any order are read as the same tokens, if no text comes with two
    values. -/
theorem readTokens_reordered {family : SuffixFamily} {pairs others : List (Datum × Datum)}
    {read : Table Text SuffixValue} (htext : ∀ p ∈ pairs, ∃ name, p.1 = .text name)
    (hone : ∀ k x y, (k, x) ∈ pairs → (k, y) ∈ pairs → x = y) (hsub : others ⊆ pairs)
    (hsup : pairs ⊆ others) (h : readTokens family pairs [] = .ok read) :
    ∃ read', readTokens family others [] = .ok read' ∧ read.Same read' := by
  rw [readTokens_eq] at h
  obtain ⟨found, hfound, rfl⟩ := map_eq_ok_iff.mp h
  obtain ⟨found', hfound', hfewer⟩ := exists_mapM_of_subset hfound hsub
  -- each token that is read comes from a pair whose key is its text
  have hread : ∀ token value, (token, value) ∈ found →
      ∃ x, (Datum.text token, x) ∈ pairs ∧ readToken family token x = .ok value := by
    intro token value hmem
    obtain ⟨⟨k, x⟩, hp, hpair⟩ := (mem_mapM_iff hfound).mp hmem
    obtain ⟨name, hname⟩ := htext _ hp
    cases hname
    rw [readPair] at hpair
    obtain ⟨_, heq, hpair⟩ := bind_eq_ok_iff.mp hpair
    cases heq
    split_ifs at hpair
    obtain ⟨_, hvalue, heq⟩ := map_eq_ok_iff.mp hpair
    cases heq
    exact ⟨x, hp, hvalue⟩
  -- so a token is read with one value only, and the order of insertion plays no part
  have hagrees : Table.Agrees [] found := by
    intro token value hmem other hother
    obtain ⟨x, hx, hvalue⟩ := hread token value hmem
    obtain ⟨y, hy, hother⟩ := hread token other (hother.resolve_left (by simp))
    rw [hone _ x y hx hy, hother] at hvalue
    exact Except.ok.inj hvalue
  refine ⟨Table.insertAll [] found', by rw [readTokens_eq, hfound', map_ok], ?_⟩
  exact hagrees.same_insertAll hfewer (mapM_subset hfound hfound' hsup)

/-- A list of tokens gives every token that it names no value, once. -/
theorem mem_listedTokens {names : List Text} {p : Datum × Datum} :
    p ∈ (Table.insertAll [] (names.map fun n => (n, ()))).map (fun q => (.text q.1, .null)) ↔
      ∃ n ∈ names, p = (.text n, .null) := by
  have hagrees : Table.Agrees [] (names.map fun n => (n, ())) := fun _ _ _ _ _ => rfl
  have hmem : ∀ n, (n, ()) ∈ Table.insertAll [] (names.map fun n => (n, ())) ↔ n ∈ names := by
    intro n
    rw [← (Table.distinct_insertAll Table.distinct_nil).find?_eq_some_iff,
      hagrees.find?_insertAll]
    simp
  rw [List.mem_map]
  constructor
  · rintro ⟨⟨n, _⟩, hn, rfl⟩
    exact ⟨n, (hmem n).mp hn, rfl⟩
  · rintro ⟨n, hn, rfl⟩
    exact ⟨(n, ()), (hmem n).mpr hn, rfl⟩

/-- Tokens that are only listed are read in any order, as often as they come. -/
theorem readTokens_listed {family : SuffixFamily} {names others : List Text}
    {read : Table Text SuffixValue} (hsub : others ⊆ names) (hsup : names ⊆ others)
    (h : readTokens family ((Table.insertAll [] (names.map fun n => (n, ()))).map
      fun q => (.text q.1, .null)) [] = .ok read) :
    ∃ read', readTokens family ((Table.insertAll [] (others.map fun n => (n, ()))).map
      fun q => (.text q.1, .null)) [] = .ok read' ∧ read.Same read' := by
  -- a list is a mapping from its texts to nothing
  refine readTokens_reordered (fun p hp => ?_) (fun k x y hx hy => ?_) (fun p hp => ?_)
    (fun p hp => ?_) h
  · obtain ⟨n, -, rfl⟩ := mem_listedTokens.mp hp
    exact ⟨n, rfl⟩
  · obtain ⟨n, -, heq⟩ := mem_listedTokens.mp hx
    obtain ⟨m, -, heq'⟩ := mem_listedTokens.mp hy
    cases heq
    cases heq'
    rfl
  · obtain ⟨n, hn, rfl⟩ := mem_listedTokens.mp hp
    exact mem_listedTokens.mpr ⟨n, hsub hn, rfl⟩
  · obtain ⟨n, hn, rfl⟩ := mem_listedTokens.mp hp
    exact mem_listedTokens.mpr ⟨n, hsup hn, rfl⟩

/-- Tokens with values are read in any order. -/
theorem readTokens_shuffled {family : SuffixFamily} {read : Table Text SuffixValue}
    (hab : Shuffled (fun _ x y => x = y) a b)
    (h : readTokens family (a.map fun p => (p.1.toDatum, p.2)) [] = .ok read) :
    ∃ read', readTokens family (b.map fun p => (p.1.toDatum, p.2)) [] = .ok read' ∧
      read.Same read' := by
  have hba : Shuffled (fun _ x y => x = y) b a := hab.symm fun _ _ _ => Eq.symm
  -- keys are texts, and each has one value
  have hkey : ∀ k x, (k, x) ∈ a.map (fun p => (p.1.toDatum, p.2)) →
      ∃ name, k = .text name ∧ lookup? name a = some x := by
    intro k x hmem
    obtain ⟨⟨k', x'⟩, hp, heq⟩ := List.mem_map.mp hmem
    obtain ⟨name, y, rfl, -, -⟩ := hab.exists_partner hp
    cases heq
    exact ⟨name, rfl, (lookup?_eq_some_iff hab.distinct).mpr hp⟩
  refine readTokens_reordered (fun p hp => ?_) (fun k x y hx hy => ?_)
    (List.map_subset _ hba.subset) (List.map_subset _ hab.subset) h
  · obtain ⟨name, hname, -⟩ := hkey p.1 p.2 hp
    exact ⟨name, hname⟩
  · obtain ⟨name, rfl, hfound⟩ := hkey k x hx
    obtain ⟨_, heq, hfound'⟩ := hkey _ y hy
    cases heq
    rw [hfound] at hfound'
    exact Option.some.inj hfound'

/-- Tokens in another order are read as the same tokens. -/
theorem parseTokens_reordered {family : SuffixFamily} {read : Table Text SuffixValue}
    (hde : TokensReordered d e) (h : parseTokens family d = .ok read) :
    ∃ read', parseTokens family e = .ok read' ∧ read.Same read' := by
  rcases hde with hlist | hmap
  · cases hlist with
    | same => exact ⟨read, h, fun _ => rfl⟩
    | @list items others items_perm =>
      obtain ⟨names, hnames, h⟩ := bind_eq_ok_iff.mp h
      obtain ⟨names', hnames', hsub⟩ := exists_mapM_of_subset hnames items_perm.symm.subset
      have hsup := mapM_subset hnames hnames' items_perm.subset
      obtain ⟨read', hread', hsame⟩ := readTokens_listed hsub hsup h
      exact ⟨read', bind_eq_ok_iff.mpr ⟨names', hnames', hread'⟩, hsame⟩
  · cases hmap with
    | same => exact ⟨read, h, fun _ => rfl⟩
    | map shuffled => exact readTokens_shuffled shuffled h

/-! ### Families -/

/-- A family is read under its own name. -/
theorem readFamily_key {k : Key} {q : SuffixFamily × Table Text SuffixValue}
    (h : readFamily (k, d) = .ok q) : k = .text (Text.ofString q.1.name) := by
  obtain ⟨family, hfamily, h⟩ := bind_eq_ok_iff.mp h
  obtain ⟨tokens, -, rfl⟩ := map_eq_ok_iff.mp h
  exact familyOf_eq_ok hfamily

/-- A family is the same however its tokens are ordered. -/
theorem readFamily_reordered {k : Key} {q : SuffixFamily × Table Text SuffixValue}
    (hde : TokensReordered d e) (h : readFamily (k, d) = .ok q) :
    ∃ q', readFamily (k, e) = .ok q' ∧ q.1 = q'.1 ∧ q.2.Same q'.2 := by
  obtain ⟨family, hfamily, h⟩ := bind_eq_ok_iff.mp h
  obtain ⟨tokens, htokens, rfl⟩ := map_eq_ok_iff.mp h
  obtain ⟨tokens', htokens', hsame⟩ := parseTokens_reordered hde htokens
  refine ⟨(family, tokens'), ?_, rfl, hsame⟩
  rw [readFamily, hfamily, ok_bind, htokens', map_ok]

section Families

variable {families others : List (Key × Datum)}
  {read read' : List (SuffixFamily × Table Text SuffixValue)}

/-- Every family that is read in one order is read in the other. -/
theorem exists_family_of_shuffled (h : Shuffled (fun _ => TokensReordered) families others)
    (hread : families.mapM readFamily = .ok read) (hread' : others.mapM readFamily = .ok read')
    {q : SuffixFamily × Table Text SuffixValue} (hq : q ∈ read) : ∃ q' ∈ read', q'.1 = q.1 := by
  obtain ⟨⟨k, x⟩, hx, hqx⟩ := (mem_mapM_iff hread).mp hq
  obtain ⟨name, y, rfl, hy, hxy⟩ := h.exists_partner hx
  obtain ⟨q', hq', hqy⟩ := exists_of_mapM_eq_ok hread' hy
  obtain ⟨q'', hq'', hfamily, -⟩ := readFamily_reordered hxy hqx
  rw [hqy] at hq''
  cases hq''
  exact ⟨q', hq', hfamily.symm⟩

/-- A family that is read in both orders has the same tokens. -/
theorem same_tokens_of_shuffled (h : Shuffled (fun _ => TokensReordered) families others)
    (hread : families.mapM readFamily = .ok read) (hread' : others.mapM readFamily = .ok read')
    {q q' : SuffixFamily × Table Text SuffixValue} (hq : q ∈ read) (hq' : q' ∈ read')
    (heq : q.1 = q'.1) : q.2.Same q'.2 := by
  obtain ⟨⟨k, x⟩, hx, hqx⟩ := (mem_mapM_iff hread).mp hq
  obtain ⟨⟨k', y⟩, hy, hqy⟩ := (mem_mapM_iff hread').mp hq'
  -- both come from the key that is the name of the family
  obtain rfl := readFamily_key hqx
  obtain rfl := readFamily_key hqy
  rw [heq] at hx hqx
  obtain ⟨q'', hq'', -, hsame⟩ := readFamily_reordered (h.values _ x y hx hy) hqx
  rw [hqy] at hq''
  cases hq''
  exact hsame

/-- Families in another order replace the same tokens. -/
theorem families_reordered
    (h : MapReordered (fun _ => TokensReordered) (.map families) (.map others))
    (hread : families.mapM readFamily = .ok read) :
    ∃ read', others.mapM readFamily = .ok read' ∧ ∀ (t : TokenTable) family,
      ((t.setAll read).get family).Same ((t.setAll read').get family) := by
  cases h with
  | same => exact ⟨read, hread, fun _ _ _ => rfl⟩
  | map shuffled =>
    have hback : Shuffled (fun _ => TokensReordered) others families :=
      shuffled.symm fun _ _ _ => TokensReordered.symm
    -- every family of the other order is one of this order, so it can be read, too
    obtain ⟨read', hread'⟩ := exists_mapM_eq_ok fun p hp => by
      obtain ⟨name, x, hname, hx, hpx⟩ := hback.exists_partner hp
      obtain ⟨q, -, hq⟩ := exists_of_mapM_eq_ok hread hx
      obtain ⟨q', hq', -⟩ := readFamily_reordered hpx.symm hq
      exact ⟨q', by rw [← hq', ← hname]⟩
    refine ⟨read', hread', fun t family => ?_⟩
    -- a family is replaced in both orders or in neither
    rcases TokenTable.get_setAll_cases read family with ⟨q, hq, hfamily, hget⟩ | ⟨hnone, hget⟩
    · rcases TokenTable.get_setAll_cases read' family with ⟨q', hq', hfamily', hget'⟩ | ⟨hnone', _⟩
      · rw [hget, hget']
        exact same_tokens_of_shuffled shuffled hread hread' hq hq' (hfamily.trans hfamily'.symm)
      · obtain ⟨q', hq', heq⟩ := exists_family_of_shuffled shuffled hread hread' hq
        exact absurd (heq.trans hfamily) (hnone' q' hq')
    · rcases TokenTable.get_setAll_cases read' family with ⟨q', hq', hfamily', _⟩ | ⟨_, hget'⟩
      · obtain ⟨q, hq, heq⟩ := exists_family_of_shuffled hback hread' hread hq'
        exact absurd (heq.trans hfamily') (hnone q hq)
      · rw [hget, hget']
        exact fun _ => rfl

end Families

/-! ### Records -/

/-- Aliases in another order are listed as well, and no new ones. -/
theorem listed_reordered (h : Shuffled FieldReordered a b) {items : List Datum}
    (hitems : listed "aliases" a = .ok items) :
    ∃ items', listed "aliases" b = .ok items' ∧ items' ⊆ items := by
  have hfield : ∀ x y, FieldReordered "aliases" x y → ListReordered x y := fun x y hxy => by
    rwa [FieldReordered, if_pos rfl] at hxy
  unfold listed at *
  rcases given?_cases h fun x y hxy => (hfield x y hxy).truthy_eq with
    ⟨hx, hy⟩ | ⟨x, y, hx, hy, hxy⟩
  · rw [hx] at hitems
    rw [hy]
    exact ⟨items, hitems, List.Subset.refl _⟩
  · rw [hx] at hitems
    rw [hy]
    cases hfield x y hxy with
    | same => exact ⟨items, hitems, List.Subset.refl _⟩
    | @list xs ys items_perm =>
      cases hitems
      exact ⟨ys, rfl, items_perm.symm.subset⟩

/-- A record in another order is read as well, and has no new entries. -/
theorem parseRecord_reordered {stem : Text} {entries : List (Text × Entry)}
    (hde : MapReordered FieldReordered d e) (h : parseRecord stem d = .ok entries) :
    ∃ entries', parseRecord stem e = .ok entries' ∧ entries' ⊆ entries := by
  cases hde with
  | same => exact ⟨entries, h, List.Subset.refl _⟩
  | @map a b shuffled =>
    -- aliases are the only field that may differ
    have hlookup : ∀ name, name ≠ Text.ofString "aliases" → lookup? name a = lookup? name b := by
      intro name hname
      exact shuffled.lookup?_eq fun x y hxy => by rwa [FieldReordered, if_neg hname] at hxy
    have hslots : parseSlots stem a = parseSlots stem b := by
      simp only [parseSlots_eq, listed, given?, hlookup "suffixes" (by decide)]
    have hsampled : parseSampled stem a = parseSampled stem b := by
      simp only [parseSampled, hlookup "sampled" (by decide)]
    rw [parseRecord_eq] at h ⊢
    simp only [fieldsOf, hslots, hsampled, hlookup "category" (by decide),
      hlookup "bare" (by decide)] at h ⊢
    split at h
    · cases h
    · obtain ⟨suffixes, hsuffixes, h⟩ := bind_eq_ok_iff.mp h
      obtain ⟨category, hcategory, h⟩ := bind_eq_ok_iff.mp h
      obtain ⟨sampled, hsampled, h⟩ := bind_eq_ok_iff.mp h
      obtain ⟨items, hitems, h⟩ := bind_eq_ok_iff.mp h
      obtain ⟨aliases, haliases, h⟩ := bind_eq_ok_iff.mp h
      cases h
      -- the other aliases are among these, so they are read as well and name no new entry
      obtain ⟨items', hitems', hsub⟩ := listed_reordered shuffled hitems
      obtain ⟨aliases', haliases', hnames⟩ := exists_mapM_of_subset haliases hsub
      simp only [hsuffixes, hcategory, hsampled, hitems', haliases', ok_bind]
      exact ⟨_, rfl, List.map_subset _ (List.cons_subset_cons _ hnames)⟩

/-- Records in another order are read as well, and have no new entries. -/
theorem records_reordered {records others : List (Key × Datum)} {read : List (List (Text × Entry))}
    (h : MapReordered (fun _ => MapReordered FieldReordered) (.map records) (.map others))
    (hread : records.mapM readRecord = .ok read) :
    ∃ read', others.mapM readRecord = .ok read' ∧ read'.flatten ⊆ read.flatten := by
  cases h with
  | same => exact ⟨read, hread, List.Subset.refl _⟩
  | map shuffled =>
    have hback : Shuffled (fun _ => MapReordered FieldReordered) others records :=
      shuffled.symm fun _ _ _ hxy => hxy.symm fun _ _ _ => FieldReordered.symm
    -- every record of the other order has a partner here, which is read with more entries at most
    have hrecord : ∀ p ∈ others, ∃ q ∈ records, ∀ entries, readRecord q = .ok entries →
        ∃ entries', readRecord p = .ok entries' ∧ entries' ⊆ entries := by
      intro p hp
      obtain ⟨name, x, hname, hx, hpx⟩ := hback.exists_partner hp
      refine ⟨(.text name, x), hx, fun entries hentries => ?_⟩
      obtain ⟨stem, hstem, hentries⟩ := bind_eq_ok_iff.mp hentries
      obtain ⟨entries', hentries', hsub⟩ :=
        parseRecord_reordered (hpx.symm fun _ _ _ => FieldReordered.symm) hentries
      exact ⟨entries', by rw [readRecord, hname, hstem, ok_bind, hentries'], hsub⟩
    obtain ⟨read', hread', hfrom⟩ := exists_mapM_of_related hread hrecord
    refine ⟨read', hread', fun p hp => ?_⟩
    obtain ⟨entries', hentries', hp⟩ := List.mem_flatten.mp hp
    obtain ⟨entries, hentries, hsub⟩ := hfrom entries' hentries'
    exact List.mem_flatten.mpr ⟨entries, hentries, hsub hp⟩

/-! ### Whole catalogs -/

/-- A section in another order is one of the data in another order. -/
theorem section_reordered {R S : Text → Datum → Datum → Prop} (h : Shuffled R a b) {name : Text}
    (hR : ∀ x y, R name x y → MapReordered S x y) {problem : Problem} {inner : List (Key × Datum)}
    (hinner : section? name a problem = .ok inner) :
    ∃ inner', section? name b problem = .ok inner' ∧ MapReordered S (.map inner) (.map inner') := by
  unfold section? at *
  rcases given?_cases h fun x y hxy => (hR x y hxy).truthy_eq with
    ⟨hx, hy⟩ | ⟨x, y, hx, hy, hxy⟩
  · rw [hx] at hinner
    rw [hy]
    exact ⟨inner, hinner, .same _⟩
  · rw [hx] at hinner
    rw [hy]
    cases hR x y hxy with
    | same => exact ⟨inner, hinner, .same _⟩
    | @map a' b' shuffled =>
      cases hinner
      exact ⟨b', rfl, .map shuffled⟩

/-- Contents that come to the same wherever they are added. -/
structure Contents.Same (x y : Contents) : Prop where
  version : x.version = y.version
  families : ∀ (t : TokenTable) family,
    ((t.setAll x.families).get family).Same ((t.setAll y.families).get family)
  fewer : y.entries ⊆ x.entries
  more : x.entries ⊆ y.entries

theorem Contents.Same.refl (x : Contents) : x.Same x where
  version := rfl
  families := fun _ _ _ => rfl
  fewer := List.Subset.refl _
  more := List.Subset.refl _

/-- The version does not depend on the order of the sections. -/
theorem version_reordered (h : Shuffled SectionReordered a b) :
    parseVersion a = parseVersion b := by
  have hlookup : lookup? "version" a = lookup? "version" b := h.lookup?_eq fun x y hxy => by
    rwa [SectionReordered, if_neg (by decide), if_neg (by decide)] at hxy
  simp only [parseVersion, hlookup]

/-- Data in another order says the same. -/
theorem contentsOf_reordered (h : Shuffled SectionReordered a b) {x : Contents}
    (hx : contentsOf a = .ok x) : ∃ y, contentsOf b = .ok y ∧ x.Same y := by
  obtain ⟨version, hversion, hx⟩ := bind_eq_ok_iff.mp hx
  obtain ⟨families, hfamilies, hx⟩ := bind_eq_ok_iff.mp hx
  obtain ⟨tokens, htokens, hx⟩ := bind_eq_ok_iff.mp hx
  obtain ⟨records, hrecords, hx⟩ := bind_eq_ok_iff.mp hx
  obtain ⟨read, hread, rfl⟩ := map_eq_ok_iff.mp hx
  -- section by section, in the order in which they are read
  obtain ⟨families', hfamilies', hfamily⟩ := section_reordered h (fun x y hxy => by
    rwa [SectionReordered, if_pos rfl] at hxy) hfamilies
  obtain ⟨tokens', htokens', hsame⟩ := families_reordered hfamily htokens
  obtain ⟨records', hrecords', hrecord⟩ := section_reordered h (fun x y hxy => by
    rwa [SectionReordered, if_neg (by decide), if_pos rfl] at hxy) hrecords
  obtain ⟨read', hread', hfewer⟩ := records_reordered hrecord hread
  -- the other way round nothing new is read
  have hback := hrecord.symm fun _ _ _ hxy => MapReordered.symm hxy fun _ _ _ => FieldReordered.symm
  obtain ⟨_, hread'', hmore⟩ := records_reordered hback hread'
  rw [hread] at hread''
  cases hread''
  refine ⟨⟨version, tokens', read'.flatten⟩, ?_, rfl, hsame, hfewer, hmore⟩
  rw [contentsOf, ← version_reordered h, hversion, ok_bind, hfamilies', ok_bind, htokens', ok_bind,
    hrecords', ok_bind, hread', map_ok]

/-- Catalogs in which the same is found: the version, the entry of every stem, and the value of
    every token. -/
structure Same (c d : Catalog) : Prop where
  version : c.version = d.version
  entries : ∀ stem, c.get? stem = d.get? stem
  tokens : ∀ family token, (c.tokens.get family).find? token = (d.tokens.get family).find? token

/-- The same contents make the same catalog, as long as they give no stem a second entry. -/
theorem Contents.Same.addTo {x y : Contents} (h : x.Same y) {c : Catalog}
    (hagrees : Table.Agrees c.entries x.entries) : Catalog.Same (x.addTo c) (y.addTo c) where
  version := h.version
  entries := hagrees.same_insertAll h.fewer h.more
  tokens := h.families c.tokens

/-- **Another order.** Data that is loaded in one order is loaded in the other, and the same is
    found then. -/
theorem load_reordered {c : Catalog} {source : Text} (hde : DataReordered d e)
    (h : (c.load d source).2 = .ok ()) (other : Text) :
    (c.load e other).2 = .ok () ∧ Same (c.load d source).1 (c.load e other).1 := by
  have hload : c.load d source = ((c.load d source).1, .ok ()) := Prod.ext rfl h
  obtain ⟨pairs, x, rfl, hx, hagrees, hc'⟩ := load_eq_ok_iff.mp hload
  obtain ⟨pairs', y, rfl, hy, hxy⟩ :
      ∃ pairs' y, e = .map pairs' ∧ contentsOf pairs' = .ok y ∧ x.Same y := by
    cases hde with
    | same => exact ⟨pairs, x, rfl, hx, .refl x⟩
    | map shuffled =>
      obtain ⟨y, hy, hxy⟩ := contentsOf_reordered shuffled hx
      exact ⟨_, y, rfl, hy, hxy⟩
  -- fewer entries agree with those of the catalog all the more
  have hload' : c.load (.map pairs') other = (y.addTo c, .ok ()) :=
    load_eq_ok_iff.mpr ⟨pairs', y, rfl, hy, hagrees.mono hxy.fewer, rfl⟩
  rw [hload', hc']
  exact ⟨rfl, hxy.addTo hagrees⟩

end Catalog

/-! ### Matching names -/

/-- The longest token is the same where the tokens are. -/
theorem IsLongest.congr {tokens tokens' : Table Text SuffixValue} {tail text : Text}
    {value : SuffixValue} (hmem : ∀ p, p ∈ tokens ↔ p ∈ tokens')
    (h : IsLongest tokens tail text value) : IsLongest tokens' tail text value where
  mem := (hmem _).mp h.mem
  starts := h.starts
  longest := fun p hp => h.longest p ((hmem p).mpr hp)

/-- What slots take up depends only on which tokens there are. -/
theorem Consumes.congr {tokens tokens' : TokenTable}
    (hmem : ∀ family p, p ∈ tokens.get family ↔ p ∈ tokens'.get family)
    {slots : List SuffixFamily} {tail rest : Text} {taken : List SuffixToken}
    (h : Consumes tokens slots tail taken rest) : Consumes tokens' slots tail taken rest := by
  induction h with
  | done => exact .done
  | take longest _ ih => exact .take (longest.congr (hmem _)) ih
  | skip absent _ ih => exact .skip (fun p hp => absent p ((hmem _ p).mpr hp)) ih

namespace Catalog.Same

variable {c d : Catalog}

/-- Catalogs are the same in either direction. -/
theorem symm (h : Same c d) : Same d c where
  version := h.version.symm
  entries := fun stem => (h.entries stem).symm
  tokens := fun family token => (h.tokens family token).symm

/-- The same catalogs have the same tokens. -/
theorem mem_tokens_iff (h : Same c d) (hc : c.Valid) (hd : d.Valid) (family : SuffixFamily)
    (p : Text × SuffixValue) : p ∈ c.tokens.get family ↔ p ∈ d.tokens.get family := by
  rw [← (hc.tokens family).distinct.find?_eq_some_iff,
    ← (hd.tokens family).distinct.find?_eq_some_iff, h.tokens]

/-- The same catalogs split a name in the same ways. -/
theorem splits (h : Same c d) (hc : c.Valid) (hd : d.Valid) {stem tail : Text} {entry : Entry}
    {taken : List SuffixToken} (hs : Splits c stem tail entry taken) :
    Splits d stem tail entry taken where
  stem_ne_nil := hs.stem_ne_nil
  tail_ne_nil := hs.tail_ne_nil
  found := h.entries stem ▸ hs.found
  slots := hs.slots
  consumed := hs.consumed.congr (h.mem_tokens_iff hc hd)
  taken_ne_nil := hs.taken_ne_nil

/-- So a name has the same match in both. -/
theorem classified (h : Same c d) (hc : c.Valid) (hd : d.Valid) {name : Text}
    {result : Option Match} (hr : Classified c name result) : Classified d name result := by
  cases hr with
  | exact found bare => exact .exact (h.entries name ▸ found) bare
  | split notBare name_eq splits longest =>
    refine .split (h.entries name ▸ notBare) name_eq (h.splits hc hd splits) ?_
    -- a longer split of the other catalog would be one of this catalog
    intro stem' tail' entry' taken' hname hsplits
    exact longest stem' tail' entry' taken' hname (h.symm.splits hd hc hsplits)
  | miss notBare absent =>
    refine .miss (h.entries name ▸ notBare) fun stem tail entry taken hname hsplits => ?_
    exact absent stem tail entry taken hname (h.symm.splits hd hc hsplits)

/-- Names are matched alike by catalogs in which the same is found. -/
theorem classify_eq (h : Same c d) (hc : c.Valid) (hd : d.Valid) (name : Text) :
    (Matcher.ofCatalog c).classify c name = (Matcher.ofCatalog d).classify d name :=
  (h.classified hc hd (Matcher.classified_classify hc name)).unique hd
    (Matcher.classified_classify hd name)

end Catalog.Same

namespace Catalog

/-- **Any order, and again.** For every catalog that loads lead to and data in two orders, a load
    succeeds in one if it does in the other.  The version, the entry of every stem and the value of
    every token are then the same, and names are matched alike; and loading the same data again
    succeeds and changes nothing. -/
theorem Loaded.load_order_insensitive {c : Catalog} (hc : c.Loaded) {data data' : Datum}
    (h : DataReordered data data') (source source' : Text) :
    let after := c.load data source
    let after' := c.load data' source'
    (after.2 = .ok () ↔ after'.2 = .ok ()) ∧
      (after.2 = .ok () → Same after.1 after'.1 ∧
        (∀ name, (Matcher.ofCatalog after.1).classify after.1 name =
          (Matcher.ofCatalog after'.1).classify after'.1 name) ∧
        ∀ again, after.1.load data again = (after.1, .ok ())) := by
  intro after after'
  -- success is carried over in either direction, as reordering can be undone
  refine ⟨⟨fun hok => ?_, fun hok => ?_⟩, fun hok => ?_⟩
  · exact (load_reordered h hok source').1
  · exact (load_reordered h.symm hok source).1
  · have hsame : Same after.1 after'.1 := (load_reordered h hok source').2
    have hvalid : after.1.Valid := load_valid hc.valid data source
    have hvalid' : after'.1.Valid := load_valid hc.valid data' source'
    have hload : c.load data source = (after.1, .ok ()) := Prod.ext rfl hok
    exact ⟨hsame, hsame.classify_eq hvalid hvalid', load_again hload⟩

/-- Data with a load, its aliases, and conversions to floats. -/
def floatConversions : Datum :=
  let width := Datum.list [.text "2", .text "4"]
  let rounding := Datum.map [(.text "_rte", .text "RTE"), (.text "_rtz", .text "RTZ")]
  let aliases := Datum.list [.text "vload_half", .text "vloada_half"]
  let load := Datum.map [(.text "category", .text "VLOAD"), (.text "aliases", aliases)]
  let slots := Datum.list [.text "width", .text "rounding"]
  let convert := Datum.map [(.text "category", .text "CONVERT"), (.text "suffixes", slots)]
  .map [(.text "suffixes", .map [(.text "width", width), (.text "rounding", rounding)]),
    (.text "builtins", .map [(.text "vload", load), (.text "convert_float", convert)])]

/-- The same data with everything but the slots the other way round. -/
def conversionsOfFloats : Datum :=
  let width := Datum.list [.text "4", .text "2"]
  let rounding := Datum.map [(.text "_rtz", .text "RTZ"), (.text "_rte", .text "RTE")]
  let aliases := Datum.list [.text "vloada_half", .text "vload_half"]
  let load := Datum.map [(.text "aliases", aliases), (.text "category", .text "VLOAD")]
  let slots := Datum.list [.text "width", .text "rounding"]
  let convert := Datum.map [(.text "suffixes", slots), (.text "category", .text "CONVERT")]
  .map [(.text "builtins", .map [(.text "convert_float", convert), (.text "vload", load)]),
    (.text "suffixes", .map [(.text "rounding", rounding), (.text "width", width)])]

/-- The two texts of this catalog are the same up to order. -/
theorem reordered_floatConversions : DataReordered floatConversions conversionsOfFloats := by
  have hfield : ∀ (name : Text) (d : Datum), FieldReordered name d d := by
    intro name d
    unfold FieldReordered
    split_ifs
    · exact .same d
    · rfl
  refine .map (.swap (by decide) ?_ ?_)
  · refine .map (.swap (by decide) ?_ ?_)
    · exact .inl (.list (.swap _ _ _))
    · exact .inr (.map (.swap (by decide) rfl rfl))
  · refine .map (.swap (by decide) ?_ ?_)
    · refine .map (.swap (by decide) (hfield _ _) ?_)
      exact .list (.swap _ _ _)
    · exact .map (.swap (by decide) (hfield _ _) (hfield _ _))

/-- The tables of the two catalogs are ordered differently, and nobody sees it. -/
theorem load_eq_conversionsOfFloats :
    let after := Catalog.empty.load floatConversions dataSource
    let after' := Catalog.empty.load conversionsOfFloats dataSource
    after.2 = .ok () ∧ after'.2 = .ok () ∧ after.1 ≠ after'.1 ∧ Same after.1 after'.1 ∧
      (Matcher.ofCatalog after.1).classify after.1 "convert_float4_rte" =
        (Matcher.ofCatalog after'.1).classify after'.1 "convert_float4_rte" ∧
      after.1.load floatConversions dataSource = (after.1, .ok ()) := by
  intro after after'
  obtain ⟨hiff, hloaded⟩ :=
    Loaded.empty.load_order_insensitive reordered_floatConversions dataSource dataSource
  have hok : after.2 = .ok () := by decide +kernel
  obtain ⟨hsame, hclassify, hagain⟩ := hloaded hok
  exact ⟨hok, hiff.mp hok, by decide +kernel, hsame, hclassify _, hagain _⟩

end Catalog

end KernelCalls
