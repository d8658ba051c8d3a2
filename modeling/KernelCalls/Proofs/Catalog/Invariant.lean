import KernelCalls.Catalog.Load
import KernelCalls.Proofs.Outcome
import KernelCalls.Proofs.Table

namespace KernelCalls

open Outcome

/-!
# What every catalog has in common

Data can be loaded into a catalog again and again, and a load that fails keeps what it had stored.
Whatever was loaded, entries are filed under their own stems and have a category, and tokens are
not empty and stand for a value of their family.

* `TokensValid`, `Entry.Valid`, `Catalog.Valid` : the invariant.
* `parseTokens_valid`, `parseRecord_valid` : what is read has it.
* `store_valid`, `loadFamilies_valid`, `loadRecords_valid`, `load_valid` : every step keeps it.
* `Loaded`, `Loaded.valid` : the catalogs that loads lead to have it.
-/

/-- Tokens of a family: none twice, none empty, and each for a value of the family. -/
structure TokensValid (family : SuffixFamily) (tokens : Table Text SuffixValue) : Prop where
  distinct : tokens.Distinct
  ne_nil : ∀ p ∈ tokens, p.1 ≠ []
  fits : ∀ p ∈ tokens, p.2.Fits family

theorem tokensValid_nil (family : SuffixFamily) : TokensValid family [] where
  distinct := Table.distinct_nil
  ne_nil := by simp
  fits := by simp

/-- A family stays valid when a token that is not empty is stored with a value that fits. -/
theorem TokensValid.insert {family : SuffixFamily} {tokens : Table Text SuffixValue} {token : Text}
    {value : SuffixValue} (h : TokensValid family tokens) (hne : token ≠ [])
    (hfits : value.Fits family) : TokensValid family (tokens.insert token value) where
  distinct := h.distinct.insert
  ne_nil := by
    intro p hp
    rcases Table.mem_insert hp with rfl | hp
    · exact hne
    · exact h.ne_nil p hp
  fits := by
    intro p hp
    rcases Table.mem_insert hp with rfl | hp
    · exact hfits
    · exact h.fits p hp

/-- An entry has a category, also for calls with a sampler if it has one for them, and no slot
    twice. -/
structure Entry.Valid (e : Entry) : Prop where
  category : e.category ≠ .unclassified
  sampled : e.sampled ≠ some .unclassified
  slots : e.suffixes.Nodup

namespace Catalog

/-- The entry is filed under its own stem. -/
structure Filed (stem : Text) (e : Entry) : Prop where
  stem_eq : e.stem = stem
  valid : e.Valid

/-- Every stem has one entry, which is its own, and the tokens of every family are valid. -/
structure Valid (c : Catalog) : Prop where
  distinct : c.entries.Distinct
  filed : ∀ p ∈ c.entries, Filed p.1 p.2
  tokens : ∀ family, TokensValid family (c.tokens.get family)

/-- What is found under a stem is filed there. -/
theorem Valid.filed_of_get? {c : Catalog} (h : c.Valid) {stem : Text} {e : Entry}
    (hget : c.get? stem = some e) : Filed stem e :=
  h.filed _ (Table.mem_of_find? hget)

/-! ### Tokens -/

/-- A family is read by its own name only. -/
theorem eq_name_of_ofName? {text : Text} {f : SuffixFamily}
    (h : SuffixFamily.ofName? text = some f) : text = f.name := by
  have hname := List.find?_some h
  exact (eq_of_beq hname).symm

/-- A number of lanes that is read fits a width. -/
theorem readLanes_fits {token : Text} {d : Datum} {value : SuffixValue}
    (h : readLanes token d = .ok value) : value.Fits .width := by
  unfold readLanes at h
  dsimp only at h
  split at h <;> cases h
  trivial

/-- A token stands for a value of its family. -/
theorem readToken_fits {family : SuffixFamily} {token : Text} {d : Datum} {value : SuffixValue}
    (h : readToken family token d = .ok value) : value.Fits family := by
  cases family with
  | width => exact readLanes_fits h
  | format =>
    rw [readToken] at h
    split at h <;> cases h
    trivial
  | saturation =>
    cases h
    trivial
  | rounding =>
    rw [readToken] at h
    split at h <;> cases h
    trivial

/-- Tokens are read one by one, and none of them is empty. -/
theorem readTokens_cons (family : SuffixFamily) (key value : Datum) (rest : List (Datum × Datum))
    (read : Table Text SuffixValue) :
    readTokens family ((key, value) :: rest) read = (textOf key).bind fun token =>
      if token.isEmpty then .error (.problem (.emptyToken family))
      else (readToken family token value).bind fun v =>
        readTokens family rest (read.insert token v) := by
  rw [readTokens]
  cases textOf key with
  | error e => rfl
  | ok token =>
    cases h : token.isEmpty <;> simp [h, bind, Except.bind, throw, throwThe, MonadExceptOf.throw]

/-- Reading on keeps the tokens valid. -/
theorem readTokens_valid {family : SuffixFamily} {pairs : List (Datum × Datum)}
    {read result : Table Text SuffixValue} (hread : TokensValid family read)
    (h : readTokens family pairs read = .ok result) : TokensValid family result := by
  -- induction on the pairs, with the tokens read so far as the table that grows
  induction pairs generalizing read with
  | nil =>
    cases h
    exact hread
  | cons p rest ih =>
    obtain ⟨key, value⟩ := p
    rw [readTokens_cons] at h
    obtain ⟨token, -, h⟩ := bind_eq_ok_iff.mp h
    split at h
    · cases h
    · next hne =>
      obtain ⟨v, hv, h⟩ := bind_eq_ok_iff.mp h
      exact ih (hread.insert (by simpa using hne) (readToken_fits hv)) h

/-- The tokens of a family are valid. -/
theorem parseTokens_valid {family : SuffixFamily} {d : Datum} {tokens : Table Text SuffixValue}
    (h : parseTokens family d = .ok tokens) : TokensValid family tokens := by
  unfold parseTokens at h
  split at h
  · obtain ⟨names, -, h⟩ := bind_eq_ok_iff.mp h
    exact readTokens_valid (tokensValid_nil family) h
  · exact readTokens_valid (tokensValid_nil family) h
  · cases h

/-! ### Records -/

/-- No record has the category of calls that are not classified. -/
theorem parseCategory_ne {stem : Text} {d : Datum} {category : Category}
    (h : parseCategory stem d = .ok category) : category ≠ .unclassified := by
  unfold parseCategory at h
  cases hread : readNamed Category d with
  | error e =>
    rw [hread] at h
    cases h
  | ok named =>
    rw [hread] at h
    cases named <;> cases h <;> decide

/-- The slots of a record are those that it names, unless one is named twice. -/
theorem parseSlots_eq (stem : Text) (pairs : List (Key × Datum)) :
    parseSlots stem pairs =
      Except.bind
        (match given? "suffixes" pairs with
        | some (.text s) => .ok [.text s]
        | _ => listed "suffixes" pairs)
        fun names => (names.mapM (parseSlot stem)).bind fun slots =>
          if slots.Nodup then .ok slots else .error (.problem (.repeatedSlot stem)) := by
  unfold parseSlots
  cases given? "suffixes" pairs with
  | none => rfl
  | some d => cases d <;> rfl

/-- A record has no slot twice. -/
theorem parseSlots_nodup {stem : Text} {pairs : List (Key × Datum)} {slots : List SuffixFamily}
    (h : parseSlots stem pairs = .ok slots) : slots.Nodup := by
  rw [parseSlots_eq] at h
  obtain ⟨names, -, h⟩ := bind_eq_ok_iff.mp h
  obtain ⟨read, -, h⟩ := bind_eq_ok_iff.mp h
  split at h
  · next hnodup =>
    cases h
    exact hnodup
  · cases h

/-- What a record says: a text alone is the category. -/
def fieldsOf : Datum → List (Key × Datum)
  | .text s => [(.text "category", .text s)]
  | .map pairs => pairs
  | _ => []

/-- The category for calls with a sampler, if the record has one. -/
def parseSampled (stem : Text) (pairs : List (Key × Datum)) : Except Issue (Option Category) :=
  match Datum.lookup? "sampled" pairs with
  | none | some .null => .ok none
  | some s => (parseCategory stem s).map some

/-- The steps of reading a record: slots, category, category with a sampler, aliases. -/
theorem parseRecord_eq (stem : Text) (d : Datum) :
    parseRecord stem d =
      match Datum.lookup? "category" (fieldsOf d) with
      | none => .error (.problem (.missingCategory stem))
      | some named =>
        (parseSlots stem (fieldsOf d)).bind fun suffixes =>
        (parseCategory stem named).bind fun category =>
        (parseSampled stem (fieldsOf d)).bind fun sampled =>
        (listed "aliases" (fieldsOf d)).bind fun items =>
        (items.mapM textOf).bind fun aliases =>
          let bare := match Datum.lookup? "bare" (fieldsOf d) with
            | some b => b.truthy
            | none => suffixes.isEmpty
          .ok ((stem :: aliases).map fun name =>
            (name, ⟨name, category, suffixes, bare, sampled⟩)) := by
  -- a text alone and a mapping differ in their fields only
  have hfields : parseRecord stem d = parseRecord stem (.map (fieldsOf d)) := by
    cases d <;> rfl
  rw [hfields]
  generalize fieldsOf d = pairs
  unfold parseRecord parseSampled
  dsimp only
  cases Datum.lookup? "category" (pairs) with
  | none => rfl
  | some named =>
    dsimp only
    cases parseSlots stem pairs with
    | error e => rfl
    | ok suffixes =>
      cases parseCategory stem named with
      | error e => rfl
      | ok category =>
        cases Datum.lookup? "sampled" pairs with
        | none => rfl
        | some s => cases s <;> rfl

/-- Nor is that the category of its calls with a sampler. -/
theorem parseSampled_ne {stem : Text} {pairs : List (Key × Datum)} {sampled : Option Category}
    (h : parseSampled stem pairs = .ok sampled) : sampled ≠ some .unclassified := by
  unfold parseSampled at h
  split at h
  · cases h
    simp
  · cases h
    simp
  · obtain ⟨category, hcategory, rfl⟩ := map_eq_ok_iff.mp h
    simpa using parseCategory_ne hcategory

/-- The entries of a record are filed under its stem and its aliases. -/
theorem parseRecord_valid {stem : Text} {d : Datum} {entries : List (Text × Entry)}
    (h : parseRecord stem d = .ok entries) : ∀ p ∈ entries, Filed p.1 p.2 := by
  rw [parseRecord_eq] at h
  split at h
  · cases h
  · obtain ⟨suffixes, hslots, h⟩ := bind_eq_ok_iff.mp h
    obtain ⟨category, hcategory, h⟩ := bind_eq_ok_iff.mp h
    obtain ⟨sampled, hsampled, h⟩ := bind_eq_ok_iff.mp h
    obtain ⟨items, -, h⟩ := bind_eq_ok_iff.mp h
    obtain ⟨aliases, -, h⟩ := bind_eq_ok_iff.mp h
    cases h
    intro p hp
    obtain ⟨name, -, rfl⟩ := List.mem_map.mp hp
    exact ⟨rfl, parseCategory_ne hcategory, parseSampled_ne hsampled, parseSlots_nodup hslots⟩

/-! ### Loading -/

/-- The empty catalog is valid. -/
theorem valid_empty : Catalog.empty.Valid where
  distinct := Table.distinct_nil
  filed := by simp [Catalog.empty]
  tokens := by
    intro family
    cases family <;> exact tokensValid_nil _

/-- A catalog stays valid when an entry is filed under a stem of its own. -/
theorem Valid.insert {c : Catalog} {name : Text} {entry : Entry} (h : c.Valid)
    (hentry : Filed name entry) : Valid { c with entries := c.entries.insert name entry } where
  distinct := h.distinct.insert
  filed := by
    intro p hp
    rcases Table.mem_insert hp with rfl | hp
    · exact hentry
    · exact h.filed p hp
  tokens := h.tokens

/-- A catalog stays valid when a family is replaced by valid tokens. -/
theorem Valid.set {c : Catalog} {family : SuffixFamily} {tokens : Table Text SuffixValue}
    (h : c.Valid) (htokens : TokensValid family tokens) :
    Valid { c with tokens := c.tokens.set family tokens } where
  distinct := h.distinct
  filed := h.filed
  tokens := by
    intro other
    show TokensValid other ((c.tokens.set family tokens).get other)
    rw [TokenTable.get_set]
    split
    · next heq => exact heq ▸ htokens
    · exact h.tokens other

/-- Entries that are stored leave a valid catalog, also where one of them clashes. -/
theorem store_valid {entries : List (Text × Entry)} {c : Catalog} (h : c.Valid)
    (hentries : ∀ p ∈ entries, Filed p.1 p.2) : (store entries c).1.Valid := by
  -- induction on the entries, for any valid catalog
  induction entries generalizing c with
  | nil => exact h
  | cons p rest ih =>
    obtain ⟨name, entry⟩ := p
    obtain ⟨hentry, hrest⟩ := List.forall_mem_cons.mp hentries
    rw [store]
    split
    · exact h
    · exact ih (h.insert hentry) hrest

/-- Families that are loaded leave a valid catalog, also where one of them is refused. -/
theorem loadFamilies_valid (families : List (Key × Datum)) {c : Catalog} (h : c.Valid) :
    (loadFamilies families c).1.Valid := by
  induction families generalizing c with
  | nil => exact h
  | cons p rest ih =>
    obtain ⟨key, tokens⟩ := p
    unfold loadFamilies
    dsimp only
    split
    · exact h
    · split
      · exact h
      · -- a family is replaced once all of its tokens have been read
        next hread => exact ih (h.set (parseTokens_valid hread))

/-- So do records. -/
theorem loadRecords_valid (records : List (Key × Datum)) {c : Catalog} (h : c.Valid) :
    (loadRecords records c).1.Valid := by
  induction records generalizing c with
  | nil => exact h
  | cons p rest ih =>
    obtain ⟨key, record⟩ := p
    unfold loadRecords
    dsimp only
    split
    · exact h
    · next entries hentries =>
      obtain ⟨stem, -, hrecord⟩ := bind_eq_ok_iff.mp hentries
      have hstored := store_valid h (parseRecord_valid hrecord)
      -- the catalog is as valid where storing stopped as where it ended
      split
      · next hstore => rwa [hstore] at hstored
      · next hstore =>
        rw [hstore] at hstored
        exact ih hstored

/-- And so does a load as a whole. -/
theorem loadMapping_valid {pairs : List (Key × Datum)} {c : Catalog} (h : c.Valid) :
    (loadMapping pairs c).1.Valid := by
  unfold loadMapping
  split
  · exact h
  · next version _ =>
    -- the version is no part of the invariant
    have hversion : Valid { c with version } := ⟨h.distinct, h.filed, h.tokens⟩
    dsimp only
    split
    · exact hversion
    · next families _ =>
      have hfamilies := loadFamilies_valid families hversion
      split
      · next hload => rwa [hload] at hfamilies
      · next hload =>
        rw [hload] at hfamilies
        split
        · exact hfamilies
        · exact loadRecords_valid _ hfamilies

/-- **One load.** A load leaves a valid catalog valid, whether it succeeds or stops halfway. -/
theorem load_valid {c : Catalog} (h : c.Valid) (data : Datum) (source : Text) :
    (c.load data source).1.Valid := by
  unfold load
  cases data with
  | map pairs => exact loadMapping_valid h
  | _ => exact h

/-- The catalogs that loads lead to, from the empty one on; loads may fail on the way. -/
inductive Loaded : Catalog → Prop where
  | empty : Loaded .empty
  | load {c : Catalog} (before : Loaded c) (data : Datum) (source : Text) :
      Loaded (c.load data source).1

/-- **Every load.** Whatever was loaded, the catalog is valid. -/
theorem Loaded.valid {c : Catalog} (h : Loaded c) : c.Valid := by
  induction h with
  | empty => exact valid_empty
  | load _ data source ih => exact load_valid ih data source

end Catalog

end KernelCalls
