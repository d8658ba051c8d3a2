import KernelCalls.Proofs.Catalog.Invariant

namespace KernelCalls

open Outcome

/-!
# What a load comes to

What data says is read without looking at the catalog, and only its entries have to agree with those
that are there.  A load that succeeds has read everything and adds it at once; so a second load of
the same data finds everything in place.

* `TokenTable.setAll` : families replaced one after the other.
* `readPair`, `readFamily`, `readRecord` : one token, one family and one record.
* `Contents`, `contentsOf` : what a mapping says.
* `load_eq_ok_iff` : a load succeeds with what the data says, if that agrees with the entries.
* `load_again` : loading the same data again changes nothing.
-/

namespace TokenTable

/-- A table of tokens is known by its families. -/
theorem eq_of_get {t t' : TokenTable} (h : ∀ family, t.get family = t'.get family) : t = t' := by
  have hwidth := h .width
  have hformat := h .format
  have hsaturation := h .saturation
  have hrounding := h .rounding
  cases t
  cases t'
  simp_all [get]

/-- Replaces families one after the other. -/
def setAll (t : TokenTable) (read : List (SuffixFamily × Table Text SuffixValue)) : TokenTable :=
  read.foldl (fun t p => t.set p.1 p.2) t

/-- A family has the tokens that it was given last, or else those that it had. -/
theorem get_setAll (t : TokenTable) (read : List (SuffixFamily × Table Text SuffixValue))
    (family : SuffixFamily) :
    (t.setAll read).get family = (Table.find? family read.reverse).getD (t.get family) := by
  induction read generalizing t with
  | nil => rfl
  | cons p rest ih =>
    have hstep : t.setAll (p :: rest) = (t.set p.1 p.2).setAll rest := rfl
    -- the last family of that name counts, so the table is read from behind
    rw [hstep, ih, List.reverse_cons, Table.find?_append]
    cases Table.find? family rest.reverse with
    | some tokens => rw [Option.some_or, Option.getD_some, Option.getD_some]
    | none =>
      rw [Option.none_or, get_set, Table.find?]
      split_ifs <;> rfl

/-- A family is replaced by tokens that were read for it, or keeps its own if there are none. -/
theorem get_setAll_cases (read : List (SuffixFamily × Table Text SuffixValue))
    (family : SuffixFamily) :
    (∃ q ∈ read, q.1 = family ∧ ∀ t : TokenTable, (t.setAll read).get family = q.2) ∨
      (∀ q ∈ read, q.1 ≠ family) ∧ ∀ t : TokenTable, (t.setAll read).get family = t.get family := by
  cases hfound : Table.find? family read.reverse with
  | some tokens =>
    refine .inl ⟨(family, tokens), List.mem_reverse.mp (Table.mem_of_find? hfound), rfl, ?_⟩
    intro t
    rw [get_setAll, hfound, Option.getD_some]
  | none =>
    refine .inr ⟨fun q hq => Table.find?_eq_none_iff.mp hfound q (List.mem_reverse.mpr hq), ?_⟩
    intro t
    rw [get_setAll, hfound, Option.getD_none]

/-- Replacing the same families once more changes nothing. -/
theorem setAll_setAll (t : TokenTable) (read : List (SuffixFamily × Table Text SuffixValue)) :
    (t.setAll read).setAll read = t.setAll read := by
  refine eq_of_get fun family => ?_
  rcases get_setAll_cases read family with ⟨q, -, -, hget⟩ | ⟨-, hget⟩
  · rw [hget, hget]
  · rw [hget, hget]

end TokenTable

namespace Catalog

/-! ### Tokens -/

/-- One token with what it stands for; it may not be empty. -/
def readPair (family : SuffixFamily) (p : Datum × Datum) : Except Issue (Text × SuffixValue) :=
  (textOf p.1).bind fun token =>
    if token.isEmpty then .error (.problem (.emptyToken family))
    else (readToken family token p.2).map fun value => (token, value)

/-- The tokens of a family are read pair by pair. -/
theorem readTokens_eq (family : SuffixFamily) (pairs : List (Datum × Datum))
    (read : Table Text SuffixValue) :
    readTokens family pairs read = (pairs.mapM (readPair family)).map read.insertAll := by
  -- a token is inserted once it is read, or all are inserted once all are read
  induction pairs generalizing read with
  | nil => rfl
  | cons p rest ih =>
    obtain ⟨key, value⟩ := p
    rw [readTokens_cons, mapM_cons, readPair]
    cases textOf key with
    | error e => rfl
    | ok token =>
      dsimp only [ok_bind]
      split_ifs with hempty
      · rfl
      · cases readToken family token value with
        | error e => rfl
        | ok v =>
          rw [ok_bind, ih, map_ok, ok_bind]
          cases rest.mapM (readPair family) <;> rfl

/-! ### Families -/

/-- The family that the key of a mapping names. -/
def familyOf : Key → Except Issue SuffixFamily
  | .text s =>
    match SuffixFamily.ofName? s with
    | some f => .ok f
    | none => .error (.problem (.unknownFamily (Text.quote s)))
  | key =>
    match Datum.keyWritten key with
    | .ok w => .error (.problem (.unknownFamily w))
    | .error e => .error (.number e)

/-- A family is named by its name alone. -/
theorem familyOf_eq_ok {key : Key} {family : SuffixFamily} (h : familyOf key = .ok family) :
    key = .text (Text.ofString family.name) := by
  unfold familyOf at h
  split at h
  · split at h
    · next hname =>
      cases h
      rw [eq_name_of_ofName? hname]
    · cases h
  · split at h <;> cases h

/-- One family with its tokens. -/
def readFamily (p : Key × Datum) : Except Issue (SuffixFamily × Table Text SuffixValue) :=
  (familyOf p.1).bind fun family => (parseTokens family p.2).map fun tokens => (family, tokens)

/-- The first family is read and replaced before the others, or stops the load. -/
theorem loadFamilies_cons (p : Key × Datum) (rest : List (Key × Datum)) (c : Catalog) :
    loadFamilies (p :: rest) c =
      match readFamily p with
      | .error e => (c, .error e)
      | .ok (f, read) => loadFamilies rest { c with tokens := c.tokens.set f read } := by
  obtain ⟨key, d⟩ := p
  cases key with
  | text s =>
    conv_lhs => unfold loadFamilies
    unfold readFamily familyOf
    dsimp only
    cases SuffixFamily.ofName? s with
    | none => rfl
    | some f =>
      dsimp only [ok_bind]
      cases parseTokens f d <;> rfl
  | _ =>
    conv_lhs => unfold loadFamilies
    unfold readFamily familyOf
    dsimp only
    generalize Datum.keyWritten _ = written
    cases written <;> rfl

/-- Families are loaded if all can be read, and replace those that were there. -/
theorem loadFamilies_eq_ok_iff {families : List (Key × Datum)} {c d : Catalog} :
    loadFamilies families c = (d, .ok ()) ↔
      ∃ read, families.mapM readFamily = .ok read ∧
        d = { c with tokens := c.tokens.setAll read } := by
  induction families generalizing c with
  | nil =>
    constructor
    · intro h
      cases h
      exact ⟨[], rfl, rfl⟩
    · rintro ⟨read, hread, rfl⟩
      cases hread
      rfl
  | cons p rest ih =>
    rw [loadFamilies_cons, mapM_cons]
    cases readFamily p with
    | error e => simp
    | ok q =>
      rw [ok_bind, ih]
      -- a family is read in front of the others and replaced in front of them
      constructor
      · rintro ⟨read, hread, rfl⟩
        exact ⟨q :: read, by rw [hread, map_ok], rfl⟩
      · rintro ⟨read, hread, rfl⟩
        obtain ⟨others, hothers, rfl⟩ := map_eq_ok_iff.mp hread
        exact ⟨others, hothers, rfl⟩

/-! ### Records -/

/-- The entries of one record under its key. -/
def readRecord (p : Key × Datum) : Except Issue (List (Text × Entry)) :=
  (textOf p.1.toDatum).bind fun stem => parseRecord stem p.2

/-- Entries are stored if they agree with each other and with those that are there. -/
theorem store_eq_ok_iff {entries : List (Text × Entry)} {c d : Catalog} :
    store entries c = (d, .ok ()) ↔
      Table.Agrees c.entries entries ∧ d = { c with entries := c.entries.insertAll entries } := by
  induction entries generalizing c with
  | nil =>
    constructor
    · intro h
      cases h
      refine ⟨fun k a hmem => ?_, rfl⟩
      cases hmem
    · rintro ⟨-, rfl⟩
      rfl
  | cons p rest ih =>
    obtain ⟨name, entry⟩ := p
    -- what is tested of an entry is that it agrees with the one that is there
    have hany : (c.get? name).any (· ≠ entry) = false ↔
        ∀ b, c.entries.find? name = some b → b = entry := by
      rw [get?]
      cases c.entries.find? name <;> simp
    -- the entries behind have to agree with this one, too, which is in the table by then
    rw [store, Table.agrees_cons_iff, ← hany]
    cases (c.get? name).any (· ≠ entry) with
    | true => simp
    | false =>
      rw [if_neg Bool.false_ne_true, ih]
      exact ⟨fun h => ⟨⟨rfl, h.1⟩, h.2⟩, fun h => ⟨h.1.2, h.2⟩⟩

/-- Entries are stored one after the other until one of them clashes. -/
theorem store_append (entries others : List (Text × Entry)) (c : Catalog) :
    store (entries ++ others) c =
      match store entries c with
      | (c, .error e) => (c, .error e)
      | (c, .ok ()) => store others c := by
  induction entries generalizing c with
  | nil => rfl
  | cons p rest ih =>
    rw [List.cons_append, store, store]
    split
    · rfl
    · exact ih _

/-- The first record is read and stored before the others, or stops the load. -/
theorem loadRecords_cons (p : Key × Datum) (rest : List (Key × Datum)) (c : Catalog) :
    loadRecords (p :: rest) c =
      match readRecord p with
      | .error e => (c, .error e)
      | .ok entries =>
        match store entries c with
        | (c, .error e) => (c, .error e)
        | (c, .ok ()) => loadRecords rest c := rfl

/-- Records are loaded if all can be read and all their entries can be stored. -/
theorem loadRecords_eq_ok_iff {records : List (Key × Datum)} {c d : Catalog} :
    loadRecords records c = (d, .ok ()) ↔
      ∃ read, records.mapM readRecord = .ok read ∧ store read.flatten c = (d, .ok ()) := by
  induction records generalizing c with
  | nil =>
    constructor
    · intro h
      exact ⟨[], rfl, h⟩
    · rintro ⟨read, hread, hstore⟩
      cases hread
      exact hstore
  | cons p rest ih =>
    rw [loadRecords_cons, mapM_cons]
    cases readRecord p with
    | error e => simp
    | ok entries =>
      -- one record at a time, or all their entries in one go
      have hcons : ∀ others : List (List (Text × Entry)),
          store (entries :: others).flatten c =
            match store entries c with
            | (c, .error e) => (c, .error e)
            | (c, .ok ()) => store others.flatten c := fun others => by
        rw [List.flatten_cons, store_append]
      simp only [ok_bind, map_eq_ok_iff, exists_exists_and_eq_and, hcons]
      cases hstore : store entries c with
      | mk c' result =>
        cases result with
        | error e => simp
        | ok u => exact ih

/-! ### Whole catalogs -/

/-- What the mapping of a catalog says: a version, families with their tokens, and entries in the
    order of their records. -/
structure Contents where
  version : Option Text
  families : List (SuffixFamily × Table Text SuffixValue)
  entries : List (Text × Entry)

/-- The catalog with these contents added. -/
def Contents.addTo (x : Contents) (c : Catalog) : Catalog where
  version := x.version
  entries := c.entries.insertAll x.entries
  tokens := c.tokens.setAll x.families

/-- Adding the same again changes nothing. -/
theorem Contents.addTo_addTo {x : Contents} {c : Catalog} (h : Table.Agrees c.entries x.entries) :
    x.addTo (x.addTo c) = x.addTo c := by
  -- what was added is found again, so it is not added a second time
  have hentries : (c.entries.insertAll x.entries).insertAll x.entries =
      c.entries.insertAll x.entries :=
    Table.insertAll_eq_self fun p hp => h.find?_insertAll.mpr (.inr hp)
  simp only [addTo, hentries, TokenTable.setAll_setAll]

/-- What a mapping says; everything in it has to be readable. -/
def contentsOf (pairs : List (Key × Datum)) : Except Issue Contents :=
  (parseVersion pairs).bind fun version =>
  (section? "suffixes" pairs .suffixesNotMapping).bind fun families =>
  (families.mapM readFamily).bind fun tokens =>
  (section? "builtins" pairs .builtinsNotMapping).bind fun records =>
  (records.mapM readRecord).map fun entries => ⟨version, tokens, entries.flatten⟩

/-- A mapping is loaded if everything in it can be read and its entries agree with those of the
    catalog; what it says is then added. -/
theorem loadMapping_eq_ok_iff {pairs : List (Key × Datum)} {c d : Catalog} :
    loadMapping pairs c = (d, .ok ()) ↔
      ∃ x, contentsOf pairs = .ok x ∧ Table.Agrees c.entries x.entries ∧ d = x.addTo c := by
  unfold loadMapping contentsOf
  cases parseVersion pairs with
  | error e => simp
  | ok version =>
    dsimp only [ok_bind]
    cases section? "suffixes" pairs .suffixesNotMapping with
    | error e => simp
    | ok families =>
      dsimp only [ok_bind]
      -- both read the same sections in the same order; only the load stores in between
      constructor
      · intro h
        split at h
        · cases h
        · next c' hfamilies =>
          obtain ⟨tokens, htokens, rfl⟩ := loadFamilies_eq_ok_iff.mp hfamilies
          split at h
          · cases h
          · next records hrecords =>
            obtain ⟨read, hread, hstore⟩ := loadRecords_eq_ok_iff.mp h
            obtain ⟨hagrees, rfl⟩ := store_eq_ok_iff.mp hstore
            refine ⟨⟨version, tokens, read.flatten⟩, ?_, hagrees, rfl⟩
            rw [htokens, ok_bind, hrecords, ok_bind, hread, map_ok]
      · rintro ⟨x, hx, hagrees, rfl⟩
        obtain ⟨tokens, htokens, hx⟩ := bind_eq_ok_iff.mp hx
        obtain ⟨records, hrecords, hx⟩ := bind_eq_ok_iff.mp hx
        obtain ⟨read, hread, rfl⟩ := map_eq_ok_iff.mp hx
        rw [loadFamilies_eq_ok_iff.mpr ⟨tokens, htokens, rfl⟩, hrecords]
        exact loadRecords_eq_ok_iff.mpr ⟨read, hread, store_eq_ok_iff.mpr ⟨hagrees, rfl⟩⟩

/-- **One load.** A load succeeds if the data is a mapping in which everything can be read and the
    entries agree with each other and with those of the catalog.  The catalog then has what the data
    says. -/
theorem load_eq_ok_iff {c d : Catalog} {data : Datum} {source : Text} :
    c.load data source = (d, .ok ()) ↔
      ∃ pairs x, data = .map pairs ∧ contentsOf pairs = .ok x ∧
        Table.Agrees c.entries x.entries ∧ d = x.addTo c := by
  cases data with
  | map pairs =>
    -- the source only stands in errors
    have hmapping : c.load (.map pairs) source = (d, .ok ()) ↔
        loadMapping pairs c = (d, .ok ()) := by
      unfold load
      cases hload : loadMapping pairs c with
      | mk c' result => cases result <;> simp [hload, Except.mapError]
    rw [hmapping, loadMapping_eq_ok_iff]
    constructor
    · rintro ⟨x, hx⟩
      exact ⟨pairs, x, rfl, hx⟩
    · rintro ⟨_, x, heq, hx⟩
      cases heq
      exact ⟨x, hx⟩
  | _ =>
    constructor
    · intro h
      cases h
    · rintro ⟨pairs, x, heq, -⟩
      cases heq

/-- **Again.** Data that was loaded can be loaded again, and that changes nothing. -/
theorem load_again {c d : Catalog} {data : Datum} {source : Text}
    (h : c.load data source = (d, .ok ())) (other : Text) : d.load data other = (d, .ok ()) := by
  obtain ⟨pairs, x, rfl, hx, hagrees, rfl⟩ := load_eq_ok_iff.mp h
  refine load_eq_ok_iff.mpr ⟨pairs, x, rfl, hx, ?_, (Contents.addTo_addTo hagrees).symm⟩
  exact hagrees.insertAll

end Catalog

end KernelCalls
