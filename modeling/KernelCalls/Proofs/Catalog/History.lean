import KernelCalls.Proofs.Catalog.Invariant
import Mathlib.Data.List.Infix

namespace KernelCalls.Catalog

/-!
# What loads keep

A load only ever adds entries behind those that are there. It does so also when it stops halfway, so
no stem is lost and none gets another entry, whatever is loaded.

* `store_isPrefix`, `loadRecords_isPrefix`, `load_isPrefix` : the entries before are the first of
  the entries after.
* `Loaded.valid_and_keeps` : the catalogs that loads lead to are valid, and every further load keeps
  the entries of all stems.
-/

/-- Storing adds entries at the end: an entry that is stored again is the one that is there. -/
theorem store_isPrefix (entries : List (Text × Entry)) (c : Catalog) :
    c.entries <+: (store entries c).1.entries := by
  induction entries generalizing c with
  | nil => exact List.prefix_rfl
  | cons p rest ih =>
    obtain ⟨name, entry⟩ := p
    rw [store]
    split
    · exact List.prefix_rfl
    · next hsame =>
      refine List.IsPrefix.trans ?_ (ih _)
      show c.entries <+: c.entries.insert name entry
      cases hfound : c.entries.find? name with
      | none =>
        rw [Table.insert_eq_append hfound]
        exact List.prefix_append _ _
      | some stored =>
        have hstored : stored = entry := by
          simpa [get?, hfound] using hsame
        rw [Table.insert_eq_self (hstored ▸ hfound)]

/-- Suffix tokens are no entries. -/
theorem loadFamilies_entries (families : List (Key × Datum)) (c : Catalog) :
    (loadFamilies families c).1.entries = c.entries := by
  induction families generalizing c with
  | nil => rfl
  | cons p rest ih =>
    obtain ⟨key, tokens⟩ := p
    unfold loadFamilies
    dsimp only
    split
    · rfl
    · split
      · rfl
      · exact ih _

/-- Records add their entries behind those that are there, however the load of them ends. -/
theorem loadRecords_isPrefix (records : List (Key × Datum)) (c : Catalog) :
    c.entries <+: (loadRecords records c).1.entries := by
  induction records generalizing c with
  | nil => exact List.prefix_rfl
  | cons p rest ih =>
    obtain ⟨key, record⟩ := p
    unfold loadRecords
    dsimp only
    split
    · exact List.prefix_rfl
    · next entries _ =>
      have hstored := store_isPrefix entries c
      -- a conflict on a later alias keeps what the record had stored by then
      split
      · next hstore => rwa [hstore] at hstored
      · next hstore =>
        rw [hstore] at hstored
        exact hstored.trans (ih _)

/-- So does a load, which changes no entries before it comes to the records. -/
theorem loadMapping_isPrefix (pairs : List (Key × Datum)) (c : Catalog) :
    c.entries <+: (loadMapping pairs c).1.entries := by
  unfold loadMapping
  split
  · exact List.prefix_rfl
  · next version _ =>
    dsimp only
    split
    · exact List.prefix_rfl
    · next families _ =>
      have hfamilies := loadFamilies_entries families { c with version }
      split
      · next hload =>
        rw [hload] at hfamilies
        exact hfamilies ▸ List.prefix_rfl
      · next c' hload =>
        rw [hload] at hfamilies
        have hkept : c.entries <+: c'.entries := hfamilies ▸ List.prefix_rfl
        split
        · exact hkept
        · exact hkept.trans (loadRecords_isPrefix _ _)

/-- A load adds entries at the end, whether it succeeds or stops halfway. -/
theorem load_isPrefix (c : Catalog) (data : Datum) (source : Text) :
    c.entries <+: (c.load data source).1.entries := by
  unfold load
  cases data with
  | map pairs => exact loadMapping_isPrefix pairs c
  | _ => exact List.prefix_rfl

/-- **Every load history.** Whatever was loaded, with or without success, every stem has one entry,
    which is filed under its own stem and has a category and no slot twice, and every token is a
    text for a value of its family.  No further load takes a stem away or gives it another entry,
    even one that fails. -/
theorem Loaded.valid_and_keeps {c : Catalog} (h : Loaded c) :
    c.Valid ∧ ∀ (data : Datum) (source : Text),
      c.entries <+: (c.load data source).1.entries ∧
      ∀ stem e, c.get? stem = some e → (c.load data source).1.get? stem = some e := by
  refine ⟨h.valid, fun data source => ⟨load_isPrefix c data source, fun stem e hget => ?_⟩⟩
  exact Table.find?_of_isPrefix (load_isPrefix c data source) hget

/-- Data of a vector load with one width. -/
def vectorLoad : Datum :=
  let record := Datum.map [(.text "category", .text "VLOAD"), (.text "suffixes", .text "width")]
  .map [(.text "suffixes", .map [(.text "width", .list [.text "2"])]),
    (.text "builtins", .map [(.text "vload", record)])]

/-- Data of a vector store whose second alias is the stem of the load. -/
def clashingStore : Datum :=
  let aliases := Datum.list [.text "vstore_half", .text "vload"]
  let record := Datum.map [(.text "category", .text "VSTORE"), (.text "aliases", aliases)]
  .map [(.text "builtins", .map [(.text "vstore", record)])]

/-- The store stops at its second alias, after its stem and its first alias were added, and leaves
    the entry of the load as it was. -/
theorem valid_and_keeps_clashingStore :
    let before := (Catalog.empty.load vectorLoad dataSource).1
    let after := before.load clashingStore dataSource
    let vload : Entry := ⟨"vload", .vload, [.width], false, none⟩
    before.Valid ∧ before.get? "vload" = some vload ∧
      after.2 = .error ⟨dataSource, .problem (.conflict "vload")⟩ ∧
      after.1.get? "vload" = some vload ∧ (after.1.get? "vstore_half").isSome := by
  intro before after vload
  have hloaded : Loaded before := .load .empty vectorLoad dataSource
  obtain ⟨hvalid, hkeeps⟩ := hloaded.valid_and_keeps
  have hget : before.get? "vload" = some vload := by decide +kernel
  refine ⟨hvalid, hget, by decide +kernel, ?_, by decide +kernel⟩
  exact (hkeeps clashingStore dataSource).2 _ _ hget

end KernelCalls.Catalog
