import KernelCalls.Datum
import Mathlib.Data.List.Perm.Basic

namespace KernelCalls

/-!
# Data in another order

Who reads a mapping by its keys does not see the order of its pairs.

* `Shuffled` : mappings with the same keys in some order and related values.
* `Shuffled.lookup?_cases` : a name has related values in both, or none in either.
* `ListReordered`, `MapReordered` : values that are lists or mappings in another order.
-/

/-- A key equals a name only if it is the name itself. -/
theorem Key.beq_text_iff {k : Key} {name : Text} : (k == .text name) = true ↔ k = .text name := by
  cases k with
  | text t =>
    show (t == name) = true ↔ _
    simp
  | _ => exact ⟨nofun, nofun⟩

namespace Datum

/-- Mappings with the same keys in some order.  All keys are texts, none comes twice, and the two
    values of a key are related. -/
structure Shuffled (R : Text → Datum → Datum → Prop) (a b : List (Key × Datum)) : Prop where
  text : ∀ p ∈ a, ∃ name, p.1 = .text name
  distinct : (a.map Prod.fst).Nodup
  keys : (a.map Prod.fst).Perm (b.map Prod.fst)
  values : ∀ name x y, (.text name, x) ∈ a → (.text name, y) ∈ b → R name x y

/-- Values that are the same, or lists of the same items in some order. -/
inductive ListReordered : Datum → Datum → Prop where
  | same (d : Datum) : ListReordered d d
  | list {items others : List Datum} (items_perm : items.Perm others) :
    ListReordered (.list items) (.list others)

/-- Values that are the same, or mappings with the same keys in some order and related values. -/
inductive MapReordered (R : Text → Datum → Datum → Prop) : Datum → Datum → Prop where
  | same (d : Datum) : MapReordered R d d
  | map {a b : List (Key × Datum)} (shuffled : Shuffled R a b) : MapReordered R (.map a) (.map b)

variable {R S : Text → Datum → Datum → Prop} {a b : List (Key × Datum)} {d e : Datum}

/-! ### Mappings -/

/-- Mappings are shuffled in either direction, with the relation on values turned round. -/
theorem Shuffled.symm (h : Shuffled R a b) (hR : ∀ name x y, R name x y → S name y x) :
    Shuffled S b a where
  text := by
    intro p hp
    have hkey : p.1 ∈ a.map Prod.fst := h.keys.mem_iff.mpr (List.mem_map_of_mem hp)
    obtain ⟨q, hq, hqp⟩ := List.mem_map.mp hkey
    exact hqp ▸ h.text q hq
  distinct := h.keys.nodup_iff.mp h.distinct
  keys := h.keys.symm
  values := fun name x y hx hy => hR name y x (h.values name y x hy hx)

/-- Two pairs may come in either order. -/
theorem Shuffled.swap {m n : Text} {x x' y y' : Datum} (hne : m ≠ n) (hx : R m x x')
    (hy : R n y y') :
    Shuffled R [(.text m, x), (.text n, y)] [(.text n, y'), (.text m, x')] where
  text := by simp
  distinct := by simpa using hne
  keys := .swap _ _ _
  values := by
    intro name d e hd he
    simp only [List.mem_cons, Prod.mk.injEq, Key.text.injEq, List.not_mem_nil, or_false] at hd he
    rcases hd with ⟨rfl, rfl⟩ | ⟨rfl, rfl⟩
    · rcases he with ⟨heq, -⟩ | ⟨-, rfl⟩
      · exact absurd heq hne
      · exact hx
    · rcases he with ⟨-, rfl⟩ | ⟨heq, -⟩
      · exact hy
      · exact absurd heq.symm hne

/-- Every pair has a partner. -/
theorem Shuffled.exists_partner (h : Shuffled R a b) {k : Key} {x : Datum} (hx : (k, x) ∈ a) :
    ∃ name y, k = .text name ∧ (.text name, y) ∈ b ∧ R name x y := by
  obtain ⟨name, hname⟩ := h.text _ hx
  have hkey : k ∈ b.map Prod.fst := h.keys.mem_iff.mp (List.mem_map.mpr ⟨_, hx, rfl⟩)
  obtain ⟨⟨k', y⟩, hy, rfl⟩ := List.mem_map.mp hkey
  cases hname
  exact ⟨name, y, rfl, hy, h.values name x y hx hy⟩

/-- In a mapping without repeated keys the value of a name is the one that stands there. -/
theorem lookup?_eq_some_iff {name : Text} {x : Datum} (h : (a.map Prod.fst).Nodup) :
    lookup? name a = some x ↔ (.text name, x) ∈ a := by
  induction a with
  | nil => simp [lookup?]
  | cons p rest ih =>
    obtain ⟨k, y⟩ := p
    obtain ⟨hnew, hrest⟩ := List.nodup_cons.mp h
    rw [List.mem_cons, ← ih hrest, lookup?, lookup?, List.find?_cons]
    cases hk : k == .text name with
    | true =>
      obtain rfl := Key.beq_text_iff.mp hk
      -- the name does not come again, so it is found here only
      have hno : lookup? name rest ≠ some x := fun hfound =>
        hnew (List.mem_map.mpr ⟨_, (ih hrest).mp hfound, rfl⟩)
      rw [lookup?] at hno
      simp [hno, eq_comm]
    | false =>
      have hne : ¬ (Key.text name, x) = (k, y) := by
        intro heq
        cases heq
        rw [Key.beq_text_iff.mpr rfl] at hk
        cases hk
      simp [hne]

/-- Where values are the same, every pair of one mapping is one of the other. -/
theorem Shuffled.subset (h : Shuffled (fun _ x y => x = y) a b) : a ⊆ b := by
  rintro ⟨k, x⟩ hx
  obtain ⟨name, y, rfl, hy, rfl⟩ := h.exists_partner hx
  exact hy

/-- A name has related values in both mappings, or none in either. -/
theorem Shuffled.lookup?_cases (h : Shuffled R a b) (name : Text) :
    (lookup? name a = none ∧ lookup? name b = none) ∨
      ∃ x y, lookup? name a = some x ∧ lookup? name b = some y ∧ R name x y := by
  have hb := h.keys.nodup_iff.mp h.distinct
  cases hx : lookup? name a with
  | some x =>
    have hmem := (lookup?_eq_some_iff h.distinct).mp hx
    obtain ⟨_, y, hname, hy, hR⟩ := h.exists_partner hmem
    cases hname
    exact .inr ⟨x, y, rfl, (lookup?_eq_some_iff hb).mpr hy, hR⟩
  | none =>
    refine .inl ⟨rfl, Option.eq_none_iff_forall_ne_some.mpr fun y hy => ?_⟩
    -- a partner in the first mapping would have been found
    have hback := h.symm (S := fun name x y => R name y x) fun _ _ _ => id
    obtain ⟨_, x, hname, hx', -⟩ := hback.exists_partner ((lookup?_eq_some_iff hb).mp hy)
    cases hname
    rw [(lookup?_eq_some_iff h.distinct).mpr hx'] at hx
    cases hx

/-- Where values stay the same, the same is found under a name. -/
theorem Shuffled.lookup?_eq (h : Shuffled R a b) {name : Text}
    (hR : ∀ x y, R name x y → x = y) : lookup? name a = lookup? name b := by
  rcases h.lookup?_cases name with ⟨hx, hy⟩ | ⟨x, y, hx, hy, hxy⟩
  · rw [hx, hy]
  · rw [hx, hy, hR x y hxy]

/-- Reordering a list can be undone. -/
theorem ListReordered.symm (h : ListReordered d e) : ListReordered e d := by
  cases h with
  | same => exact .same _
  | list items_perm => exact .list items_perm.symm

/-- Reordering a mapping can be undone. -/
theorem MapReordered.symm (h : MapReordered R d e) (hR : ∀ name x y, R name x y → S name y x) :
    MapReordered S e d := by
  cases h with
  | same => exact .same _
  | map shuffled => exact .map (shuffled.symm hR)

/-- A reordered list counts as given where the other one does. -/
theorem ListReordered.truthy_eq (h : ListReordered d e) : d.truthy = e.truthy := by
  cases h with
  | same => rfl
  | list items_perm => rw [truthy, truthy, items_perm.isEmpty_eq]

/-- So does a reordered mapping. -/
theorem MapReordered.truthy_eq (h : MapReordered R d e) : d.truthy = e.truthy := by
  cases h with
  | same => rfl
  | map shuffled =>
    have hkeys := shuffled.keys.isEmpty_eq
    rw [List.isEmpty_map, List.isEmpty_map] at hkeys
    rw [truthy, truthy, hkeys]

end Datum

end KernelCalls
