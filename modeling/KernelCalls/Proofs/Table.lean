import KernelCalls.Table
import Mathlib.Data.List.Nodup

namespace KernelCalls.Table

/-!
# Tables without repeated keys

Tables that are filled by `insert` have no key twice, and what is found in them is what they hold.

* `Distinct` : no key comes twice.
* `Distinct.insert` : storing keeps keys distinct.
* `find?_eq_lookup` : finding is what the library does in a list of pairs.
* `Distinct.find?_eq_some_iff` : finding is holding.
* `insert_eq_append`, `insert_eq_self` : storing adds at the end or, under a key with this value,
  nothing.
* `find?_filter_ne` : what is found once a key is taken out.
* `find?_of_isPrefix` : what is found is still found in a table that goes on.
* `Agrees`, `Agrees.find?_insertAll` : storing pairs that give no key a second value adds them all.
* `Same`, `Agrees.same_insertAll` : storing such pairs in another order finds the same values.
* `insertAll_eq_self` : storing what is there changes nothing.
* `Distinct.find?_insertAll` : what is found after storing pairs with distinct keys.
-/

variable {κ α : Type} {k : κ} {a b : α} {t : Table κ α}

/-- No key has two values. -/
def Distinct (t : Table κ α) : Prop := (t.map Prod.fst).Nodup

theorem distinct_nil : Distinct ([] : Table κ α) := List.nodup_nil

variable [DecidableEq κ]

/-- What is held after storing was stored or held before. -/
theorem mem_insert {p : κ × α} (h : p ∈ insert k a t) : p = (k, a) ∨ p ∈ t := by
  induction t with
  | nil => exact .inl (List.mem_singleton.mp h)
  | cons q rest ih =>
    obtain ⟨k', b⟩ := q
    rw [insert] at h
    split at h
    · next hk =>
      subst hk
      rcases List.mem_cons.mp h with rfl | h
      · exact .inl rfl
      · exact .inr (List.mem_cons_of_mem _ h)
    · rcases List.mem_cons.mp h with rfl | h
      · exact .inr List.mem_cons_self
      · exact (ih h).imp id (List.mem_cons_of_mem _)

/-- Storing keeps keys distinct. -/
theorem Distinct.insert (h : Distinct t) : Distinct (insert k a t) := by
  induction t with
  | nil => exact List.nodup_singleton k
  | cons q rest ih =>
    obtain ⟨k', b⟩ := q
    obtain ⟨hnew, hrest⟩ := List.nodup_cons.mp h
    rw [Table.insert]
    split
    · exact h
    · next hk =>
      refine List.nodup_cons.mpr ⟨fun hmem => ?_, ih hrest⟩
      obtain ⟨p, hp, hpk⟩ := List.mem_map.mp hmem
      rcases mem_insert hp with rfl | hp
      · exact hk hpk.symm
      · exact hnew (hpk ▸ List.mem_map_of_mem hp)

/-- What is found is what the library finds in a list of pairs, so that its lemmas apply. -/
theorem find?_eq_lookup (k : κ) (t : Table κ α) : find? k t = t.lookup k := by
  induction t with
  | nil => rfl
  | cons q rest ih =>
    obtain ⟨k', b⟩ := q
    rw [find?, List.lookup_cons]
    by_cases hk : k' = k
    · rw [if_pos hk, beq_iff_eq.mpr hk.symm]
    · rw [if_neg hk, beq_eq_false_iff_ne.mpr (Ne.symm hk), ih]

/-- What is found is held. -/
theorem mem_of_find? (h : find? k t = some a) : (k, a) ∈ t := by
  rw [find?_eq_lookup] at h
  obtain ⟨before, after, rfl, -⟩ := List.lookup_eq_some_iff.mp h
  exact List.mem_append_right _ List.mem_cons_self

/-- Nothing is found under a key that no pair has. -/
theorem find?_eq_none_iff : find? k t = none ↔ ∀ p ∈ t, p.1 ≠ k := by
  rw [find?_eq_lookup, List.lookup_eq_none_iff]
  exact forall₂_congr fun p _ => bne_iff_ne.trans ne_comm

/-- Under distinct keys, what is held is found. -/
theorem Distinct.find?_eq_some_iff (h : Distinct t) : find? k t = some a ↔ (k, a) ∈ t := by
  refine ⟨mem_of_find?, fun hmem => ?_⟩
  obtain ⟨before, after, rfl⟩ := List.append_of_mem hmem
  rw [find?_eq_lookup]
  refine List.lookup_eq_some_iff.mpr ⟨before, after, rfl, fun p hp => bne_iff_ne.mpr ?_⟩
  -- the key of an earlier pair is another one
  rintro rfl
  rw [Distinct, List.map_append] at h
  exact (List.disjoint_of_nodup_append h) (List.mem_map_of_mem hp) List.mem_cons_self

/-- A key has one value. -/
theorem Distinct.eq_of_mem (h : Distinct t) (ha : (k, a) ∈ t) (hb : (k, b) ∈ t) : a = b := by
  have hfound := h.find?_eq_some_iff.mpr ha
  rw [h.find?_eq_some_iff.mpr hb] at hfound
  exact (Option.some.inj hfound).symm

/-! ### What storing adds -/

/-- Under a new key a pair is added at the end. -/
theorem insert_eq_append (h : find? k t = none) : insert k a t = t ++ [(k, a)] := by
  induction t with
  | nil => rfl
  | cons q rest ih =>
    obtain ⟨k', b⟩ := q
    rw [find?] at h
    split at h
    · cases h
    · next hk => rw [insert, if_neg hk, ih h, List.cons_append]

/-- Storing the value that a key has changes nothing. -/
theorem insert_eq_self (h : find? k t = some a) : insert k a t = t := by
  induction t with
  | nil => cases h
  | cons q rest ih =>
    obtain ⟨k', b⟩ := q
    rw [find?] at h
    split at h
    · next hk =>
      cases h
      rw [insert, if_pos hk]
    · next hk => rw [insert, if_neg hk, ih h]

/-- Taking a key out takes out what is found under it, and nothing else. -/
theorem find?_filter_ne (k k' : κ) (t : Table κ α) :
    find? k' (t.filter (·.1 ≠ k)) = if k' = k then none else find? k' t := by
  induction t with
  | nil => simp
  | cons q rest ih =>
    obtain ⟨l, b⟩ := q
    by_cases hl : l = k
    · rw [List.filter_cons_of_neg (by simpa using hl), ih, find?]
      by_cases hk : k' = k
      · rw [if_pos hk, if_pos hk]
      · rw [if_neg hk, if_neg hk, if_neg fun h => hk (h.symm.trans hl)]
    · rw [List.filter_cons_of_pos (by simpa using hl), find?, find?, ih]
      by_cases hk : k' = k
      · rw [if_pos hk, if_pos hk, if_neg fun h => hl (h.trans hk)]
      · rw [if_neg hk, if_neg hk]

/-- In a table that goes on, what stands further in front is found. -/
theorem find?_append (k : κ) (t rest : Table κ α) :
    find? k (t ++ rest) = (find? k t).or (find? k rest) := by
  rw [find?_eq_lookup, find?_eq_lookup, find?_eq_lookup, List.lookup_append]

/-- What is found is still found in a table that goes on. -/
theorem find?_of_isPrefix {t' : Table κ α} (hgrown : t <+: t') (h : find? k t = some a) :
    find? k t' = some a := by
  rw [find?_eq_lookup] at h ⊢
  exact hgrown.lookup_eq_some h

/-! ### Storing many values -/

variable {pairs : List (κ × α)}

/-- No pair gives its key another value than the table or a further pair does. -/
def Agrees (t : Table κ α) (pairs : List (κ × α)) : Prop :=
  ∀ k a, (k, a) ∈ pairs → ∀ b, find? k t = some b ∨ (k, b) ∈ pairs → b = a

/-- Pairs agree with a table if the first one does, and the others do once it is stored. -/
theorem agrees_cons_iff :
    Agrees t ((k, a) :: pairs) ↔
      (∀ b, find? k t = some b → b = a) ∧ Agrees (insert k a t) pairs := by
  have hfound : find? k (insert k a t) = some a := find?_insert_self k a t
  constructor
  · intro h
    refine ⟨fun b hb => h k a List.mem_cons_self b (.inl hb), fun k' a' ha' b hb => ?_⟩
    rw [find?_insert] at hb
    by_cases hk : k = k'
    · subst hk
      -- the stored value is the one of every pair of this key
      obtain rfl := h k a' (List.mem_cons_of_mem _ ha') a (.inr List.mem_cons_self)
      rcases hb with hb | hb
      · simpa using hb.symm
      · exact h k a List.mem_cons_self b (.inr (List.mem_cons_of_mem _ hb))
    · rw [if_neg hk] at hb
      exact h k' a' (List.mem_cons_of_mem _ ha') b (hb.imp id (List.mem_cons_of_mem _))
  · rintro ⟨hfirst, hrest⟩ k' a' ha' b hb
    by_cases hk : k = k'
    · subst hk
      have hhead : ∀ c, (k, c) ∈ (k, a) :: pairs → c = a := by
        intro c hc
        rcases List.mem_cons.mp hc with heq | hc
        · cases heq
          rfl
        · exact (hrest k c hc a (.inl hfound)).symm
      rw [hhead a' ha']
      exact hb.elim (hfirst b) (hhead b)
    · have hbehind : ∀ c, (k', c) ∈ (k, a) :: pairs → (k', c) ∈ pairs := by
        intro c hc
        refine (List.mem_cons.mp hc).resolve_left fun heq => hk ?_
        cases heq
        rfl
      refine hrest k' a' (hbehind a' ha') b ?_
      rw [find?_insert, if_neg hk]
      exact hb.imp id (hbehind b)

/-- Fewer pairs agree as well. -/
theorem Agrees.mono {fewer : List (κ × α)} (h : Agrees t pairs) (hsub : fewer ⊆ pairs) :
    Agrees t fewer :=
  fun k a ha b hb => h k a (hsub ha) b (hb.imp id fun hb => hsub hb)

/-- Storing pairs that agree with a table adds them all and loses nothing. -/
theorem Agrees.find?_insertAll (h : Agrees t pairs) :
    find? k (insertAll t pairs) = some a ↔ find? k t = some a ∨ (k, a) ∈ pairs := by
  induction pairs generalizing t with
  | nil => simp [insertAll]
  | cons p rest ih =>
    obtain ⟨k', a'⟩ := p
    obtain ⟨hfirst, hrest⟩ := agrees_cons_iff.mp h
    -- the first pair agrees with the table, so putting it in loses nothing
    have hstep : find? k (insert k' a' t) = some a ↔ find? k t = some a ∨ (k, a) = (k', a') := by
      rw [find?_insert]
      by_cases hk : k' = k
      · subst hk
        rw [if_pos rfl]
        constructor
        · intro heq
          cases heq
          exact .inr rfl
        · rintro (hb | heq)
          · rw [hfirst a hb]
          · cases heq
            rfl
      · simp [hk, Ne.symm hk]
    rw [insertAll, List.foldl_cons, ← insertAll, ih hrest, hstep, List.mem_cons, or_assoc]

/-- The same values are found in both tables. -/
def Same (t t' : Table κ α) : Prop := ∀ k, find? k t = find? k t'

/-- Tables are the same as long as they have the same pairs, in any order and any number. -/
theorem Agrees.same_insertAll {pairs' : List (κ × α)} (h : Agrees t pairs) (hsub : pairs' ⊆ pairs)
    (hsup : pairs ⊆ pairs') : Same (Table.insertAll t pairs) (Table.insertAll t pairs') := by
  intro k
  refine Option.ext fun a => ?_
  rw [h.find?_insertAll, (h.mono hsub).find?_insertAll]
  exact or_congr_right ⟨fun ha => hsup ha, fun ha => hsub ha⟩

/-- Pairs that were stored agree with the table, now also when stored again. -/
theorem Agrees.insertAll (h : Agrees t pairs) : Agrees (insertAll t pairs) pairs := by
  intro k a ha b hb
  rw [h.find?_insertAll] at hb
  exact h k a ha b (hb.elim id .inr)

/-- Storing what is there changes nothing. -/
theorem insertAll_eq_self (h : ∀ p ∈ pairs, find? p.1 t = some p.2) : insertAll t pairs = t := by
  induction pairs with
  | nil => rfl
  | cons p rest ih =>
    obtain ⟨hfirst, hrest⟩ := List.forall_mem_cons.mp h
    rw [insertAll, List.foldl_cons, insert_eq_self hfirst]
    exact ih hrest

/-- Storing pairs with distinct keys puts them in front of what was found before. -/
theorem Distinct.find?_insertAll (h : Distinct pairs) :
    find? k (insertAll t pairs) = (find? k pairs).or (find? k t) := by
  induction pairs generalizing t with
  | nil => rfl
  | cons p rest ih =>
    obtain ⟨k', a⟩ := p
    obtain ⟨hnew, hrest⟩ := List.nodup_cons.mp h
    rw [insertAll, List.foldl_cons, ← insertAll, ih hrest, find?_insert]
    by_cases hk : k' = k
    · subst hk
      have hnone : find? k' rest = none := by
        refine find?_eq_none_iff.mpr fun q hq heq => hnew ?_
        exact List.mem_map.mpr ⟨q, hq, heq⟩
      rw [if_pos rfl, hnone, find?, if_pos rfl]
      rfl
    · rw [if_neg hk, find?, if_neg hk]

/-- Storing many values keeps keys distinct. -/
theorem distinct_insertAll (h : Distinct t) : Distinct (insertAll t pairs) := by
  induction pairs generalizing t with
  | nil => exact h
  | cons p rest ih => exact ih h.insert

end KernelCalls.Table
