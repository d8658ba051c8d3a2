import Mathlib.Tactic.SplitIfs

namespace KernelCalls.Outcome

/-!
# Results that may be errors

When a composed computation succeeds, so did its parts.  These equivalences open `bind` and `map` of
`Except` without unfolding them, and `mapM` item by item.
-/

variable {ε α β : Type}

@[simp] theorem ok_bind (a : α) (f : α → Except ε β) : (Except.ok a).bind f = f a := rfl

@[simp] theorem error_bind (e : ε) (f : α → Except ε β) :
    (Except.error e : Except ε α).bind f = .error e := rfl

@[simp] theorem map_ok (f : α → β) (a : α) : (Except.ok a : Except ε α).map f = .ok (f a) := rfl

@[simp] theorem map_error (f : α → β) (e : ε) :
    (Except.error e : Except ε α).map f = .error e := rfl

/-- A function on the result of two steps acts on the result of the second. -/
theorem map_bind_eq {γ : Type} (x : Except ε α) (f : α → Except ε β) (g : β → γ) :
    (x.bind f).map g = x.bind fun a => (f a).map g := by
  cases x <;> rfl

/-- Two steps succeed if the first does, and the second on what it gives. -/
theorem bind_eq_ok_iff {x : Except ε α} {f : α → Except ε β} {b : β} :
    x.bind f = .ok b ↔ ∃ a, x = .ok a ∧ f a = .ok b := by
  cases x with
  | error e => simp
  | ok a => simp

/-- A function succeeds where its argument does. -/
theorem map_eq_ok_iff {x : Except ε α} {f : α → β} {b : β} :
    x.map f = .ok b ↔ ∃ a, x = .ok a ∧ f a = b := by
  cases x with
  | error e => simp
  | ok a => simp

/-! ### Results of many items -/

/-- Steps over a list begin with the step of its head. -/
theorem mapM_cons (f : α → Except ε β) (a : α) (items : List α) :
    (a :: items).mapM f = (f a).bind fun b => (items.mapM f).map (b :: ·) := by
  rw [List.mapM_cons]
  cases f a with
  | error e => rfl
  | ok b => cases items.mapM f <;> rfl

/-- Steps that all succeed succeed together. -/
theorem exists_mapM_eq_ok {f : α → Except ε β} {items : List α}
    (h : ∀ a ∈ items, ∃ b, f a = .ok b) : ∃ bs, items.mapM f = .ok bs := by
  induction items with
  | nil => exact ⟨[], rfl⟩
  | cons a rest ih =>
    obtain ⟨⟨b, hb⟩, hrest⟩ := List.forall_mem_cons.mp h
    obtain ⟨bs, hbs⟩ := ih hrest
    exact ⟨b :: bs, by rw [mapM_cons, hb, hbs, ok_bind, map_ok]⟩

/-- The results are those of the items. -/
theorem mem_mapM_iff {f : α → Except ε β} {items : List α} {bs : List β}
    (h : items.mapM f = .ok bs) {b : β} : b ∈ bs ↔ ∃ a ∈ items, f a = .ok b := by
  induction items generalizing bs with
  | nil =>
    cases h
    simp
  | cons a rest ih =>
    rw [mapM_cons] at h
    obtain ⟨first, hfirst, h⟩ := bind_eq_ok_iff.mp h
    obtain ⟨others, hothers, rfl⟩ := map_eq_ok_iff.mp h
    simp [ih hothers, hfirst, eq_comm]

/-- Steps that succeed together succeed each, with a result among the results. -/
theorem exists_of_mapM_eq_ok {f : α → Except ε β} {items : List α} {bs : List β}
    (h : items.mapM f = .ok bs) {a : α} (ha : a ∈ items) : ∃ b ∈ bs, f a = .ok b := by
  induction items generalizing bs with
  | nil => cases ha
  | cons first rest ih =>
    rw [mapM_cons] at h
    obtain ⟨b, hb, h⟩ := bind_eq_ok_iff.mp h
    obtain ⟨others, hothers, rfl⟩ := map_eq_ok_iff.mp h
    rcases List.mem_cons.mp ha with rfl | ha
    · exact ⟨b, List.mem_cons_self, hb⟩
    · obtain ⟨b', hb', hf⟩ := ih hothers ha
      exact ⟨b', List.mem_cons_of_mem _ hb', hf⟩

/-- More items have more results. -/
theorem mapM_subset {f : α → Except ε β} {items others : List α} {bs bs' : List β}
    (h : items.mapM f = .ok bs) (h' : others.mapM f = .ok bs') (hsub : items ⊆ others) :
    bs ⊆ bs' := by
  intro b hb
  obtain ⟨a, ha, hf⟩ := (mem_mapM_iff h).mp hb
  exact (mem_mapM_iff h').mpr ⟨a, hsub ha, hf⟩

/-- Fewer items have results if all have. -/
theorem exists_mapM_of_subset {f : α → Except ε β} {items others : List α} {bs : List β}
    (h : items.mapM f = .ok bs) (hsub : others ⊆ items) :
    ∃ bs', others.mapM f = .ok bs' ∧ bs' ⊆ bs := by
  obtain ⟨bs', hbs'⟩ := exists_mapM_eq_ok fun a ha =>
    (exists_of_mapM_eq_ok h (hsub ha)).imp fun _ hf => hf.2
  exact ⟨bs', hbs', mapM_subset hbs' h hsub⟩

/-- Items that are each related to one of a list that has results have results, too, and these are
    related to results of that list. -/
theorem exists_mapM_of_related {α' β' : Type} {f : α → Except ε β} {g : α' → Except ε β'}
    {S : β → β' → Prop} {items : List α} {others : List α'} {bs : List β}
    (h : items.mapM f = .ok bs)
    (hrelated : ∀ a' ∈ others, ∃ a ∈ items, ∀ b, f a = .ok b → ∃ b', g a' = .ok b' ∧ S b b') :
    ∃ bs', others.mapM g = .ok bs' ∧ ∀ b' ∈ bs', ∃ b ∈ bs, S b b' := by
  have hresult : ∀ a' ∈ others, ∃ b', g a' = .ok b' ∧ ∃ b ∈ bs, S b b' := by
    intro a' ha'
    obtain ⟨a, ha, hresult⟩ := hrelated a' ha'
    obtain ⟨b, hb, hf⟩ := exists_of_mapM_eq_ok h ha
    obtain ⟨b', hb', hS⟩ := hresult b hf
    exact ⟨b', hb', b, hb, hS⟩
  obtain ⟨bs', hbs'⟩ := exists_mapM_eq_ok fun a' ha' => (hresult a' ha').imp fun _ h => h.1
  refine ⟨bs', hbs', fun b' hb' => ?_⟩
  obtain ⟨a', ha', hg⟩ := (mem_mapM_iff hbs').mp hb'
  obtain ⟨b'', hb'', hS⟩ := hresult a' ha'
  rw [hg] at hb''
  cases hb''
  exact hS

end KernelCalls.Outcome
