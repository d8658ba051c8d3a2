import KernelCalls.Json5
import KernelCalls.Proofs.Shuffled
import KernelCalls.Proofs.Table
import KernelCalls.Settings

namespace KernelCalls

open Table

/-!
# Objects of settings files

An object is built by storing its members one after the other, so that no name has two values,
however often it is written.

* `Json5.exists_ofPairs` : what is read as an object was built from written pairs.
* `distinct_membersOf_ofPairs` : no name of such an object comes twice.
* `Settings.distinct_readMembers` : the members of a settings file are a table without repeated
  keys.
-/

namespace Json5

/-! ### Words and lists are no objects -/

/-- A decimal is a number and no object. -/
theorem decimal?_ne_map (negative : Bool) (cs : List Char) (pairs : List (Key × Datum)) :
    decimal? negative cs ≠ some (.map pairs) := by
  intro h
  unfold decimal? at h
  dsimp only at h
  split at h
  · cases h
  · split at h
    · cases h
    · split at h <;> cases h

/-- Nor is a number without a sign. -/
theorem unsigned?_ne_map (negative : Bool) (cs : List Char) (pairs : List (Key × Datum)) :
    unsigned? negative cs ≠ some (.map pairs) := by
  intro h
  unfold unsigned? at h
  split at h
  · cases h
  · cases h
  · split at h
    · split at h
      · cases h
      · obtain ⟨ds, -, hds⟩ := Option.map_eq_some_iff.mp h
        cases hds
    · exact decimal?_ne_map _ _ _ h
  · exact decimal?_ne_map _ _ _ h

/-- Nor is any other word. -/
theorem wordValue?_ne_map (cs : List Char) (pairs : List (Key × Datum)) :
    wordValue? cs ≠ some (.map pairs) := by
  intro h
  unfold wordValue? at h
  split at h
  · cases h
  · cases h
  · cases h
  · exact unsigned?_ne_map _ _ _ h

/-- What stands between square brackets is a list and no object. -/
theorem items_ne_map {fuel : Nat} {ts rest : List Token} {read : List Datum}
    {pairs : List (Key × Datum)} : items fuel ts read ≠ some (.map pairs, rest) := by
  induction fuel generalizing ts read with
  | zero => simp [items]
  | succ fuel ih =>
    intro h
    unfold items at h
    split at h
    · cases h
    · cases h
    · next heq _ =>
      injection heq with heq
      subst heq
      obtain ⟨⟨v, rest'⟩, -, h⟩ := Option.bind_eq_some_iff.mp h
      dsimp only at h
      split at h
      · exact ih h
      · cases h
      · cases h

/-! ### Objects -/

/-- An object is built from its members as they are written. -/
theorem members_eq_ofPairs {fuel : Nat} {ts rest : List Token} {read : List (Key × Datum)}
    {d : Datum} (h : members fuel ts read = some (d, rest)) : ∃ pairs, d = .ofPairs pairs := by
  induction fuel generalizing ts read with
  | zero => simp [members] at h
  | succ fuel ih =>
    unfold members at h
    split at h
    · cases h
    · cases h
      exact ⟨_, rfl⟩
    · next written _ _ _ _ key ts _ heq =>
      injection heq with heq
      subst heq
      cases key
      case mark c => cases h
      -- whatever the name is, what follows it is read in the same way
      all_goals
        obtain ⟨name, -, h⟩ := Option.bind_eq_some_iff.mp h
        obtain ⟨⟨v, ts'⟩, -, h⟩ := Option.bind_eq_some_iff.mp h
        dsimp only at h
        split at h
        · exact ih h
        · cases h
          exact ⟨_, rfl⟩
        · cases h
    · cases h

/-- What is read as an object was built from written pairs. -/
theorem exists_ofPairs {s : String} {pairs : List (Key × Datum)}
    (h : parse s = some (.map pairs)) : ∃ written, .map pairs = Datum.ofPairs written := by
  unfold parse at h
  obtain ⟨ts, -, h⟩ := Option.bind_eq_some_iff.mp h
  obtain ⟨⟨d, rest⟩, hvalue, h⟩ := Option.bind_eq_some_iff.mp h
  have hd : d = .map pairs := by
    split at h
    · next heq =>
      cases heq
      cases h
      rfl
    · cases h
  subst hd
  -- of all values only the members between braces make an object
  unfold value at hvalue
  split at hvalue
  · cases hvalue
  · exact absurd hvalue items_ne_map
  · exact members_eq_ofPairs hvalue
  · cases hvalue
  · obtain ⟨v, hv, heq⟩ := Option.map_eq_some_iff.mp hvalue
    cases heq
    exact absurd hv (wordValue?_ne_map _ _)
  · cases hvalue

end Json5

/-! ### Names come once -/

/-- A name is the same key as itself. -/
theorem Key.same_text (name : Text) : Key.same (.text name) (.text name) = true :=
  Key.beq_text_iff.mpr rfl

/-- The members of two lists of pairs are those of the first and then those of the second. -/
theorem membersOf_append (a b : List (Key × Datum)) :
    Settings.membersOf (a ++ b) = Settings.membersOf a ++ Settings.membersOf b :=
  List.filterMap_append

/-- Replacing values replaces no names. -/
theorem map_fst_membersOf_map (f : Key × Datum → Key × Datum) (hf : ∀ p, (f p).1 = p.1)
    (m : List (Key × Datum)) :
    (Settings.membersOf (m.map f)).map Prod.fst = (Settings.membersOf m).map Prod.fst := by
  have hname : ∀ p q : Key × Datum, p.1 = q.1 →
      (Settings.membersOf [p]).map Prod.fst = (Settings.membersOf [q]).map Prod.fst := by
    rintro ⟨key, d⟩ ⟨_, d'⟩ rfl
    cases key <;> rfl
  induction m with
  | nil => rfl
  | cons p rest ih =>
    have happend : ∀ (q : Key × Datum) tail,
        Settings.membersOf (q :: tail) = Settings.membersOf [q] ++ Settings.membersOf tail :=
      fun q tail => membersOf_append [q] tail
    rw [List.map_cons, happend (f p), happend p, List.map_append, List.map_append, ih,
      hname _ _ (hf p)]

/-- Storing a member keeps names distinct. -/
theorem distinct_membersOf_insertPair {m : List (Key × Datum)} (k : Key) (d : Datum)
    (h : Distinct (Settings.membersOf m)) :
    Distinct (Settings.membersOf (Datum.insertPair m k d)) := by
  unfold Datum.insertPair
  split
  · -- the key is there: names stay as they are
    rw [Distinct, map_fst_membersOf_map _ fun p => by split <;> rfl]
    exact h
  · next hnew =>
    rw [membersOf_append]
    cases k with
    | text name =>
      show Distinct (Settings.membersOf m ++ [(name, d)])
      rw [Distinct, List.map_append, List.nodup_append]
      refine ⟨h, List.nodup_singleton _, fun other hother name' hname' heq => hnew ?_⟩
      obtain rfl := List.mem_singleton.mp hname'
      subst heq
      -- the name would be one of the members
      obtain ⟨⟨other', d'⟩, hmem, rfl⟩ := List.mem_map.mp hother
      obtain ⟨⟨key, d''⟩, hp, heq⟩ := List.mem_filterMap.mp hmem
      cases key <;> cases heq
      exact List.any_eq_true.mpr ⟨_, hp, Key.same_text _⟩
    | _ =>
      show Distinct (Settings.membersOf m ++ [])
      rwa [List.append_nil]

/-- No name of an object that was built from pairs comes twice. -/
theorem distinct_membersOf_ofPairs {written pairs : List (Key × Datum)}
    (h : .map pairs = Datum.ofPairs written) : Distinct (Settings.membersOf pairs) := by
  have hfold : ∀ m, Distinct (Settings.membersOf m) → Distinct (Settings.membersOf
      (written.foldl (fun m p => Datum.insertPair m p.1 p.2) m)) := by
    clear h
    induction written with
    | nil => exact fun m hm => hm
    | cons p rest ih => exact fun m hm => ih _ (distinct_membersOf_insertPair p.1 p.2 hm)
  injection h with h
  rw [h]
  exact hfold [] distinct_nil

/-- The members of a settings file are a table without repeated keys. -/
theorem Settings.distinct_readMembers {content : FileContent} {members : Table Text Datum}
    (h : readMembers content = some members) : Distinct members := by
  unfold readMembers at h
  split at h
  · split at h
    · next pairs hparse =>
      cases h
      obtain ⟨written, hwritten⟩ := Json5.exists_ofPairs hparse
      exact distinct_membersOf_ofPairs hwritten
    · cases h
  · cases h

end KernelCalls
