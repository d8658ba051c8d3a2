import KernelCalls.Registry.Basic
import KernelCalls.Proofs.Outcome
import KernelCalls.Proofs.Table

namespace KernelCalls

open Outcome

/-!
# Lookups one after the other

A registry that is used by one lookup at a time answers as its pipeline does, and keeps the
description and the failure of every symbol that it has answered for.

* `build_failure_iff` : the pipeline gives a failure with the invalid description only.
* `Build.answer` : the answer that the pipeline has for a symbol.
* `Registry.Faithful` : what is kept is what the pipeline gave for the symbols that were answered
  for, and the runs are counted.
* `Faithful.lookup_eq` : a lookup answers as the pipeline does.
* `Faithful.lookup_ok`, `Faithful.lookup_error` : what is kept stays faithful.
-/

/-! ### The pipeline -/

/-- What is accepted as a description is left as it is. -/
theorem isValid_of_check {info checked : CallInfo} {wrap : CallInfo.Error → Stop}
    (h : info.check.mapError wrap = .ok checked) : checked.isValid = info.isValid := by
  cases hcheck : info.check with
  | error e =>
    rw [hcheck] at h
    cases h
  | ok same =>
    rw [hcheck] at h
    cases h
    rw [(CallInfo.check_eq_ok_iff.mp hcheck).1]

/-- Descriptions that are put together are valid. -/
theorem assemble_isValid {d : Mangling.Decoded} {m : Match} {widths : List Int} {info : CallInfo}
    (h : assemble d m widths = .ok info) : info.isValid = true := by
  unfold assemble at h
  dsimp only at h
  split at h
  · obtain ⟨returnType, -, h⟩ := bind_eq_ok_iff.mp h
    exact isValid_of_check h
  · exact isValid_of_check h

/-- Calls that are recognised have valid descriptions. -/
theorem recognise_isValid {m : Matcher} {c : Catalog} {widths : List Int} {symbol : Text}
    {info : CallInfo} (h : recognise m c widths symbol = .ok info) : info.isValid = true := by
  unfold recognise at h
  split at h
  · cases h
  · cases h
  · split at h
    · cases h
    · exact assemble_isValid h

/-- The pipeline gives a failure if and only if the symbol is no recognised call. -/
theorem build_failure_iff {m : Matcher} {c : Catalog} {widths : List Int} {symbol : Text}
    {info : CallInfo} {failure : Option LookupFailure}
    (h : build m c widths symbol = .ok (info, failure)) :
    failure.isSome ↔ info.isValid = false := by
  unfold build at h
  -- a failure, a fault, or a call that was recognised and written down
  split at h
  · cases h
    simp [CallInfo.invalid]
  · cases h
  · next found hfound =>
    split at h
    · cases h
      simp [recognise_isValid hfound]
    · cases h

/-- The answer that a pipeline has for a symbol. -/
def Build.answer (uncached : Build) (symbol : Text) : Except Registry.LookupError CallInfo :=
  match uncached symbol with
  | .ok (info, _) => .ok info
  | .error f => .error (.fault f)

/-- An answer is a description that the pipeline gives. -/
theorem Build.exists_of_answer_ok {uncached : Build} {symbol : Text} {info : CallInfo}
    (h : uncached.answer symbol = .ok info) :
    ∃ failure, uncached symbol = .ok (info, failure) := by
  unfold Build.answer at h
  split at h
  · next failure hbuild =>
    cases h
    exact ⟨failure, hbuild⟩
  · cases h

/-- Only a fault keeps the pipeline from an answer. -/
theorem Build.exists_of_answer_error {uncached : Build} {symbol : Text}
    {e : Registry.LookupError} (h : uncached.answer symbol = .error e) :
    ∃ f, uncached symbol = .error f ∧ e = .fault f := by
  unfold Build.answer at h
  split at h
  · cases h
  · next f hbuild =>
    cases h
    exact ⟨f, hbuild, rfl⟩

namespace Registry

/-! ### What is kept -/

/-- The registry is open and idle, it keeps what the pipeline gave for the symbols that were
    answered for, and its runs are those of the symbols that are kept and those that raised a
    fault. -/
structure Faithful (r : Registry) (uncached : Build) (answered : Text → Prop) (raised : Nat) :
    Prop where
  isOpen : r.closed = false
  lasting : r.closesItself = false
  idle : r.pending = []
  distinct : r.cache.Distinct
  described : ∀ s, answered s → ∃ info failure, uncached s = .ok (info, failure)
  cached : ∀ s info, Table.find? s r.cache = some info ↔
    answered s ∧ ∃ failure, uncached s = .ok (info, failure)
  failures : ∀ s f, Table.find? s r.failures = some f ↔
    answered s ∧ ∃ info, uncached s = .ok (info, some f)
  counted : r.buildCount = r.cache.length + raised

variable {r : Registry} {uncached : Build} {answered : Text → Prop} {raised : Nat}

/-- A fresh registry has answered for nothing and keeps nothing. -/
theorem faithful_ofCatalog (id : Nat) (c : Catalog) (widths : List Int) (uncached : Build)
    (hnone : ∀ s, ¬ answered s) : (ofCatalog id c widths).Faithful uncached answered 0 where
  isOpen := rfl
  lasting := rfl
  idle := rfl
  distinct := Table.distinct_nil
  described s hs := absurd hs (hnone s)
  cached s info := by simp [ofCatalog, hnone]
  failures s f := by simp [ofCatalog, hnone]
  counted := rfl

/-- The symbols that are kept are those that were answered for. -/
theorem Faithful.contains_iff (h : r.Faithful uncached answered raised) (s : Text) :
    r.contains s = true ↔ answered s := by
  unfold contains Table.contains
  -- what is kept was answered for, and what was answered for is kept
  constructor
  · intro hkept
    obtain ⟨info, hinfo⟩ := Option.isSome_iff_exists.mp hkept
    exact ((h.cached s info).mp hinfo).1
  · intro hs
    obtain ⟨info, hbuild⟩ := h.described s hs
    rw [(h.cached s info).mpr ⟨hs, hbuild⟩]
    rfl

/-- If the pipeline gives a failure with the invalid description only, failures are kept of the
    symbols that are kept with it. -/
theorem Faithful.failure_iff (h : r.Faithful uncached answered raised)
    (hfailure : ∀ s info failure, uncached s = .ok (info, failure) →
      (failure.isSome ↔ info.isValid = false)) (s : Text) :
    (r.failure? s).isSome ↔
      ∃ info, Table.find? s r.cache = some info ∧ info.isValid = false := by
  constructor
  · intro hsome
    obtain ⟨f, hf⟩ := Option.isSome_iff_exists.mp hsome
    obtain ⟨hs, info, hbuild⟩ := (h.failures s f).mp hf
    exact ⟨info, (h.cached s info).mpr ⟨hs, _, hbuild⟩, (hfailure s info _ hbuild).mp rfl⟩
  · rintro ⟨info, hinfo, hinvalid⟩
    obtain ⟨hs, failure, hbuild⟩ := (h.cached s info).mp hinfo
    obtain ⟨f, rfl⟩ := Option.isSome_iff_exists.mp ((hfailure s info _ hbuild).mpr hinvalid)
    have hf : r.failure? s = some f := (h.failures s f).mpr ⟨hs, info, hbuild⟩
    rw [hf]
    rfl

/-- Only which symbols were answered for matters. -/
theorem Faithful.congr {answered' : Text → Prop} (h : r.Faithful uncached answered raised)
    (hsame : ∀ s, answered' s ↔ answered s) : r.Faithful uncached answered' raised := by
  have heq : answered' = answered := funext fun s => propext (hsame s)
  exact heq ▸ h

/-- On an open registry at rest, a lookup of a symbol that is not kept publishes what the pipeline
    comes to. -/
theorem lookup_of_idle (hopen : r.closed = false) (hlasting : r.closesItself = false)
    (hidle : r.pending = []) {s : Text} (hnone : Table.find? s r.cache = none) :
    r.lookup uncached s = match uncached s with
      | .ok (info, failure) =>
        (.ok info, { r with buildCount := r.buildCount + 1 }.publish s info failure)
      | .error f => (.error (.fault f), { r with buildCount := r.buildCount + 1 }) := by
  have hfree : Table.find? s r.pending = none := by rw [hidle, Table.find?_nil]
  -- whoever owns the work writes it down, and takes it out again at the end
  have hrelease : (r.pending.insert s r.buildCount).filter (·.1 ≠ s) = r.pending := by
    rw [hidle]
    simp [Table.insert]
  -- the symbol is claimed at once, since nobody else works on it
  unfold lookup claim
  simp only [hnone, hopen, hfree, Bool.false_eq_true, if_false, startBuild, hlasting]
  cases uncached s with
  | error f =>
    dsimp only [release]
    rw [hrelease]
  | ok result =>
    obtain ⟨info, failure⟩ := result
    dsimp only [release, publish]
    simp only [Bool.false_eq_true, if_false]
    rw [hrelease]

/-- The registry after a lookup of a symbol that is not kept. -/
theorem Faithful.lookup_of_none (h : r.Faithful uncached answered raised) {s : Text}
    (hnone : Table.find? s r.cache = none) :
    r.lookup uncached s = match uncached s with
      | .ok (info, failure) =>
        (.ok info, { r with
          cache := r.cache ++ [(s, info)]
          failures := match failure with
            | some f => r.failures.insert s f
            | none => r.failures
          buildCount := r.buildCount + 1 })
      | .error f => (.error (.fault f), { r with buildCount := r.buildCount + 1 }) := by
  rw [lookup_of_idle h.isOpen h.lasting h.idle hnone]
  cases uncached s with
  | error f => rfl
  | ok result =>
    obtain ⟨info, failure⟩ := result
    -- a symbol that is not kept joins the end of the cache
    cases failure <;>
      simp only [publish, h.isOpen, Bool.false_eq_true, if_false, Table.insert_eq_append hnone]

/-- A lookup does not change what the pipeline is made of. -/
theorem Faithful.lookup_pipeline (h : r.Faithful uncached answered raised) (s : Text) :
    (r.lookup uncached s).2.catalog = r.catalog ∧
      (r.lookup uncached s).2.pipeline = r.pipeline := by
  cases hfound : Table.find? s r.cache with
  | some info =>
    unfold lookup
    rw [hfound]
    exact ⟨rfl, rfl⟩
  | none =>
    rw [h.lookup_of_none hfound]
    cases uncached s <;> exact ⟨rfl, rfl⟩

/-- A symbol that is not kept was not answered for, or has no description. -/
theorem Faithful.not_answered (h : r.Faithful uncached answered raised) {s : Text}
    (hnone : Table.find? s r.cache = none) {info : CallInfo} {failure : Option LookupFailure}
    (hbuild : uncached s = .ok (info, failure)) : ¬ answered s := by
  intro hs
  rw [(h.cached s info).mpr ⟨hs, failure, hbuild⟩] at hnone
  cases hnone

/-- A lookup answers as the pipeline does. -/
theorem Faithful.lookup_eq (h : r.Faithful uncached answered raised) (s : Text) :
    (r.lookup uncached s).1 = uncached.answer s := by
  cases hfound : Table.find? s r.cache with
  | some info =>
    obtain ⟨-, failure, hbuild⟩ := (h.cached s info).mp hfound
    unfold lookup Build.answer
    rw [hfound, hbuild]
  | none =>
    rw [h.lookup_of_none hfound, Build.answer]
    cases uncached s <;> rfl

/-- A lookup that is answered adds its symbol to those that were answered for. -/
theorem Faithful.lookup_ok (h : r.Faithful uncached answered raised) {s : Text} {info : CallInfo}
    (hanswer : uncached.answer s = .ok info) :
    (r.lookup uncached s).2.Faithful uncached (fun s' => s' = s ∨ answered s') raised := by
  obtain ⟨failure, hbuild⟩ := Build.exists_of_answer_ok hanswer
  -- a symbol that is kept was answered for already; any other one joins
  cases hfound : Table.find? s r.cache with
  | some kept =>
    have hs := ((h.cached s kept).mp hfound).1
    have hsame : (r.lookup uncached s).2 = r := by
      unfold lookup
      rw [hfound]
    rw [hsame]
    refine h.congr fun s' => ⟨?_, .inr⟩
    rintro (rfl | hs')
    · exact hs
    · exact hs'
  | none =>
    have hnew := h.not_answered hfound hbuild
    -- a symbol that was not answered for has no failure either
    have hclear : Table.find? s r.failures = none := by
      cases hfailure : Table.find? s r.failures with
      | none => rfl
      | some f => exact absurd ((h.failures s f).mp hfailure).1 hnew
    rw [h.lookup_of_none hfound, hbuild]
    dsimp only
    constructor
    case isOpen => exact h.isOpen
    case lasting => exact h.lasting
    case idle => exact h.idle
    case distinct =>
      show Table.Distinct (r.cache ++ [(s, info)])
      rw [← Table.insert_eq_append hfound]
      exact h.distinct.insert
    case described =>
      rintro s' (rfl | hs')
      · exact ⟨info, failure, hbuild⟩
      · exact h.described s' hs'
    case cached =>
      intro s' info'
      show Table.find? s' (r.cache ++ [(s, info)]) = some info' ↔ _
      rw [← Table.insert_eq_append hfound, Table.find?_insert]
      split
      · next hs =>
        subst hs
        simp [hbuild]
      · next hs => simp [h.cached, Ne.symm hs]
    case failures =>
      intro s' f
      by_cases hs : s' = s
      · subst hs
        cases failure with
        | none => simp [hclear, hbuild]
        | some g => simp [hbuild]
      · cases failure with
        | none => simp [h.failures, hs]
        | some g => simp [Table.find?_insert, h.failures, hs, Ne.symm hs]
    case counted =>
      show r.buildCount + 1 = (r.cache ++ [(s, info)]).length + raised
      rw [h.counted, List.length_append, List.length_singleton]
      omega

/-- A lookup that raises a fault changes nothing but the number of runs. -/
theorem Faithful.lookup_error (h : r.Faithful uncached answered raised) {s : Text}
    {e : LookupError} (hanswer : uncached.answer s = .error e) :
    (r.lookup uncached s).2 = { r with buildCount := r.buildCount + 1 } ∧
      (r.lookup uncached s).2.Faithful uncached answered (raised + 1) := by
  obtain ⟨f, hbuild, -⟩ := Build.exists_of_answer_error hanswer
  -- a symbol that is kept would have been answered
  have hnone : Table.find? s r.cache = none := by
    cases hfound : Table.find? s r.cache with
    | none => rfl
    | some info =>
      obtain ⟨-, failure, hok⟩ := (h.cached s info).mp hfound
      rw [hbuild] at hok
      cases hok
  have hafter : (r.lookup uncached s).2 = { r with buildCount := r.buildCount + 1 } := by
    rw [h.lookup_of_none hnone, hbuild]
  refine ⟨hafter, ?_⟩
  rw [hafter]
  refine ⟨h.isOpen, h.lasting, h.idle, h.distinct, h.described, h.cached, h.failures, ?_⟩
  show r.buildCount + 1 = r.cache.length + (raised + 1)
  rw [h.counted, Nat.add_assoc]

end Registry

end KernelCalls
