import KernelCalls.Proofs.Recognition
import KernelCalls.Proofs.Registry.Transparent

namespace KernelCalls

/-!
# Open registries answer

A registry that is used by one lookup after the other answers every one of them, while its catalog
may grow in between.  A symbol that cannot be decoded is answered with the invalid description, and
the failure is kept with it.  Only numbers beyond `Text.maxDigits` leave a lookup without an answer.

* `Registry.Used` : the registries that lookups lead to.
* `Registry.Attentive` : what is kept of the symbols that cannot be decoded.
* `Registry.Attentive.lookup`, `Registry.Used.attentive` : every lookup keeps that.
* `Registry.decode_and_lookup_cases` : what decoding and lookups come to.
* `Registry.not_answered_onesSymbol` : a symbol without an answer.
-/

open Mangling (decode)

namespace Registry

/-- The registries that lookups lead to, from a fresh one on; loads may have changed the catalog
    before each of them. -/
inductive Used (built : Catalog) (widths : List Int) : Registry → Prop where
  | fresh (id : Nat) : Used built widths (ofCatalog id built widths)
  | lookup {r : Registry} (before : Used built widths r) {c : Catalog} (loaded : c.Loaded)
      (symbol : Text) : Used built widths (r.lookup (r.pipeline c) symbol).2

/-- The registry is open and at rest, its pipeline is the one it was made with, and a symbol that
    cannot be decoded is kept with the invalid description and the failure, if at all. -/
structure Attentive (r : Registry) (built : Catalog) (widths : List Int) : Prop where
  isOpen : r.closed = false
  lasting : r.closesItself = false
  idle : r.pending = []
  matcher : r.matcher = .ofCatalog built
  widths_eq : r.widths = widths
  kept : ∀ s f info, decode s widths = .error (.failed f) → Table.find? s r.cache = some info →
    info = .invalid ∧ Table.find? s r.failures = some (.decode f)

/-- A fresh registry keeps nothing yet. -/
theorem attentive_ofCatalog (id : Nat) (built : Catalog) (widths : List Int) :
    (ofCatalog id built widths).Attentive built widths where
  isOpen := rfl
  lasting := rfl
  idle := rfl
  matcher := rfl
  widths_eq := rfl
  kept := by
    intro s f info _ h
    cases h

variable {r : Registry} {built c : Catalog} {widths : List Int}

/-- The pipeline of the registry over the catalog as it is now. -/
theorem Attentive.pipeline_eq (h : r.Attentive built widths) (c : Catalog) :
    r.pipeline c = build (.ofCatalog built) c widths := by
  rw [pipeline, h.matcher, h.widths_eq]

/-- Publishing what the pipeline comes to keeps what is kept of the other symbols. -/
theorem Attentive.publish (h : r.Attentive built widths) {s : Text} {info : CallInfo}
    {failure : Option LookupFailure}
    (hbuild : build (.ofCatalog built) c widths s = .ok (info, failure)) :
    (r.publish s info failure).Attentive built widths := by
  unfold Registry.publish
  rw [if_neg (by simp [h.isOpen])]
  refine ⟨h.isOpen, h.lasting, h.idle, h.matcher, h.widths_eq, fun s' f info' hdecode hfound => ?_⟩
  change Table.find? s' (r.cache.insert s info) = some info' at hfound
  rw [Table.find?_insert] at hfound
  split at hfound
  · next hs =>
    -- the symbol itself: its failure is that of the decoding
    subst hs
    rw [build_of_failed hdecode] at hbuild
    cases hbuild
    cases hfound
    exact ⟨rfl, Table.find?_insert_self s _ _⟩
  · next hs =>
    obtain ⟨hinfo, hfailure⟩ := h.kept s' f info' hdecode hfound
    refine ⟨hinfo, ?_⟩
    cases failure with
    | none => exact hfailure
    | some g =>
      show Table.find? s' (r.failures.insert s g) = _
      rw [Table.find?_insert, if_neg hs, hfailure]

/-- The number of runs does not matter to what is kept. -/
theorem Attentive.withCount (h : r.Attentive built widths) (n : Nat) :
    Attentive { r with buildCount := n } built widths :=
  ⟨h.isOpen, h.lasting, h.idle, h.matcher, h.widths_eq, h.kept⟩

/-- What a lookup comes to: what is kept, or else what the pipeline says. -/
theorem Attentive.lookup_eq (h : r.Attentive built widths) (c : Catalog) (s : Text) :
    r.lookup (r.pipeline c) s = match Table.find? s r.cache with
      | some info => (.ok info, r)
      | none =>
        match build (.ofCatalog built) c widths s with
        | .ok (info, failure) =>
          (.ok info, { r with buildCount := r.buildCount + 1 }.publish s info failure)
        | .error f => (.error (.fault f), { r with buildCount := r.buildCount + 1 }) := by
  cases hfound : Table.find? s r.cache with
  | some info =>
    unfold Registry.lookup
    rw [hfound]
  | none =>
    refine (lookup_of_idle h.isOpen h.lasting h.idle hfound).trans ?_
    cases hbuild : build (.ofCatalog built) c widths s <;> simp only [h.pipeline_eq, hbuild]

/-- A lookup keeps what is kept of the symbols that cannot be decoded. -/
theorem Attentive.lookup (h : r.Attentive built widths) (c : Catalog) (s : Text) :
    (r.lookup (r.pipeline c) s).2.Attentive built widths := by
  rw [h.lookup_eq]
  split
  · exact h
  · split
    · next hbuild => exact (h.withCount _).publish hbuild
    · exact h.withCount _

/-- Whatever was looked up, a registry is attentive. -/
theorem Used.attentive (h : Used built widths r) : r.Attentive built widths := by
  induction h with
  | fresh id => exact attentive_ofCatalog id built widths
  | lookup _ _ symbol ih => exact ih.lookup _ symbol

/-- A symbol that cannot be decoded is answered with the invalid description and kept with the
    failure. -/
theorem Attentive.lookup_of_failed (h : r.Attentive built widths) (c : Catalog) {s : Text}
    {f : Mangling.Failure} (hdecode : decode s widths = .error (.failed f)) :
    (r.lookup (r.pipeline c) s).1 = .ok .invalid ∧
      (r.lookup (r.pipeline c) s).2.contains s = true ∧
      (r.lookup (r.pipeline c) s).2.failure? s = some (.decode f) := by
  rw [h.lookup_eq]
  split
  · -- an answer that is kept was given before, with the failure
    next info hfound =>
    obtain ⟨rfl, hfailure⟩ := h.kept s f info hdecode hfound
    rw [contains, Table.contains, hfound]
    exact ⟨rfl, rfl, hfailure⟩
  · simp only [build_of_failed hdecode, Registry.publish, h.isOpen, Bool.false_eq_true, if_false]
    refine ⟨trivial, ?_, Table.find?_insert_self s _ _⟩
    show (Table.find? s (r.cache.insert s .invalid)).isSome = true
    rw [Table.find?_insert_self]
    rfl

/-- A lookup is answered unless a number is too long. -/
theorem Attentive.answers_or_limit (h : r.Attentive built widths) (hbuilt : built.Loaded)
    (hc : c.Loaded) (s : Text) :
    (∃ info, (r.lookup (r.pipeline c) s).1 = .ok info) ∨
      ∃ e, (r.lookup (r.pipeline c) s).1 = .error (.fault (.number e)) ∧
        Limit built.tokens s e := by
  rw [h.lookup_eq]
  split
  · exact .inl ⟨_, rfl⟩
  · rcases build_cases hbuilt hc widths s with ⟨info, hbuild, -⟩ | ⟨f, hbuild, -⟩ | ⟨e, hbuild, he⟩
    · exact .inl ⟨info, by rw [hbuild]⟩
    · exact .inl ⟨.invalid, by rw [hbuild]⟩
    · exact .inr ⟨e, by rw [hbuild], he⟩

/-- **Answers.** A symbol is decoded or refused, for a reason that can be written down, unless a
    number in it is too long; then it has more than 2764 characters.  On every open registry, a
    symbol that is refused is answered with the invalid description, which is kept with the failure,
    and any lookup is answered unless a number in the symbol or the value of a width token is too
    long. -/
theorem decode_and_lookup_cases (symbol : Text) (widths : List Int) :
    ((∃ d, decode symbol widths = .ok d) ∨
      (∃ f, decode symbol widths = .error (.failed f) ∧ f.symbol = symbol ∧
        f.reason.Presentable) ∨
      ∃ e, decode symbol widths = .error (.fault (.number e)) ∧ Mangling.Overlong symbol e) ∧
    (∀ e, Mangling.Overlong symbol e → 2764 < symbol.length) ∧
    ∀ {built c : Catalog} {r : Registry}, built.Loaded → c.Loaded → Used built widths r →
      r.closed = false ∧
      (∀ f, decode symbol widths = .error (.failed f) →
        (r.lookup (r.pipeline c) symbol).1 = .ok .invalid ∧
        (r.lookup (r.pipeline c) symbol).2.contains symbol = true ∧
        (r.lookup (r.pipeline c) symbol).2.failure? symbol = some (.decode f)) ∧
      ((∃ info, (r.lookup (r.pipeline c) symbol).1 = .ok info) ∨
        ∃ e, (r.lookup (r.pipeline c) symbol).1 = .error (.fault (.number e)) ∧
          Limit built.tokens symbol e) := by
  refine ⟨Mangling.decode_cases symbol widths, fun e he => he.length_lt, ?_⟩
  intro built c r hbuilt hc hused
  have hattentive := hused.attentive
  exact ⟨hattentive.isOpen, fun f => hattentive.lookup_of_failed c,
    hattentive.answers_or_limit hbuilt hc symbol⟩

/-- A symbol with an unknown type is answered and kept after a lookup of another one. -/
theorem lookup_unknownType :
    let r := Registry.ofCatalog 0 conversions [2, 16]
    let used := (r.lookup (r.pipeline conversions) "main").2
    let answer := used.lookup (used.pipeline conversions) "_Z3fooQ"
    answer.1 = .ok .invalid ∧ answer.2.failure? "_Z3fooQ" =
      some (.decode ⟨"_Z3fooQ", .unknownTypeCode 'Q', 6⟩) := by
  intro r used answer
  have hused : Used conversions [2, 16] used :=
    (Used.fresh 0).lookup loaded_conversions "main"
  obtain ⟨-, -, hlookups⟩ := decode_and_lookup_cases "_Z3fooQ" [2, 16]
  obtain ⟨-, hrefused, -⟩ := hlookups loaded_conversions loaded_conversions hused
  obtain ⟨hanswer, -, hfailure⟩ :=
    hrefused ⟨"_Z3fooQ", .unknownTypeCode 'Q', 6⟩ (by decide +kernel)
  exact ⟨hanswer, hfailure⟩

/-- As many ones are the plain numeral of a number. -/
theorem isNumeral_ones {n : Nat} (hn : n ≠ 0) :
    Text.IsNumeral (List.replicate n (.char '1'))
      (Text.ofDigitValues 10 ((List.replicate n (.char '1')).map Text.digitValue)) where
  ne_nil := by simpa using hn
  isDigit c hc := by
    rw [List.eq_of_mem_replicate hc]
    rfl
  leading hhead := by
    rw [List.head?_replicate, if_neg hn] at hhead
    cases hhead
  value := rfl

/-- The symbol whose name is counted by 4301 ones. -/
def onesSymbol : Text := .char '_' :: .char 'Z' :: List.replicate 4301 (.char '1')

/-- Its decoding stops at the numeral, which is too long to be read. -/
theorem exists_decode_onesSymbol (widths : List Int) :
    ∃ k, decode onesSymbol widths = .error (.fault (.number (.tooLongToRead k))) := by
  have hlong : Text.maxDigits < (List.replicate 4301 (CodePoint.char '1')).length := by
    rw [List.length_replicate]
    decide
  exact Mangling.decode_of_numeral (isNumeral_ones (by decide)) hlong widths

/-- The pipeline meets a fault in it, whatever the catalog. -/
theorem exists_build_onesSymbol (m : Matcher) (c : Catalog) (widths : List Int) :
    ∃ k, build m c widths onesSymbol = .error (.number (.tooLongToRead k)) := by
  obtain ⟨k, hk⟩ := exists_decode_onesSymbol widths
  exact ⟨k, by rw [build, recognise, hk]⟩

/-- It is neither decoded nor refused, and a lookup of it has no answer. -/
theorem not_answered_onesSymbol :
    let r := Registry.ofCatalog 0 .empty [2]
    ¬ ((∃ d, decode onesSymbol [2] = .ok d) ∨ ∃ f, decode onesSymbol [2] = .error (.failed f)) ∧
      ¬ ∃ info, (r.lookup (r.pipeline .empty) onesSymbol).1 = .ok info := by
  intro r
  obtain ⟨k, hk⟩ := exists_decode_onesSymbol [2]
  obtain ⟨k', hbuild⟩ := exists_build_onesSymbol (.ofCatalog .empty) .empty [2]
  have hlookup : (r.lookup (r.pipeline .empty) onesSymbol).1
      = .error (.fault (.number (.tooLongToRead k'))) := by
    rw [(attentive_ofCatalog 0 .empty [2]).lookup_eq, hbuild]
    rfl
  rw [hk, hlookup]
  simp

end Registry

end KernelCalls
