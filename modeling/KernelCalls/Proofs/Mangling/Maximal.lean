import KernelCalls.Mangling.Decode
import KernelCalls.Proofs.Mangling.Grammar

namespace KernelCalls.Mangling

open Text (IsNumeral)

/-!
# Maximal groups of qualifiers

Counted names and vendor qualifiers are prefix codes: where a text starts with one, the text says
where it ends.  So whether a group of qualifiers is maximal shows in the first character behind it.

* `IsSourceName.unique`, `VendorQualifiers.exists_append` : the prefix codes.
* `Follows` : what a group may stand in front of.
* `Stops` : no missing qualifier follows a group.
* `IsMaximal.stops`, `Stops.isMaximal` : the two are the same.
-/

/-! ### Counted names -/

/-- An identifier does not start with a digit. -/
theorem not_isDigit_of_isIdentifier {name rest : Text} (h : isIdentifier name = true) :
    ∀ c, (name ++ rest).head? = some c → c.is Text.isDigit = false := by
  intro c hc
  cases name with
  | nil => simp [isIdentifier] at h
  | cons d tail =>
    simp only [List.cons_append, List.head?_cons, Option.some.injEq] at hc
    subst hc
    simp only [isIdentifier, Bool.and_eq_true] at h
    cases d with
    | half k => rfl
    | char d =>
      have hstart : isIdentifierStart d = true := h.1
      simp only [isIdentifierStart, Text.isUpper, Text.isLower, Bool.or_eq_true, Bool.and_eq_true,
        decide_eq_true_eq, beq_iff_eq] at hstart
      show Text.isDigit d = false
      rw [← Bool.not_eq_true]
      intro hd
      simp only [Text.isDigit, Bool.and_eq_true, decide_eq_true_eq] at hd
      have hnine : d.toNat ≤ 57 := hd.2
      -- capital letters, small letters and the underscore all come after the digits
      rcases hstart with (⟨hA, _⟩ | ⟨ha, _⟩) | rfl
      · have : 65 ≤ d.toNat := hA
        omega
      · have : 97 ≤ d.toNat := ha
        omega
      · exact absurd hnine (by decide)

/-- A counted name starts with a digit. -/
theorem IsSourceName.head_isDigit {text numeral name : Text} (h : IsSourceName text numeral name)
    (rest : Text) : ∃ c tail, text ++ rest = c :: tail ∧ c.is Text.isDigit = true := by
  cases hn : numeral with
  | nil => exact absurd hn h.isNumeral.ne_nil
  | cons c digits =>
    refine ⟨c, digits ++ (name ++ rest), ?_, h.isNumeral.isDigit c (by simp [hn])⟩
    rw [h.text_eq, hn, List.append_assoc, List.cons_append]

/-- Names are not empty. -/
theorem IsSourceName.name_ne_nil {text numeral name : Text} (h : IsSourceName text numeral name) :
    name ≠ [] := by
  rintro rfl
  have hid := h.identifier
  simp [isIdentifier] at hid

/-- A text starts with at most one counted name. -/
theorem IsSourceName.unique {text text' numeral numeral' name name' rest rest' : Text}
    (h : IsSourceName text numeral name) (h' : IsSourceName text' numeral' name')
    (heq : text ++ rest = text' ++ rest') : text = text' ∧ rest = rest' := by
  have hcs : numeral ++ (name ++ rest) = numeral' ++ (name' ++ rest') := by
    rw [← List.append_assoc, ← List.append_assoc, ← h.text_eq, ← h'.text_eq, heq]
  -- both numerals are all the digits that the text starts with
  have hnumeral : numeral = numeral' := by
    have htake := congrArg (List.takeWhile (·.is Text.isDigit)) hcs
    rwa [Text.takeWhile_append_of_stop h.isNumeral.isDigit
        (not_isDigit_of_isIdentifier h.identifier),
      Text.takeWhile_append_of_stop h'.isNumeral.isDigit
        (not_isDigit_of_isIdentifier h'.identifier)] at htake
  -- and a numeral says how long its name is
  have hlength : name.length = name'.length := by
    rw [← h.isNumeral.value, ← h'.isNumeral.value, hnumeral]
  refine List.append_inj heq ?_
  rw [h.text_eq, h'.text_eq, List.length_append, List.length_append, hnumeral, hlength]

/-! ### Vendor qualifiers -/

/-- Vendor qualifiers behind vendor qualifiers. -/
theorem VendorQualifiers.append {front back : Text} {numerals numerals' : List Text}
    (h : VendorQualifiers front numerals) (h' : VendorQualifiers back numerals') :
    VendorQualifiers (front ++ back) (numerals ++ numerals') := by
  induction h with
  | nil => exact h'
  | cons head _ ih =>
    rw [List.cons_append, List.append_assoc]
    exact .cons head ih

/-- Vendor qualifiers start with `U`, if there are any. -/
theorem VendorQualifiers.head_eq {vendors : Text} {numerals : List Text}
    (h : VendorQualifiers vendors numerals) (hne : vendors ≠ []) (rest : Text) :
    (vendors ++ rest).head? = some (.char 'U') := by
  cases h with
  | nil => exact absurd rfl hne
  | cons => rfl

/-- Where the longest run of vendor qualifiers ends, a shorter run ends in front of some of them. -/
theorem VendorQualifiers.exists_append {vendors vendors' rest rest' : Text}
    {numerals numerals' : List Text} (h : VendorQualifiers vendors numerals)
    (h' : VendorQualifiers vendors' numerals') (heq : vendors' ++ rest' = vendors ++ rest)
    (hrest : rest.head? ≠ some (.char 'U')) :
    ∃ more numerals'', vendors = vendors' ++ more ∧ VendorQualifiers more numerals'' := by
  -- induction on the shorter run: name by name, the longer one starts with the same
  induction h' generalizing vendors numerals with
  | nil => exact ⟨vendors, numerals, rfl, h⟩
  | @cons source' _ _ tail' _ head' _ ih =>
    cases h with
    | nil =>
      rw [List.nil_append] at heq
      exact absurd (by rw [← heq]; rfl) hrest
    | @cons source _ _ tail _ head htail =>
      have hcs : source' ++ (tail' ++ rest') = source ++ (tail ++ rest) := by
        simpa [List.append_assoc] using heq
      obtain ⟨rfl, hafter⟩ := head'.unique head hcs
      obtain ⟨more, numerals'', rfl, hmore⟩ := ih htail hafter
      exact ⟨more, numerals'', by rw [List.cons_append, List.append_assoc], hmore⟩

/-! ### Flags -/

@[simp] theorem dropChar_self (c : CodePoint) (cs : Text) : dropChar c (c :: cs) = cs := by
  rw [dropChar_cons, if_pos rfl]

/-- A character that is not there is not dropped. -/
theorem dropChar_of_head_ne {c : CodePoint} {cs : Text} (h : cs.head? ≠ some c) :
    dropChar c cs = cs := by
  cases cs with
  | nil => rfl
  | cons d tail =>
    simp only [List.head?_cons, ne_eq, Option.some.injEq] at h
    rw [dropChar_cons, if_neg h]

/-- What is left after `r`, `V` and `K`, each at most once and in this order. -/
def dropFlags (cs : Text) : Text := dropChar 'K' (dropChar 'V' (dropChar 'r' cs))

/-- Dropping the flags takes at least those that a text starts with. -/
theorem length_dropFlags_append_le {r v k : Text} (hr : AtMost 'r' r) (hv : AtMost 'V' v)
    (hk : AtMost 'K' k) (after : Text) :
    (dropFlags (r ++ (v ++ (k ++ after)))).length ≤ after.length := by
  -- whatever is behind the flags, dropping any others makes it no longer
  have hR := length_dropChar_le 'r' after
  have hV := length_dropChar_le 'V' after
  have hK := length_dropChar_le 'K' after
  have hVK := length_dropChar_le 'K' (dropChar 'V' after)
  have hRV := length_dropChar_le 'V' (dropChar 'r' after)
  have hRVK := length_dropChar_le 'K' (dropChar 'V' (dropChar 'r' after))
  unfold dropFlags
  rcases hr with rfl | rfl <;> rcases hv with rfl | rfl <;> rcases hk with rfl | rfl <;>
    simp [dropChar_cons] <;> omega

/-- Flags do not start with any other character. -/
theorem head_flags_ne {r v k rest : Text} {c : CodePoint} (hr : AtMost 'r' r) (hv : AtMost 'V' v)
    (hk : AtMost 'K' k) (hc : isQualifier c = false)
    (hrest : r ++ (v ++ k) = [] → rest.head? ≠ some c) :
    (r ++ (v ++ (k ++ rest))).head? ≠ some c := by
  simp only [isQualifier, Bool.or_eq_false_iff, beq_eq_false_iff_ne] at hc
  obtain ⟨⟨h1, h2⟩, h3⟩ := hc
  -- the first flag that is there comes first; without any it is what follows
  rcases hr with rfl | rfl <;> rcases hv with rfl | rfl <;> rcases hk with rfl | rfl <;>
    simp_all [Ne.symm]

/-! ### What follows a group -/

/-- What follows the flags is none of those that may still come. -/
structure Stops (r v k rest : Text) : Prop where
  const : k = [] → rest.head? ≠ some (.char 'K')
  volatile : v ++ k = [] → rest.head? ≠ some (.char 'V')
  restrict : r ++ (v ++ k) = [] → rest.head? ≠ some (.char 'r')
  vendor : r ++ (v ++ k) = [] → rest.head? ≠ some (.char 'U')

/-- Dropping the flags leaves what stops them. -/
theorem Stops.dropFlags {r v k rest : Text} (h : Stops r v k rest) (hr : AtMost 'r' r)
    (hv : AtMost 'V' v) (hk : AtMost 'K' k) : dropFlags (r ++ (v ++ (k ++ rest))) = rest := by
  unfold Mangling.dropFlags
  -- from the last flag to the first: what is not in the group does not follow it either
  rcases hk with rfl | rfl
  · have hK := dropChar_of_head_ne (h.const rfl)
    rcases hv with rfl | rfl
    · have hV := dropChar_of_head_ne (h.volatile rfl)
      rcases hr with rfl | rfl
      · have hR := dropChar_of_head_ne (h.restrict rfl)
        simp only [List.nil_append, hR, hV, hK]
      · simp only [List.nil_append, List.singleton_append, dropChar_self, hV, hK]
    · rcases hr with rfl | rfl <;> simp [dropChar_cons, hK]
  · rcases hv with rfl | rfl <;> rcases hr with rfl | rfl <;> simp [dropChar_cons]

/-- What a group may stand in front of: a text that is not the start of a template argument list and
    begins with `U` only in a counted name. -/
structure Follows (text : Text) : Prop where
  ne_nil : text ≠ []
  notTemplate : text.head? ≠ some (.char 'I')
  vendor : text.head? = some (.char 'U') →
    ∃ source numeral name, IsSourceName source numeral name ∧ .char 'U' :: source <+: text

/-- A group starts with a qualifier. -/
theorem QualifierGroup.head {group : Text} {numerals : List Text}
    (h : QualifierGroup group numerals) :
    ∃ c tail, group = c :: tail ∧ (c = 'U' ∨ isQualifier c = true) := by
  obtain ⟨vendor, hr, hv, hk, hne⟩ := h
  cases vendor with
  | cons head tail => exact ⟨_, _, rfl, .inl rfl⟩
  | nil =>
    rcases hr with rfl | rfl
    · rcases hv with rfl | rfl
      · rcases hk with rfl | rfl
        · exact absurd rfl hne
        · exact ⟨_, _, rfl, .inr rfl⟩
      · exact ⟨_, _, rfl, .inr rfl⟩
    · exact ⟨_, _, rfl, .inr rfl⟩

/-- A group may stand behind a group, as long as the first one is maximal. -/
theorem QualifierGroup.follows {group : Text} {numerals : List Text}
    (h : QualifierGroup group numerals) (text : Text) : Follows (group ++ text) := by
  obtain ⟨c, tail, hcs, hc⟩ := h.head
  have hne : group ++ text ≠ [] := by simp [hcs]
  have hI : (group ++ text).head? ≠ some (.char 'I') := by
    rw [hcs, List.cons_append, List.head?_cons, ne_eq, Option.some.injEq]
    rintro rfl
    revert hc
    decide
  refine ⟨hne, hI, fun hU => ?_⟩
  obtain @⟨_, r, v, k, _, vendor, hr, hv, hk, hne⟩ := h
  -- a group that starts with `U` starts with a vendor qualifier
  cases vendor with
  | @cons source numeral name rest numerals head _ =>
    exact ⟨source, numeral, name, head, rest ++ (r ++ (v ++ (k ++ text))), by simp⟩
  | nil =>
    rcases hr with rfl | rfl <;> rcases hv with rfl | rfl <;> rcases hk with rfl | rfl <;>
      simp_all

/-! ### Maximality -/

/-- In front of a text that starts with `c`, a maximal group leaves no room for `c`. -/
theorem IsMaximal.head_ne {group after group' : Text} {numerals : List Text} {c : CodePoint}
    (h : IsMaximal group after) (hg : QualifierGroup group' numerals)
    (heq : group' = group ++ [c]) : after.head? ≠ some c := by
  intro hc
  cases after with
  | nil => cases hc
  | cons d tail =>
    cases hc
    -- with one more flag the group would be longer
    have hle := h group' numerals hg ⟨tail, by rw [heq, List.append_assoc]; rfl⟩
    rw [heq, List.length_append, List.length_singleton] at hle
    omega

/-- Less can follow a maximal group. -/
theorem IsMaximal.of_append {group text rest : Text} (h : IsMaximal group (text ++ rest)) :
    IsMaximal group text := by
  intro longer numerals hlonger hstarts
  refine h longer numerals hlonger (hstarts.trans ?_)
  rw [← List.append_assoc]
  exact List.prefix_append _ _

/-- No missing qualifier follows a maximal group. -/
theorem IsMaximal.stops {vendors r v k text : Text} {numerals : List Text}
    (h : IsMaximal (vendors ++ (r ++ (v ++ k))) text) (vendor : VendorQualifiers vendors numerals)
    (hr : AtMost 'r' r) (hv : AtMost 'V' v) (hfollows : Follows text) : Stops r v k text where
  const := by
    rintro rfl
    exact h.head_ne (.mk vendor hr hv (.inr rfl) (by simp)) (by simp)
  volatile := by
    intro h0
    obtain ⟨rfl, rfl⟩ := List.append_eq_nil_iff.mp h0
    exact h.head_ne (.mk vendor hr (.inr rfl) (.inl rfl) (by simp)) (by simp)
  restrict := by
    intro h0
    obtain ⟨rfl, h1⟩ := List.append_eq_nil_iff.mp h0
    obtain ⟨rfl, rfl⟩ := List.append_eq_nil_iff.mp h1
    exact h.head_ne (.mk vendor (.inr rfl) (.inl rfl) (.inl rfl) (by simp)) (by simp)
  vendor := by
    -- without flags the group ends in vendor qualifiers, and another one would lengthen it
    intro h0 hhead
    obtain ⟨rfl, h1⟩ := List.append_eq_nil_iff.mp h0
    obtain ⟨rfl, rfl⟩ := List.append_eq_nil_iff.mp h1
    obtain ⟨source, numeral, name, hname, tail, htail⟩ := hfollows.vendor hhead
    have hlonger := vendor.append (.cons hname .nil)
    have hle := h _ _ (.mk hlonger (.inl rfl) (.inl rfl) (.inl rfl) (by simp))
      ⟨tail, by simp [← htail]⟩
    simp at hle

/-- A group with no missing qualifier behind it is maximal. -/
theorem Stops.isMaximal {vendors r v k rest : Text} {numerals : List Text} (h : Stops r v k rest)
    (vendor : VendorQualifiers vendors numerals) (hr : AtMost 'r' r) (hv : AtMost 'V' v)
    (hk : AtMost 'K' k) : IsMaximal (vendors ++ (r ++ (v ++ k))) rest := by
  rintro _ _ @⟨vendors', r', v', k', _, vendor', hr', hv', hk', _⟩ ⟨rest', hcs⟩
  have hflat :
      vendors' ++ (r' ++ (v' ++ (k' ++ rest'))) = vendors ++ (r ++ (v ++ (k ++ rest))) := by
    simpa [List.append_assoc] using hcs
  have hU := head_flags_ne (c := .char 'U') hr hv hk rfl h.vendor
  -- the other group has no more vendor qualifiers than this one
  obtain ⟨more, numerals'', rfl, hmore⟩ := vendor.exists_append vendor' hflat hU
  rw [List.append_assoc] at hflat
  have hflags := List.append_cancel_left hflat
  by_cases hnil : more = []
  · -- the vendor qualifiers are the same, and dropping the flags takes those of either group
    subst hnil
    rw [List.nil_append] at hflags
    have hle := length_dropFlags_append_le hr' hv' hk' rest'
    rw [hflags, h.dropFlags hr hv hk] at hle
    have hlen := congrArg List.length hcs
    simp only [List.length_append] at hlen ⊢
    omega
  · -- the longer group ends where the shorter one goes on with a vendor qualifier
    have hhead := hmore.head_eq hnil (r ++ (v ++ (k ++ rest)))
    have hnone : r' ++ (v' ++ k') = [] := by
      by_contra hne
      have hne' : (r' ++ (v' ++ (k' ++ rest'))).head? ≠ some (.char 'U') :=
        head_flags_ne hr' hv' hk' rfl fun h0 => absurd h0 hne
      exact hne' (hflags ▸ hhead)
    simp [hnone]

end KernelCalls.Mangling
