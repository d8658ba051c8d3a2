import KernelCalls.Proofs.Mangling.Complete

namespace KernelCalls.Mangling

open Outcome
open Text (IsNumeral)

/-!
# What is read is spelled by the grammar

Whatever a reader takes off the front of a text is a phrase of the grammar, with the value that the
reader gives, and its numerals are short enough to be read.

* `exists_of_readSourceName`, `exists_of_readQualifiers`, … : one statement for each reader.
* `exists_spells_of_readType`, `exists_spellsAll_of_readParams` : types and lists of types.
* `exists_isSymbol_of_decode`, `decode_eq_ok_iff` : whole symbols.
-/

/-! ### Numbers and names -/

/-- A number that is read is the value of the digits that were taken. -/
theorem exists_of_readNumber {cs rest : Text} {n : Nat} (h : readNumber cs = .ok (n, rest)) :
    ∃ digits, cs = digits ++ rest ∧ IsNumeral digits n ∧ Readable [digits] := by
  unfold readNumber at h
  dsimp only at h
  split_ifs at h with hempty hlead
  split at h
  · next m hm =>
    cases h
    rw [Text.ofDigits] at hm
    split_ifs at hm with hlen
    cases hm
    -- the digits are those that the text starts with
    refine ⟨_, List.takeWhile_append_dropWhile.symm, ?_, readable_singleton.mpr hlen⟩
    refine ⟨by simpa using hempty, List.all_eq_true.mp List.all_takeWhile, fun hhead => ?_, rfl⟩
    -- a numeral with a leading zero that was not refused has a single digit
    have hpos : (cs.takeWhile (·.is Text.isDigit)).length ≠ 0 := by
      intro h0
      exact hempty (by rw [List.eq_nil_of_length_eq_zero h0]; rfl)
    have hshort : ¬ 1 < (cs.takeWhile (·.is Text.isDigit)).length := fun hlt => hlead ⟨hlt, hhead⟩
    omega
  · cases h

/-- A name that is read was counted, and it is an identifier. -/
theorem exists_of_readSourceName {cs rest name : Text} (h : readSourceName cs = .ok (name, rest)) :
    ∃ source numeral, cs = source ++ rest ∧ IsSourceName source numeral name ∧
      Readable [numeral] := by
  rw [readSourceName_eq] at h
  obtain ⟨⟨length, after⟩, hn, h⟩ := bind_eq_ok_iff.mp h
  dsimp only at h
  split_ifs at h with hlen hid
  simp only [Except.ok.injEq, Prod.mk.injEq] at h
  obtain ⟨rfl, rfl⟩ := h
  obtain ⟨digits, rfl, hnumeral, hread⟩ := exists_of_readNumber hn
  -- as many characters as the number says were there to be taken
  have hlength : (after.take length).length = length := by
    rw [List.length_take]
    omega
  refine ⟨digits ++ after.take length, digits, ?_, ⟨rfl, ?_, hid⟩, hread⟩
  · rw [List.append_assoc, List.take_append_drop]
  · rw [hlength]
    exact hnumeral

/-! ### Qualifiers -/

/-- What is taken are vendor qualifiers, and no other one follows them. -/
theorem exists_of_readVendorQualifiers {cs rest : Text} (h : readVendorQualifiers cs = .ok rest) :
    ∃ vendors numerals, cs = vendors ++ rest ∧ VendorQualifiers vendors numerals ∧
      Readable numerals ∧ rest.head? ≠ some (.char 'U') := by
  -- along the reader: each qualifier it takes is one of the grammar, and it stops in front of no
  -- other
  fun_induction readVendorQualifiers cs with
  | case1 => cases h
  | case2 => cases h
  | case3 tail _ name rest' hr _ ih =>
    obtain ⟨source, numeral, rfl, hname, hread⟩ := exists_of_readSourceName hr
    obtain ⟨vendors, numerals, rfl, hvendors, hreads, hhead⟩ := ih h
    refine ⟨_, _, ?_, .cons hname hvendors, ?_, hhead⟩
    · rw [List.cons_append, List.append_assoc]
    · exact readable_append.mpr ⟨hread, hreads⟩
  | case4 => cases h
  | case5 cs hcs =>
    cases h
    refine ⟨[], [], rfl, .nil, by simp [Readable], fun hU => ?_⟩
    obtain ⟨tail, htail⟩ := List.head?_eq_some_iff.mp hU
    exact hcs tail htail

/-- A character is dropped if it is there. -/
theorem exists_of_dropChar (c : CodePoint) (cs : Text) :
    ∃ dropped, AtMost c dropped ∧ cs = dropped ++ dropChar c cs ∧
      (dropped = [] → (dropChar c cs).head? ≠ some c) := by
  cases cs with
  | nil => exact ⟨[], .inl rfl, rfl, by simp [dropChar]⟩
  | cons d tail =>
    rw [dropChar_cons]
    split_ifs with hd
    · exact ⟨[d], .inr (by rw [hd]), rfl, by simp⟩
    · exact ⟨[], .inl rfl, rfl, by simpa using hd⟩

/-- The flags that are dropped, with none of those that may still come behind them. -/
theorem exists_of_dropFlags {cs : Text} (hU : cs.head? ≠ some (.char 'U')) :
    ∃ r v k, AtMost 'r' r ∧ AtMost 'V' v ∧ AtMost 'K' k ∧
      cs = r ++ (v ++ (k ++ dropFlags cs)) ∧ Stops r v k (dropFlags cs) := by
  -- every flag is dropped from what the one before it left
  obtain ⟨r, hr, hcs, hR⟩ := exists_of_dropChar 'r' cs
  obtain ⟨v, hv, hcs', hV⟩ := exists_of_dropChar 'V' (dropChar 'r' cs)
  obtain ⟨k, hk, hcs'', hK⟩ := exists_of_dropChar 'K' (dropChar 'V' (dropChar 'r' cs))
  change _ = k ++ dropFlags cs at hcs''
  -- where a later flag was dropped, an earlier one cannot follow; so only missing flags matter
  refine ⟨r, v, k, hr, hv, hk, by rw [← hcs'', ← hcs', ← hcs], hK, ?_, ?_, ?_⟩
  · intro h0
    obtain ⟨rfl, rfl⟩ := List.append_eq_nil_iff.mp h0
    rw [List.nil_append] at hcs''
    exact hcs'' ▸ hV rfl
  · intro h0
    obtain ⟨rfl, h1⟩ := List.append_eq_nil_iff.mp h0
    obtain ⟨rfl, rfl⟩ := List.append_eq_nil_iff.mp h1
    rw [List.nil_append] at hcs' hcs''
    exact hcs'' ▸ hcs' ▸ hR rfl
  · intro h0
    obtain ⟨rfl, h1⟩ := List.append_eq_nil_iff.mp h0
    obtain ⟨rfl, rfl⟩ := List.append_eq_nil_iff.mp h1
    rw [List.nil_append] at hcs hcs' hcs''
    rwa [← hcs'', ← hcs', ← hcs]

/-- A group of qualifiers that is taken is maximal. -/
theorem exists_of_readQualifiers {c : CodePoint} {cs rest : Text}
    (hc : c = 'U' ∨ isQualifier c = true) (h : readQualifiers (c :: cs) = .ok rest) :
    ∃ group numerals, c :: cs = group ++ rest ∧ QualifierGroup group numerals ∧
      IsMaximal group rest ∧ Readable numerals := by
  have hlt := length_lt_of_readQualifiers hc h
  obtain ⟨middle, hmiddle, hrest⟩ := map_eq_ok_iff.mp h
  change dropFlags middle = rest at hrest
  obtain ⟨vendors, numerals, hcs, hvendors, hreadable, hU⟩ := exists_of_readVendorQualifiers hmiddle
  obtain ⟨r, v, k, hr, hv, hk, hflags, hstops⟩ := exists_of_dropFlags hU
  rw [hrest] at hflags hstops
  have hall : c :: cs = vendors ++ (r ++ (v ++ k)) ++ rest := by
    rw [hcs, hflags]
    simp
  -- a group was read, so something was taken
  have hne : vendors ++ (r ++ (v ++ k)) ≠ [] := by
    intro h0
    rw [hall, h0, List.nil_append] at hlt
    exact Nat.lt_irrefl _ hlt
  exact ⟨_, _, hall, .mk hvendors hr hv hk hne, hstops.isMaximal hvendors hr hv hk, hreadable⟩

/-! ### Constructors -/

/-- Lanes that are read are a numeral and an underscore, and the widths allow them. -/
theorem exists_of_readLanes {widths : List Int} {cs rest : Text} {lanes : Nat}
    (h : readLanes widths cs = .ok (lanes, rest)) :
    ∃ digits, cs = digits ++ .char '_' :: rest ∧ IsNumeral digits lanes ∧
      (lanes : Int) ∈ widths ∧ Readable [digits] := by
  by_cases hdigit : cs.head?.any (·.is Text.isDigit) = true
  · rw [readLanes_eq hdigit] at h
    obtain ⟨⟨n, after⟩, hn, h⟩ := bind_eq_ok_iff.mp h
    dsimp only at h
    split_ifs at h with hw
    split at h
    · next rest' =>
      cases h
      obtain ⟨digits, rfl, hnumeral, hread⟩ := exists_of_readNumber hn
      exact ⟨digits, rfl, hnumeral, hw, hread⟩
    · cases h
  · unfold readLanes at h
    rw [if_neg hdigit] at h
    cases h

/-- A constructor that is taken is one of the grammar. -/
theorem exists_constructs_of_readLayer {widths : List Int} {cs rest : Text} {layer : Layer}
    (h : readLayer widths cs = .ok (some (layer, rest))) :
    ∃ front numerals, cs = front ++ rest ∧ Constructs widths layer front numerals rest ∧
      Readable numerals := by
  cases cs with
  | nil => cases h
  | cons c tail =>
    rw [readLayer] at h
    -- the reader asks for `P`, for qualifiers and for `Dv`, in this order
    split_ifs at h with hP hQ hD
    · cases h
      subst hP
      exact ⟨_, _, rfl, .pointer, by simp [Readable]⟩
    · obtain ⟨rest', hread, heq⟩ := map_eq_ok_iff.mp h
      cases heq
      obtain ⟨group, numerals, hcs, hgroup, hmax, hreadable⟩ := exists_of_readQualifiers hQ hread
      exact ⟨group, numerals, hcs, .qualified hgroup hmax, hreadable⟩
    · obtain ⟨⟨lanes, rest'⟩, hread, heq⟩ := map_eq_ok_iff.mp h
      cases heq
      obtain ⟨digits, hcs, hnumeral, hw, hreadable⟩ := exists_of_readLanes hread
      obtain ⟨rfl, hv⟩ := hD
      refine ⟨_, _, ?_, .vector hnumeral hw, hreadable⟩
      cases tail with
      | nil => cases hv
      | cons d tail =>
        simp only [List.head?_cons, Option.some.injEq] at hv
        rw [List.drop_succ_cons, List.drop_zero] at hcs
        simp [hv, hcs]
    · cases h

/-! ### Types -/

/-- A number that is read is the number of a back-reference. -/
theorem isReference_of_referenceIndex {sequence : Text} {index : Nat}
    (hchars : ∀ c ∈ sequence, isSequenceChar c = true)
    (h : referenceIndex sequence = .ok index) :
    IsReference sequence index ∧ Readable [sequence] := by
  rw [readable_singleton]
  unfold referenceIndex at h
  split_ifs at h with hempty
  · cases h
    rw [List.isEmpty_iff.mp hempty]
    exact ⟨.first, Nat.zero_le _⟩
  · obtain ⟨n, hn, rfl⟩ := map_eq_ok_iff.mp h
    rw [Text.ofDigits] at hn
    split_ifs at hn with hlen
    cases hn
    exact ⟨.later (by simpa using hempty) hchars, hlen⟩

/-- A back-reference that is read names an entry of the table. -/
theorem exists_of_readReference {table : List TypeInfo} {cs rest : Text} {t : TypeInfo}
    (h : readReference table cs = .ok (t, rest)) :
    ∃ sequence index, cs = sequence ++ .char '_' :: rest ∧ IsReference sequence index ∧
      table[index]? = some t ∧ Readable [sequence] := by
  unfold readReference at h
  dsimp only at h
  split at h
  · next rest' hdrop =>
    split at h
    · cases h
    · next index hindex =>
      split at h
      · -- the number was found in the table, so it is that of a back-reference
        next u hfound =>
        cases h
        have hchars : ∀ c ∈ cs.takeWhile isSequenceChar, isSequenceChar c = true :=
          List.all_eq_true.mp List.all_takeWhile
        obtain ⟨href, hread⟩ := isReference_of_referenceIndex hchars hindex
        refine ⟨cs.takeWhile isSequenceChar, index, ?_, href, hfound, hread⟩
        rw [← hdrop, List.takeWhile_append_dropWhile]
      · -- a number that leads nowhere is refused in one way or another
        split at h <;> cases h
  · cases h

/-- A counted name that is read as a type is a handle, and joins the table. -/
theorem exists_handle_of_readTerminal {table : List TypeInfo} {c : CodePoint} {tail rest : Text}
    {t : TypeInfo} {joins : Bool} (hc : c.is Text.isDigit = true)
    (h : readTerminal table (c :: tail) = .ok ((t, joins), rest)) :
    ∃ source numeral name, c :: tail = source ++ rest ∧ IsSourceName source numeral name ∧
      t = .handle name ∧ joins = true ∧ Readable [numeral] := by
  rw [readTerminal_of_isDigit hc] at h
  obtain ⟨⟨name, after⟩, hname, hcheck⟩ := bind_eq_ok_iff.mp h
  obtain ⟨source, numeral, hcs, hsource, hread⟩ := exists_of_readSourceName hname
  split at hcheck
  · cases hcheck
  · next v hv =>
    cases hcheck
    obtain ⟨rfl, -⟩ := TypeInfo.check_eq_ok_iff.mp hv
    exact ⟨source, numeral, name, hcs, hsource, rfl, rfl, hread⟩

/-- Anything else that is read as a type is a code, and does not join the table. -/
theorem exists_code_of_readTerminal {widths : List Int} {table : List TypeInfo} {c : CodePoint}
    {tail rest : Text} {t : TypeInfo} {joins : Bool} (hc : ¬ c.is Text.isDigit = true)
    (hS : c ≠ 'S') (h : readTerminal table (c :: tail) = .ok ((t, joins), rest)) :
    ∃ text, c :: tail = text ++ rest ∧ Spells widths table text [] t table ∧ joins = false := by
  rw [readTerminal] at h
  split at h
  · next hhalf =>
    cases h
    obtain ⟨rfl, hh⟩ := hhalf
    obtain ⟨tail, rfl⟩ := List.head?_eq_some_iff.mp hh
    exact ⟨_, rfl, .half, rfl⟩
  · split at h
    · next s hs =>
      cases h
      exact ⟨[c], rfl, .scalar hs, rfl⟩
    · cases h

/-- A leaf that is read is a type of the grammar. -/
theorem exists_spells_of_readLeaf {widths : List Int} {table table' : List TypeInfo}
    {cs rest : Text} {t : TypeInfo} (h : readLeaf table cs = .ok ((t, table'), rest)) :
    ∃ text numerals, cs = text ++ rest ∧ Spells widths table text numerals t table' ∧
      Readable numerals := by
  obtain ⟨⟨⟨u, joins⟩, rest'⟩, hterminal, heq⟩ := map_eq_ok_iff.mp h
  cases heq
  cases cs with
  | nil => cases hterminal
  | cons c tail =>
    -- a digit begins a handle, an `S` a back-reference, and anything else is a code
    by_cases hdigit : c.is Text.isDigit = true
    · obtain ⟨source, numeral, name, hcs, hsource, rfl, rfl, hread⟩ :=
        exists_handle_of_readTerminal hdigit hterminal
      exact ⟨source, _, hcs, .handle hsource, hread⟩
    · by_cases hS : c = 'S'
      · subst hS
        rw [readTerminal_reference] at hterminal
        obtain ⟨⟨v, after⟩, href, heq⟩ := map_eq_ok_iff.mp hterminal
        cases heq
        obtain ⟨sequence, index, rfl, hindex, hfound, hread⟩ := exists_of_readReference href
        exact ⟨_, _, by simp, .reference hindex hfound, hread⟩
      · obtain ⟨text, hcs, hspells, rfl⟩ := exists_code_of_readTerminal hdigit hS hterminal
        exact ⟨text, [], hcs, hspells, by simp [Readable]⟩

/-- A constructor that is applied makes the shape of the grammar. -/
theorem makes_of_apply {layer : Layer} {t t' : TypeInfo} {rest : Text} (ht : t.WellFormed)
    (h : layer.apply t rest = .ok t') : layer.Makes t t' := by
  cases layer with
  | pointer =>
    cases h
    exact .pointer
  | qualified =>
    cases h
    exact .qualified
  | vector lanes =>
    rw [Layer.apply] at h
    split_ifs at h with hvector hnumeric
    rw [TypeInfo.withWidth_eq_ok ht hnumeric] at h
    cases h
    exact .vector hnumeric (by simpa using hvector)

/-- Whether a front is a constructor does not depend on what stands behind its operand. -/
theorem Constructs.of_append {widths : List Int} {layer : Layer} {front text rest : Text}
    {numerals : List Text} (h : Constructs widths layer front numerals (text ++ rest)) :
    Constructs widths layer front numerals text := by
  cases h with
  | pointer => exact .pointer
  | qualified isGroup maximal => exact .qualified isGroup maximal.of_append
  | vector isNumeral allowed => exact .vector isNumeral allowed

/-- **Types.** A type that is read is spelled by what was taken, with the same shape and table. -/
theorem exists_spells_of_readType {widths : List Int} {table table' : List TypeInfo}
    {cs rest : Text} {t : TypeInfo} (htable : ∀ u ∈ table, u.WellFormed)
    (h : readType widths table cs = .ok ((t, table'), rest)) :
    ∃ text numerals, cs = text ++ rest ∧ Spells widths table text numerals t table' ∧
      Readable numerals := by
  -- induction on what is left: the operand of a constructor is shorter than the type
  induction hn : cs.length using Nat.strongRecOn generalizing cs table' t rest with
  | ind n ih =>
    rw [readType_eq] at h
    obtain ⟨front, hlayer, h⟩ := bind_eq_ok_iff.mp h
    cases front with
    | none => exact exists_spells_of_readLeaf h
    | some front =>
      obtain ⟨layer, cs'⟩ := front
      obtain ⟨⟨⟨u, table''⟩, rest'⟩, hoperand, hmake⟩ := bind_eq_ok_iff.mp h
      obtain ⟨v, happly, heq⟩ := map_eq_ok_iff.mp hmake
      cases heq
      have hlt := length_lt_of_readLayer hlayer
      -- the operand is spelled by induction; the constructor is maximal in front of all that
      -- follows
      obtain ⟨text, numerals, rfl, hspells, hread⟩ :=
        ih cs'.length (hn ▸ hlt) hoperand rfl
      obtain ⟨before, numerals', rfl, hconstructs, hread'⟩ := exists_constructs_of_readLayer hlayer
      have hmakes := makes_of_apply (hspells.wellFormed htable).1 happly
      refine ⟨before ++ text, _, ?_, .construct hconstructs.of_append hspells hmakes, ?_⟩
      · rw [List.append_assoc]
      · exact readable_append.mpr ⟨hread', hread⟩

/-! ### Symbols -/

/-- **Parameters.** A list of types that is read is spelled by the whole text. -/
theorem exists_spellsAll_of_readParams {widths : List Int} {table : List TypeInfo} {cs : Text}
    {ts : List TypeInfo} (htable : ∀ u ∈ table, u.WellFormed)
    (h : readParams widths table cs = .ok ts) :
    ∃ numerals, SpellsAll widths table cs numerals ts ∧ Readable numerals := by
  fun_induction readParams widths table cs generalizing ts with
  | case1 =>
    cases h
    exact ⟨[], .nil, by simp [Readable]⟩
  | case2 => cases h
  | case3 => cases h
  | case4 table c cs hv t table' rest hread ih =>
    obtain ⟨us, hus, rfl⟩ := map_eq_ok_iff.mp h
    obtain ⟨text, numerals, hcs, hspells, hreadable⟩ := exists_spells_of_readType htable hread
    -- the rest is spelled against the table that the first type left
    obtain ⟨numerals', hall, hreadable'⟩ := ih (hspells.wellFormed htable).2 hus
    refine ⟨numerals ++ numerals', ?_, readable_append.mpr ⟨hreadable, hreadable'⟩⟩
    rw [hcs]
    refine .cons hspells ?_ hall
    -- the type starts with the first character of the list
    have hhead := congrArg List.head? hcs
    rw [List.head?_cons, List.head?_append_of_ne_nil _ hspells.ne_nil] at hhead
    rw [← hhead, ne_eq, Option.some.injEq]
    exact hv

/-- What is read behind the `_Z` makes a symbol with it. -/
theorem exists_isSymbol_of_readEncoding {widths : List Int} {cs name : Text} {ts : List TypeInfo}
    (h : readEncoding widths cs = .ok (name, ts)) :
    ∃ numerals, IsSymbol widths (.char '_' :: .char 'Z' :: cs) numerals ⟨name, ts, true⟩ ∧
      Readable numerals := by
  by_cases hdigit : cs.head?.any (·.is Text.isDigit) = true
  · rw [readEncoding_eq hdigit] at h
    obtain ⟨⟨name', after⟩, hname, hbody⟩ := bind_eq_ok_iff.mp h
    obtain ⟨source, numeral, rfl, hsource, hreadable⟩ := exists_of_readSourceName hname
    -- a lone `v`, or a parameter list that may be empty
    split_ifs at hbody with hv
    · cases hbody
      obtain rfl : after = [.char 'v'] := hv
      exact ⟨_, .void hsource, hreadable⟩
    · obtain ⟨us, hparams, heq⟩ := map_eq_ok_iff.mp hbody
      cases heq
      obtain ⟨numerals, hall, hreadable'⟩ := exists_spellsAll_of_readParams (by simp) hparams
      cases ts with
      | nil =>
        -- no parameters were read, so nothing follows the name
        cases hall
        rw [List.append_nil]
        exact ⟨_, .bare hsource, hreadable⟩
      | cons t ts =>
        exact ⟨_, .params hsource hall (by simp), readable_append.mpr ⟨hreadable, hreadable'⟩⟩
  · unfold readEncoding at h
    rw [if_neg hdigit] at h
    cases h

/-- **Symbols.** Whatever is decoded is a symbol of the grammar that says so. -/
theorem exists_isSymbol_of_decode {widths : List Int} {symbol : Text} {d : Decoded}
    (h : decode symbol widths = .ok d) :
    ∃ numerals, IsSymbol widths symbol numerals d ∧ Readable numerals := by
  unfold decode at h
  split at h
  · next rest =>
    split at h
    · next name params hread =>
      cases h
      exact exists_isSymbol_of_readEncoding hread
    · cases h
  · next hplain =>
    split_ifs at h with hid
    cases h
    refine ⟨[], .plain ?_ hid, by simp [Readable]⟩
    rintro ⟨tail, htail⟩
    exact hplain tail htail.symm

/-- **Acceptance.** A symbol decodes to what the grammar says it is, and to nothing else; no symbol
    beyond the grammar decodes, and of those in it only the ones with a numeral of more than
    `Text.maxDigits` characters, the number of a back-reference included, do not. -/
theorem decode_eq_ok_iff (widths : List Int) (symbol : Text) (d : Decoded) :
    decode symbol widths = .ok d ↔
      ∃ numerals, IsSymbol widths symbol numerals d ∧ Readable numerals := by
  constructor
  · exact exists_isSymbol_of_decode
  · rintro ⟨numerals, hsymbol, hreadable⟩
    exact hsymbol.decode.1 hreadable

end KernelCalls.Mangling
