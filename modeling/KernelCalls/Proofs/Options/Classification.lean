import KernelCalls.Options
import KernelCalls.Proofs.Outcome
import Mathlib.Data.List.Infix
import Mathlib.Data.List.TakeWhile

namespace KernelCalls.Options

open Outcome

/-!
# What arguments are

An argument is an option by its spelling, with a value that is joined to it, or as what it may be
short for; else it is a value or unknown.

* `Classified`, `classify_cases` : the ways in which an argument comes to be what it is.
* `flag_of_classify`, `exists_flag_of_classify` : an option has a name that goes on from that of the
  argument.
* `contains_space_of_classify` : what begins with two dashes and is a value holds a space.
* `classify_of_offersHelp` : without help, options and values are what they are with it.
* `classifyAll_append`, `of_classifyAll_append` : lists are divided where a command begins.
-/

variable {g : Grammar} {words : List (Text × Word)} {arg : Text}

/-! ### Names -/

/-- A spelling is that of an option, or stops the reading. -/
theorem wordOf_cases (s : Text × Option Flag) (joined : Option Text) :
    (∃ flag, s.2 = some flag ∧ wordOf s joined = .option flag joined) ∨
      s.2 = none ∧ ∃ why, wordOf s joined = .halt why := by
  obtain ⟨name, flag?⟩ := s
  cases flag? with
  | some flag => exact .inl ⟨flag, rfl, rfl⟩
  | none => cases joined <;> exact .inr ⟨rfl, _, rfl⟩

/-- The spellings of options are their names. -/
theorem flag_of_mem_spellings {s : Text × Option Flag} {flag : Flag} (h : s ∈ g.spellings)
    (hflag : s.2 = some flag) : flag ∈ g.flags ∧ s.1 = flag.name := by
  rcases List.mem_append.mp h with h | h
  · split at h
    · simp only [List.mem_cons, List.not_mem_nil, or_false] at h
      rcases h with rfl | rfl <;> cases hflag
    · cases h
  · obtain ⟨f, hf, rfl⟩ := List.mem_map.mp h
    cases hflag
    exact ⟨hf, rfl⟩

/-- The argument begins with two dashes. -/
def isLong : Text → Bool
  | .char '-' :: .char '-' :: _ => true
  | _ => false

/-- A long argument begins with two dashes. -/
theorem isLong_iff : isLong arg = true ↔ ∃ tail, arg = .char '-' :: .char '-' :: tail := by
  unfold isLong
  split
  · simp
  · next hne => simpa using fun tail heq => hne tail heq

/-- The name of an argument ends where its joined value begins. -/
theorem splitJoined_fst (arg : Text) : (splitJoined arg).1 = arg.takeWhile (· ≠ .char '=') := by
  unfold splitJoined
  dsimp only
  split <;> rfl

/-- The name of an argument stands at its head. -/
theorem splitJoined_isPrefix (arg : Text) : (splitJoined arg).1 <+: arg :=
  splitJoined_fst arg ▸ List.takeWhile_prefix _

/-- What goes on from a long name is long. -/
theorem isLong_of_isPrefix {name : Text} (h : name <+: arg) (hname : isLong name = true) :
    isLong arg = true := by
  obtain ⟨tail, rfl⟩ := isLong_iff.mp hname
  obtain ⟨rest, rfl⟩ := h
  rfl

/-- The name of a long argument is long. -/
theorem isLong_splitJoined (h : isLong arg = true) : isLong (splitJoined arg).1 = true := by
  obtain ⟨tail, rfl⟩ := isLong_iff.mp h
  rw [splitJoined_fst]
  rfl

/-- A long argument is short for the spellings that go on from its name. -/
theorem abbreviations_of_isLong (h : isLong arg = true) :
    abbreviations g arg =
      (g.spellings.filter fun s => (splitJoined arg).1.isPrefixOf s.1).map fun s =>
        wordOf s (splitJoined arg).2 := by
  obtain ⟨tail, rfl⟩ := isLong_iff.mp h
  rfl

/-- An argument may be short for an option that its name begins, or for help. -/
theorem mem_abbreviations {word : Word} (h : word ∈ abbreviations g arg) :
    (isLong arg = true ∧ ∃ s ∈ g.spellings, (splitJoined arg).1 <+: s.1 ∧
        word = wordOf s (splitJoined arg).2) ∨
      g.offersHelp = true ∧ ∃ why, word = .halt why := by
  by_cases hlong : isLong arg = true
  · rw [abbreviations_of_isLong hlong] at h
    obtain ⟨s, hs, rfl⟩ := List.mem_map.mp h
    obtain ⟨hs, hprefix⟩ := List.mem_filter.mp hs
    exact .inl ⟨hlong, s, hs, List.isPrefixOf_iff_prefix.mp hprefix, rfl⟩
  · -- with a single dash the argument can only be short for the short form of help
    unfold abbreviations at h
    split at h
    · exact absurd rfl hlong
    · split at h
      · next hhelp =>
        rw [List.mem_singleton.mp h]
        exact .inr ⟨hhelp, _, rfl⟩
      · cases h
    · cases h

/-- A number has only one dash. -/
theorem isNegativeNumber_of_isLong (h : isLong arg = true) : isNegativeNumber arg = false := by
  obtain ⟨tail, rfl⟩ := isLong_iff.mp h
  -- a newline at the end may be dropped, but the second dash is in front of it
  have hrest : ∃ more, (if (.char '-' :: tail : Text).getLast? == some (.char '\n') then
      (.char '-' :: tail : Text).dropLast else .char '-' :: tail) = .char '-' :: more := by
    split
    · next hlast =>
      cases tail with
      | nil => cases hlast
      | cons c tail => exact ⟨_, rfl⟩
    · exact ⟨tail, rfl⟩
  obtain ⟨more, hmore⟩ := hrest
  unfold isNegativeNumber
  split
  · next rest heq =>
    cases heq
    dsimp only
    rw [hmore, List.dropWhile_cons_of_neg (by decide)]
    rfl
  · rfl

/-! ### Single arguments -/

/-- An argument that does not begin with a dash is a value. -/
theorem classify_of_head (h : arg.head? ≠ some (.char '-')) : classify g arg = .ok .plain := by
  unfold classify
  dsimp only
  rw [if_pos h]

/-- A dash alone is a value. -/
theorem classify_of_dash (hdash : arg = [.char '-'])
    (hspelled : (g.spellings.find? fun s => s.1 == arg) = none) :
    classify g arg = .ok .plain := by
  unfold classify
  dsimp only
  rw [hspelled]
  dsimp only
  rw [if_pos hdash, ite_self]

/-- An argument that spells an option is that option. -/
theorem classify_of_spelled {s : Text × Option Flag} (hhead : arg.head? = some (.char '-'))
    (hs : (g.spellings.find? fun s => s.1 == arg) = some s) :
    classify g arg = .ok (wordOf s none) := by
  unfold classify
  dsimp only
  rw [if_neg (not_not.mpr hhead), hs]

/-- An argument that spells an option with a value is that option with the value. -/
theorem classify_of_joined {s : Text × Option Flag} {value : Text}
    (hhead : arg.head? = some (.char '-')) (hdash : arg ≠ [.char '-'])
    (hspelled : (g.spellings.find? fun s => s.1 == arg) = none)
    (hvalue : (splitJoined arg).2 = some value)
    (hs : (g.spellings.find? fun s => s.1 == (splitJoined arg).1) = some s) :
    classify g arg = .ok (wordOf s (some value)) := by
  unfold classify
  dsimp only
  rw [if_neg (not_not.mpr hhead), hspelled]
  dsimp only
  rw [if_neg hdash, hvalue, hs]

/-- An argument that spells no option is what it may be short for, or no option at all. -/
theorem classify_eq_ok_iff {word : Word} (hhead : arg.head? = some (.char '-'))
    (hdash : arg ≠ [.char '-']) (hspelled : (g.spellings.find? fun s => s.1 == arg) = none)
    (hjoined : (splitJoined arg).2 = none ∨
      (g.spellings.find? fun s => s.1 == (splitJoined arg).1) = none) :
    classify g arg = .ok word ↔ abbreviations g arg = [word] ∨ abbreviations g arg = [] ∧
      (if isNegativeNumber arg || arg.contains (.char ' ') then .plain else .unknown) = word := by
  unfold classify
  dsimp only
  rw [if_neg (not_not.mpr hhead), hspelled]
  dsimp only
  rw [if_neg hdash]
  split
  · next hvalue hfind =>
    rw [hvalue, hfind] at hjoined
    -- a joined value is excluded
    rcases hjoined with hjoined | hjoined <;> cases hjoined
  · split
    · next honly => rw [honly]; simp
    · next hne hseveral =>
      rw [hseveral]
      refine ⟨nofun, ?_⟩
      rintro (heq | ⟨heq, -⟩)
      · exact absurd (List.cons.inj heq).2 hne
      · cases heq
    · next hnone => rw [hnone]; simp

/-- How an argument may come to be what it is. -/
inductive Classified (g : Grammar) (arg : Text) (word : Word) : Prop where
  | value (spelled : arg.head? ≠ some (.char '-') ∨ arg = [.char '-']) (eq : word = .plain)
  | spelling {s : Text × Option Flag} (mem : s ∈ g.spellings) (joined : Option Text)
    (spelled : arg = s.1 ∨ ∃ value, splitJoined arg = (s.1, some value))
    (eq : word = wordOf s joined)
  | abbreviation (only : abbreviations g arg = [word])
  | other (none : abbreviations g arg = [])
    (eq : word = if isNegativeNumber arg || arg.contains (.char ' ') then .plain else .unknown)

/-- An argument is something by the way in which it is spelled, or may be short for several
    options. -/
theorem classify_cases (g : Grammar) (arg : Text) :
    (∃ word, classify g arg = .ok word ∧ Classified g arg word) ∨
      classify g arg = .error .usage ∧ 1 < (abbreviations g arg).length := by
  have hmem : ∀ {name : Text} {s : Text × Option Flag},
      (g.spellings.find? fun s => s.1 == name) = some s → s ∈ g.spellings ∧ name = s.1 := by
    intro name s hfind
    have hname := List.find?_some hfind
    exact ⟨List.mem_of_find?_eq_some hfind, (by simpa using hname : s.1 = name).symm⟩
  -- the tests come one after the other, and each but the last leaves a case of its own
  unfold classify
  dsimp only
  split
  · next hhead => exact .inl ⟨_, rfl, .value (.inl hhead) rfl⟩
  · split
    · next s hspelled =>
      obtain ⟨hs, rfl⟩ := hmem hspelled
      exact .inl ⟨_, rfl, .spelling hs none (.inl rfl) rfl⟩
    · split
      · next hdash => exact .inl ⟨_, rfl, .value (.inr hdash) rfl⟩
      · split
        · next value s hjoined hspelled =>
          obtain ⟨hs, hname⟩ := hmem hspelled
          exact .inl ⟨_, rfl, .spelling hs _ (.inr ⟨value, Prod.ext hname hjoined⟩) rfl⟩
        · split
          · next word honly => exact .inl ⟨_, rfl, .abbreviation honly⟩
          · next word rest hne hseveral =>
            refine .inr ⟨rfl, ?_⟩
            rw [hseveral]
            cases rest with
            | nil => exact absurd rfl hne
            | cons w rest => simp
          · next hnone => exact .inl ⟨_, rfl, .other hnone rfl⟩

/-- Every argument that is read is classified in one of these ways. -/
theorem classified {word : Word} (h : classify g arg = .ok word) : Classified g arg word := by
  obtain ⟨word', hword, hclass⟩ | ⟨herror, -⟩ := classify_cases g arg
  · rw [h] at hword
    cases hword
    exact hclass
  · rw [h] at herror
    cases herror

/-- What is no option and no halt is a value by its first character, or spells no option. -/
theorem of_classify_other {word : Word} (h : classify g arg = .ok word)
    (hoption : ∀ flag joined, word ≠ .option flag joined) (hhalt : ∀ why, word ≠ .halt why) :
    (word = .plain ∧ (arg.head? ≠ some (.char '-') ∨ arg = [.char '-'])) ∨
      word = if isNegativeNumber arg || arg.contains (.char ' ') then .plain else .unknown := by
  -- the word of a spelling is an option or a halt, so only the last test is left
  have hword : ∀ s joined, word ≠ wordOf s joined := by
    intro s joined heq
    obtain ⟨flag, -, hw⟩ | ⟨-, why, hw⟩ := wordOf_cases s joined
    · exact hoption _ _ (heq.trans hw)
    · exact hhalt _ (heq.trans hw)
  cases classified h with
  | value spelled eq => exact .inl ⟨eq, spelled⟩
  | spelling mem joined spelled eq => exact absurd eq (hword _ _)
  | abbreviation only =>
    obtain ⟨-, s, -, -, eq⟩ | ⟨-, why, eq⟩ := mem_abbreviations (only ▸ List.mem_singleton_self _)
    · exact absurd eq (hword _ _)
    · exact absurd eq (hhalt why)
  | other none eq => exact .inr eq

/-- No single argument is a separator. -/
theorem classify_ne_separator : classify g arg ≠ .ok .separator := by
  intro h
  rcases of_classify_other h (fun _ _ => nofun) (fun _ => nofun) with ⟨heq, -⟩ | heq
  · cases heq
  · split at heq <;> cases heq

/-- What begins with two dashes and is a value after all holds a space. -/
theorem contains_space_of_classify (h : classify g arg = .ok .plain) (hlong : isLong arg = true) :
    arg.contains (.char ' ') = true := by
  rcases of_classify_other h (fun _ _ => nofun) (fun _ => nofun) with ⟨-, hspelled⟩ | heq
  · obtain ⟨tail, rfl⟩ := isLong_iff.mp hlong
    simp at hspelled
  · rw [isNegativeNumber_of_isLong hlong, Bool.false_or] at heq
    split at heq
    · next hspace => exact hspace
    · cases heq

/-- An option is one of the grammar, and its name goes on from that of the argument. -/
theorem flag_of_classify {flag : Flag} {joined : Option Text}
    (h : classify g arg = .ok (.option flag joined)) :
    flag ∈ g.flags ∧ (arg = flag.name ∨ (splitJoined arg).1 <+: flag.name) := by
  -- the word of a spelling tells which flag was spelled
  have hword : ∀ {s joined'}, Word.option flag joined = wordOf s joined' → s.2 = some flag := by
    intro s joined' heq
    obtain ⟨f, hf, hw⟩ | ⟨-, why, hw⟩ := wordOf_cases s joined' <;> rw [hw] at heq <;> cases heq
    exact hf
  cases classified h with
  | value spelled eq => cases eq
  | spelling mem joined spelled eq =>
    obtain ⟨hflag, hname⟩ := flag_of_mem_spellings mem (hword eq)
    rw [hname] at spelled
    refine ⟨hflag, spelled.imp_right ?_⟩
    rintro ⟨value, hvalue⟩
    rw [hvalue]
  | abbreviation only =>
    obtain ⟨-, s, hs, hprefix, eq⟩ | ⟨-, why, eq⟩ :=
      mem_abbreviations (only ▸ List.mem_singleton_self _)
    · obtain ⟨hflag, hname⟩ := flag_of_mem_spellings hs (hword eq)
      exact ⟨hflag, .inr (hname ▸ hprefix)⟩
    · cases eq
  | other none eq => split at eq <;> cases eq

/-- The names of the flags are long, with no equals sign. -/
def LongFlags (g : Grammar) : Prop :=
  ∀ flag ∈ g.flags, isLong flag.name = true ∧ (splitJoined flag.name).1 = flag.name

/-- Where help is not offered, what is no value and not unknown begins the name of an option. -/
theorem exists_flag_of_classify (hflags : LongFlags g) (hhelp : g.offersHelp = false)
    (hplain : classify g arg ≠ .ok .plain) (hunknown : classify g arg ≠ .ok .unknown) :
    isLong arg = true ∧ ∃ flag ∈ g.flags, (splitJoined arg).1 <+: flag.name := by
  -- without help every spelling is the name of a flag
  have hmem : ∀ {s}, s ∈ g.spellings → ∃ flag ∈ g.flags, s.1 = flag.name := by
    intro s hs
    rw [Grammar.spellings, hhelp] at hs
    obtain ⟨flag, hflag, rfl⟩ := List.mem_map.mp hs
    exact ⟨flag, hflag, rfl⟩
  -- and what an argument is short for is one of them
  have hshort : ∀ {word}, word ∈ abbreviations g arg →
      isLong arg = true ∧ ∃ flag ∈ g.flags, (splitJoined arg).1 <+: flag.name := by
    intro word hword
    obtain ⟨hlong, s, hs, hprefix, -⟩ | ⟨hoffers, -⟩ := mem_abbreviations hword
    · obtain ⟨flag, hflag, hname⟩ := hmem hs
      exact ⟨hlong, flag, hflag, hname ▸ hprefix⟩
    · rw [hhelp] at hoffers
      cases hoffers
  obtain ⟨word, hword, hclass⟩ | ⟨-, hseveral⟩ := classify_cases g arg
  · cases hclass with
    | value spelled eq => exact absurd (eq ▸ hword) hplain
    | spelling mem joined spelled eq =>
      obtain ⟨flag, hflag, hname⟩ := hmem mem
      obtain ⟨hlong, hsplit⟩ := hflags flag hflag
      rw [hname] at spelled
      rcases spelled with rfl | ⟨value, hvalue⟩
      · exact ⟨hlong, flag, hflag, by rw [hsplit]⟩
      · have hfst : (splitJoined arg).1 = flag.name := by rw [hvalue]
        refine ⟨isLong_of_isPrefix (hfst ▸ splitJoined_isPrefix arg) hlong, flag, hflag, ?_⟩
        rw [hfst]
    | abbreviation only => exact hshort (only ▸ List.mem_singleton_self _)
    | other none eq =>
      split at eq
      · exact absurd (eq ▸ hword) hplain
      · exact absurd (eq ▸ hword) hunknown
  · -- an argument that is short for several flags is short for one of them
    obtain ⟨word, hword⟩ := List.exists_mem_of_length_pos (Nat.zero_lt_of_lt hseveral)
    exact hshort hword

/-! ### With and without help -/

section Help

variable {flags : List Flag} {positional positional' : Positional}

/-- Help adds its two spellings in front of the others. -/
theorem spellings_of_offersHelp (flags : List Flag) (positional positional' : Positional) :
    (Grammar.mk flags true positional).spellings =
      [(shortHelp, none), (longHelp, none)] ++ (Grammar.mk flags false positional').spellings :=
  rfl

/-- A spelling of help comes before those of options, which are the same without help. -/
theorem find?_spellings (flags : List Flag) (positional positional' : Positional) (name : Text) :
    (∃ s, s.2 = none ∧
        ((Grammar.mk flags true positional).spellings.find? fun s => s.1 == name) = some s) ∨
      ((Grammar.mk flags true positional).spellings.find? fun s => s.1 == name) =
        (Grammar.mk flags false positional').spellings.find? fun s => s.1 == name := by
  rw [spellings_of_offersHelp flags positional positional', List.find?_append]
  cases hhelp : [(shortHelp, none), (longHelp, none)].find? fun s => s.1 == name with
  | some s =>
    have hs := List.mem_of_find?_eq_some hhelp
    simp only [List.mem_cons, List.not_mem_nil, or_false] at hs
    exact .inl ⟨s, by rcases hs with rfl | rfl <;> rfl, rfl⟩
  | none => exact .inr rfl

/-- What an argument may be short for is help, or it is the same without help. -/
theorem abbreviations_eq_append (flags : List Flag) (positional positional' : Positional)
    (arg : Text) :
    ∃ halts : List Word, (∀ w ∈ halts, ∃ why, w = .halt why) ∧
      abbreviations ⟨flags, true, positional⟩ arg =
        halts ++ abbreviations ⟨flags, false, positional'⟩ arg := by
  by_cases hlong : isLong arg = true
  · rw [abbreviations_of_isLong hlong, abbreviations_of_isLong hlong]
    rw [spellings_of_offersHelp flags positional positional', List.filter_append, List.map_append]
    -- the spellings of help stand in front, and they stop the reading
    refine ⟨_, fun w hw => ?_, rfl⟩
    obtain ⟨s, hs, rfl⟩ := List.mem_map.mp hw
    have hs := (List.mem_filter.mp hs).1
    simp only [List.mem_cons, List.not_mem_nil, or_false] at hs
    obtain ⟨flag, hflag, -⟩ | ⟨-, hhalt⟩ := wordOf_cases s (splitJoined arg).2
    · rcases hs with rfl | rfl <;> cases hflag
    · exact hhalt
  · unfold abbreviations
    split
    · exact absurd rfl hlong
    · exact ⟨[_], by simp [wordOf], rfl⟩
    · exact ⟨[], nofun, rfl⟩

/-- What is not help, and may be short for something, is the same without help. -/
theorem abbreviations_of_offersHelp {word : Word} (hword : ∀ why, word ≠ .halt why)
    {found : Prop} (h : abbreviations ⟨flags, true, positional⟩ arg = [word] ∨
      abbreviations ⟨flags, true, positional⟩ arg = [] ∧ found) :
    abbreviations ⟨flags, false, positional'⟩ arg = [word] ∨
      abbreviations ⟨flags, false, positional'⟩ arg = [] ∧ found := by
  obtain ⟨halts, hhalts, happend⟩ := abbreviations_eq_append flags positional positional' arg
  rw [happend] at h
  -- an argument that may be short for help is either help or short for several
  cases halts with
  | nil => exact h
  | cons w rest =>
    obtain ⟨why, rfl⟩ := hhalts _ List.mem_cons_self
    rcases h with h | ⟨h, -⟩
    · exact absurd (List.cons.inj h).1.symm (hword why)
    · cases h

/-- What is not help is the same without help. -/
theorem classify_of_offersHelp {word : Word} (hword : ∀ why, word ≠ .halt why)
    (h : classify ⟨flags, true, positional⟩ arg = .ok word) :
    classify ⟨flags, false, positional'⟩ arg = .ok word := by
  -- the word of a spelling of help stops the reading, and this one does not
  have hhelp : ∀ {s : Text × Option Flag} {joined}, s.2 = none →
      classify ⟨flags, true, positional⟩ arg ≠ .ok (wordOf s joined) := by
    intro s joined hnone heq
    rw [h] at heq
    obtain ⟨flag, hflag, -⟩ | ⟨-, why, hw⟩ := wordOf_cases s joined
    · rw [hnone] at hflag
      cases hflag
    · rw [hw] at heq
      exact hword why (Except.ok.inj heq)
  by_cases hhead : arg.head? = some (.char '-')
  case neg =>
    rw [classify_of_head hhead] at h ⊢
    exact h
  -- test by test: each finds the same with and without help, or finds help
  obtain ⟨s, hnone, hs⟩ | hsame := find?_spellings flags positional positional' arg
  · exact absurd (classify_of_spelled hhead hs) (hhelp hnone)
  cases hspelled : ((Grammar.mk flags false positional').spellings.find? fun s => s.1 == arg) with
  | some s =>
    rw [classify_of_spelled hhead hspelled, ← h, classify_of_spelled hhead (hsame.trans hspelled)]
  | none =>
    rw [hspelled] at hsame
    by_cases hdash : arg = [.char '-']
    · rw [classify_of_dash hdash hsame] at h
      rw [classify_of_dash hdash hspelled, h]
    -- where no value is joined to an option, it may be short for one
    have hshort := fun hjoined hjoined' =>
      (classify_eq_ok_iff hhead hdash hspelled hjoined').mpr
        (abbreviations_of_offersHelp hword
          ((classify_eq_ok_iff hhead hdash hsame hjoined).mp h))
    cases hvalue : (splitJoined arg).2 with
    | none => exact hshort (.inl hvalue) (.inl hvalue)
    | some value =>
      obtain ⟨s, hnone, hs⟩ | hsame' :=
        find?_spellings flags positional positional' (splitJoined arg).1
      · exact absurd (classify_of_joined hhead hdash hsame hvalue hs) (hhelp hnone)
      cases hs : ((Grammar.mk flags false positional').spellings.find? fun s =>
          s.1 == (splitJoined arg).1) with
      | some s =>
        rw [classify_of_joined hhead hdash hspelled hvalue hs, ← h,
          classify_of_joined hhead hdash hsame hvalue (hsame'.trans hs)]
      | none => exact hshort (.inr (hsame'.trans hs)) (.inr hs)

end Help

/-! ### Whole lists -/

/-- Arguments are classified one by one as long as no double dash comes. -/
theorem classifyAll_cons (hne : arg ≠ doubleDash) (args : List Text) :
    classifyAll g (arg :: args) =
      (classify g arg).bind fun word => (classifyAll g args).map ((arg, word) :: ·) := by
  rw [classifyAll, if_neg hne]
  cases classify g arg <;> rfl

/-- The arguments of words are those that were classified. -/
theorem map_fst_of_classifyAll {args : List Text} (h : classifyAll g args = .ok words) :
    words.map (·.1) = args := by
  induction args generalizing words with
  | nil =>
    cases h
    rfl
  | cons arg args ih =>
    by_cases hdash : arg = doubleDash
    · rw [classifyAll, if_pos hdash] at h
      cases h
      rw [List.map_cons, List.map_map]
      exact congrArg (arg :: ·) (List.map_id' args)
    · rw [classifyAll_cons hdash] at h
      obtain ⟨word, -, h⟩ := bind_eq_ok_iff.mp h
      obtain ⟨words, hwords, rfl⟩ := map_eq_ok_iff.mp h
      rw [List.map_cons, ih hwords]

/-- Only a double dash is a separator. -/
theorem eq_doubleDash_of_classifyAll {args : List Text} (h : classifyAll g args = .ok words) :
    ∀ w ∈ words, w.2 = .separator → w.1 = doubleDash := by
  induction args generalizing words with
  | nil =>
    cases h
    exact nofun
  | cons arg args ih =>
    by_cases hdash : arg = doubleDash
    · rw [classifyAll, if_pos hdash] at h
      cases h
      intro w hw hword
      rcases List.mem_cons.mp hw with rfl | hw
      · exact hdash
      · obtain ⟨a, -, rfl⟩ := List.mem_map.mp hw
        cases hword
    · rw [classifyAll_cons hdash] at h
      obtain ⟨word, hclassify, h⟩ := bind_eq_ok_iff.mp h
      obtain ⟨words, hwords, rfl⟩ := map_eq_ok_iff.mp h
      intro w hw hword
      rcases List.mem_cons.mp hw with rfl | hw
      · obtain rfl : word = .separator := hword
        -- a separator is only met at a double dash
        exact absurd hclassify classify_ne_separator
      · exact ih hwords w hw hword

/-- Words up to a separator are what their arguments are by themselves, and the others are what
    follows. -/
theorem of_classifyAll_append {args : List Text} {front back : List (Text × Word)}
    (h : classifyAll g args = .ok (front ++ back)) (hfront : ∀ w ∈ front, w.2 ≠ .separator) :
    (∀ w ∈ front, w.1 ≠ doubleDash ∧ classify g w.1 = .ok w.2) ∧
      classifyAll g (back.map (·.1)) = .ok back := by
  induction front generalizing args with
  | nil =>
    refine ⟨nofun, ?_⟩
    rw [List.nil_append] at h
    rw [map_fst_of_classifyAll h, h]
  | cons w front ih =>
    cases args with
    | nil => cases h
    | cons arg args =>
      by_cases hdash : arg = doubleDash
      · rw [classifyAll, if_pos hdash] at h
        injection h with h
        injection h with hw
        -- a double dash would be a separator in front
        exact absurd (hw ▸ rfl) (hfront w List.mem_cons_self)
      · rw [classifyAll_cons hdash] at h
        obtain ⟨word, hclassify, h⟩ := bind_eq_ok_iff.mp h
        obtain ⟨words, hwords, heq⟩ := map_eq_ok_iff.mp h
        cases heq
        obtain ⟨hrest, hback⟩ := ih hwords fun v hv => hfront v (List.mem_cons_of_mem _ hv)
        refine ⟨fun v hv => ?_, hback⟩
        rcases List.mem_cons.mp hv with rfl | hv
        · exact ⟨hdash, hclassify⟩
        · exact hrest v hv

/-- Arguments that are something by themselves are so in front of any others. -/
theorem classifyAll_append {front : List (Text × Word)}
    (h : ∀ w ∈ front, w.1 ≠ doubleDash ∧ classify g w.1 = .ok w.2) (args : List Text) :
    classifyAll g (front.map (·.1) ++ args) = (classifyAll g args).map (front ++ ·) := by
  -- induction on what stands in front, which holds no double dash
  induction front with
  | nil =>
    show classifyAll g args = _
    cases classifyAll g args <;> rfl
  | cons w front ih =>
    obtain ⟨hdash, hclassify⟩ := h w List.mem_cons_self
    rw [List.map_cons, List.cons_append, classifyAll_cons hdash, hclassify, ok_bind,
      ih fun v hv => h v (List.mem_cons_of_mem _ hv)]
    cases classifyAll g args <;> rfl

/-- What is not behind a double dash is what it is by itself. -/
theorem mem_of_classifyAll {args : List Text} (h : classifyAll g args = .ok words)
    (harg : arg ∈ args.takeWhile (· ≠ doubleDash)) :
    ∃ word, (arg, word) ∈ words ∧ classify g arg = .ok word := by
  induction args generalizing words with
  | nil => cases harg
  | cons first args ih =>
    by_cases hdash : first = doubleDash
    · -- nothing stands in front of a double dash
      rw [List.takeWhile_cons_of_neg (by simpa using hdash)] at harg
      cases harg
    · rw [List.takeWhile_cons_of_pos (by simpa using hdash)] at harg
      rw [classifyAll_cons hdash] at h
      obtain ⟨word, hclassify, h⟩ := bind_eq_ok_iff.mp h
      obtain ⟨words, hwords, rfl⟩ := map_eq_ok_iff.mp h
      rcases List.mem_cons.mp harg with rfl | harg
      · exact ⟨word, List.mem_cons_self, hclassify⟩
      · obtain ⟨word', hmem, hclassify'⟩ := ih hwords harg
        exact ⟨word', List.mem_cons_of_mem _ hmem, hclassify'⟩

/-- Arguments that are no options up to a double dash are none at all. -/
theorem classifyAll_of_forall {args : List Text}
    (h : ∀ arg ∈ args.takeWhile (· ≠ doubleDash),
      classify g arg = .ok .plain ∨ classify g arg = .ok .unknown) :
    ∃ words, classifyAll g args = .ok words ∧
      ∀ w ∈ words, isOperand w = true ∨ w.2 = .unknown := by
  induction args with
  | nil => exact ⟨[], rfl, nofun⟩
  | cons first args ih =>
    by_cases hdash : first = doubleDash
    · -- from a double dash on, all are operands
      refine ⟨_, by rw [classifyAll, if_pos hdash], fun w hw => .inl ?_⟩
      rcases List.mem_cons.mp hw with rfl | hw
      · rfl
      · obtain ⟨a, -, rfl⟩ := List.mem_map.mp hw
        rfl
    · rw [List.takeWhile_cons_of_pos (by simpa using hdash)] at h
      obtain ⟨words, hwords, hall⟩ := ih fun a ha => h a (List.mem_cons_of_mem _ ha)
      rw [classifyAll_cons hdash, hwords]
      rcases h first List.mem_cons_self with hfirst | hfirst
      · refine ⟨_, by rw [hfirst]; rfl, fun w hw => ?_⟩
        rcases List.mem_cons.mp hw with rfl | hw
        · exact .inl rfl
        · exact hall w hw
      · refine ⟨_, by rw [hfirst]; rfl, fun w hw => ?_⟩
        rcases List.mem_cons.mp hw with rfl | hw
        · exact .inr rfl
        · exact hall w hw

end KernelCalls.Options
