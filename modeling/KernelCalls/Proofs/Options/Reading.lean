import KernelCalls.Options
import KernelCalls.Proofs.Outcome
import Mathlib.Data.List.Infix
import Mathlib.Data.List.TakeWhile

namespace KernelCalls.Options

open Outcome

/-!
# How words are read

Reading goes from word to word, with fuel for one step each.  There is as much fuel as it needs, and
what is left over stays left over, so that words that are accepted have a known shape.

* `Head` : what words may begin with, which is what a step asks for.
* `run_operands`, `run_option`, `run_unknown`, `run_halt`, `run_operand` : one step.
* `read`, `run_eq_read` : reading with enough fuel.
* `extras_isPrefix` : what is left over stays left over.
* `Gives`, `exists_gives_of_run` : where a command is awaited, options with their values come before
  it.
* `Gives.read_append` : such options give the same values to any reader.
* `Over`, `read_over` : reading over values that are already there.
-/

variable {g : Grammar} {fuel fuel' : Nat} {awaited : Positional} {words rest : List (Text × Word)}
  {parsed p : Parsed} {arg : Text}

/-! ### Single steps -/

/-- How reading ends once only operands are left. -/
def finish (awaited : Positional) (words : List (Text × Word)) (parsed : Parsed) :
    Except Rejection Parsed :=
  match takePositionals awaited words with
  | some (args, rest) =>
    if accepts awaited args then
      .ok { parsed with positionals := args, extras := parsed.extras ++ rest.map (·.1) }
    else .error .usage
  | none =>
    if awaited = .several then .error .usage
    else .ok { parsed with extras := parsed.extras ++ words.map (·.1) }

/-- Where only operands are left, they are taken, or left over, all at once. -/
theorem run_operands (h : words.all isOperand = true) :
    run (fuel + 1) awaited words parsed = finish awaited words parsed := by
  rw [run.eq_def]
  dsimp only
  rw [if_pos h]
  rfl

/-- An option takes its value, and reading goes on behind it. -/
theorem run_option (flag : Flag) (joined : Option Text) :
    run (fuel + 1) awaited ((arg, .option flag joined) :: rest) parsed =
      (takeValue joined rest).bind fun r =>
        if flag.takes r.1 then
          run fuel awaited r.2 { parsed with values := parsed.values.insert flag.name r.1 }
        else .error .usage := by
  rw [run.eq_def]
  dsimp only
  rw [if_neg (by simp [isOperand])]
  cases takeValue joined rest <;> rfl

/-- A word that stops the reading ends it. -/
theorem run_halt (why : Rejection) :
    run (fuel + 1) awaited ((arg, .halt why) :: rest) parsed = .error why := by
  rw [run.eq_def]
  dsimp only
  rw [if_neg (by simp [isOperand])]

/-- An unknown word is left over. -/
theorem run_unknown :
    run (fuel + 1) awaited ((arg, .unknown) :: rest) parsed =
      run fuel awaited rest { parsed with extras := parsed.extras ++ [arg] } := by
  rw [run.eq_def]
  dsimp only
  rw [if_neg (by simp [isOperand])]

/-- An operand in front of other words is taken with those behind it, or left over with them. -/
theorem run_operand {w : Text × Word} (hw : isOperand w = true)
    (hmore : ¬ (w :: rest).all isOperand = true) :
    run (fuel + 1) awaited (w :: rest) parsed =
      match takePositionals awaited (w :: rest) with
      | some (args, rest') =>
        if accepts awaited args then run fuel .nothing rest' { parsed with positionals := args }
        else .error .usage
      | none => run fuel awaited ((w :: rest).dropWhile isOperand)
        { parsed with extras := parsed.extras ++ ((w :: rest).takeWhile isOperand).map (·.1) } := by
  rw [run.eq_def]
  dsimp only
  rw [if_neg hmore]
  obtain ⟨a, word⟩ := w
  cases word <;> first | rfl | cases hw

/-- Words are operands up to the end, or begin with a word of some kind. -/
inductive Head : List (Text × Word) → Prop where
  | operands {words : List (Text × Word)} (all : words.all isOperand = true) : Head words
  | option (arg : Text) (flag : Flag) (joined : Option Text) (rest : List (Text × Word)) :
    Head ((arg, .option flag joined) :: rest)
  | halt (arg : Text) (why : Rejection) (rest : List (Text × Word)) :
    Head ((arg, .halt why) :: rest)
  | unknown (arg : Text) (rest : List (Text × Word)) : Head ((arg, .unknown) :: rest)
  | operand {w : Text × Word} {rest : List (Text × Word)} (first : isOperand w = true)
    (more : ¬ (w :: rest).all isOperand = true) : Head (w :: rest)

/-- Words begin in one of these ways. -/
theorem head : (words : List (Text × Word)) → Head words
  | [] => .operands rfl
  | (arg, .option flag joined) :: rest => .option arg flag joined rest
  | (arg, .halt why) :: rest => .halt arg why rest
  | (arg, .unknown) :: rest => .unknown arg rest
  | (_, .plain) :: _ => (em _).elim .operands (.operand rfl)
  | (_, .separator) :: _ => (em _).elim .operands (.operand rfl)

/-! ### Enough fuel -/

/-- The value of an option is the only word that is taken with it. -/
theorem length_of_takeValue {joined : Option Text} {value : Value}
    (h : takeValue joined words = .ok (value, rest)) : rest.length ≤ words.length := by
  unfold takeValue at h
  split at h
  · cases h
    exact le_rfl
  · cases h
    exact Nat.le_succ _
  · cases h

/-- Taking operands leaves fewer words. -/
theorem length_dropWhile_isOperand {w : Text × Word} (hw : isOperand w = true)
    (rest : List (Text × Word)) : ((w :: rest).dropWhile isOperand).length ≤ rest.length := by
  rw [List.dropWhile_cons_of_pos hw]
  exact (List.dropWhile_suffix _).length_le

/-- Positional arguments that are taken shorten what is left. -/
theorem length_of_takePositionals {w : Text × Word} (hw : isOperand w = true) {args : List Text}
    {left : List (Text × Word)} (h : takePositionals awaited (w :: rest) = some (args, left)) :
    left.length ≤ rest.length := by
  unfold takePositionals at h
  split at h
  · cases h
  · dsimp only at h
    split at h
    · cases h
    · cases h
      exact length_dropWhile_isOperand hw _
  · split at h
    · cases h
      exact Nat.zero_le _
    · cases h

/-- More fuel than there are words is enough. -/
theorem run_eq_run (h : words.length < fuel) (h' : words.length < fuel') :
    run fuel awaited words parsed = run fuel' awaited words parsed := by
  -- every step takes a word at least, so either fuel outlasts the words
  induction fuel generalizing fuel' awaited words parsed with
  | zero => exact absurd h (Nat.not_lt_zero _)
  | succ fuel ih =>
    obtain ⟨fuel', rfl⟩ : ∃ n, fuel' = n + 1 := ⟨fuel' - 1, by omega⟩
    cases head words with
    | operands hall => rw [run_operands hall, run_operands hall]
    | option arg flag joined rest =>
      rw [run_option, run_option]
      cases htake : takeValue joined rest with
      | error e => rfl
      | ok r =>
        have hlength := length_of_takeValue htake
        rw [List.length_cons] at h h'
        rw [ok_bind, ok_bind]
        split
        · exact ih (by omega) (by omega)
        · rfl
    | halt arg why rest => rw [run_halt, run_halt]
    | unknown arg rest =>
      rw [run_unknown, run_unknown]
      exact ih (Nat.lt_of_succ_lt_succ h) (Nat.lt_of_succ_lt_succ h')
    | @operand w rest hw hmore =>
      rw [run_operand hw hmore, run_operand hw hmore]
      rw [List.length_cons] at h h'
      have hdrop := length_dropWhile_isOperand hw rest
      split
      · next htake =>
        have hlength := length_of_takePositionals hw htake
        split
        · exact ih (by omega) (by omega)
        · rfl
      · exact ih (by omega) (by omega)

/-- Reads words with as much fuel as they need. -/
def read (awaited : Positional) (words : List (Text × Word)) (parsed : Parsed) :
    Except Rejection Parsed := run (words.length + 1) awaited words parsed

/-- With fuel for all words, more of it changes nothing. -/
theorem run_eq_read (h : words.length < fuel) :
    run fuel awaited words parsed = read awaited words parsed :=
  run_eq_run h (Nat.lt_succ_self _)

/-- Arguments are classified, and then read. -/
theorem parse_eq (g : Grammar) (args : List Text) :
    parse g args = (classifyAll g args).bind fun words => read g.positional words ⟨[], [], []⟩ := by
  unfold parse
  cases classifyAll g args <;> rfl

/-! ### Leftovers -/

/-- What is left over stays left over. -/
theorem extras_isPrefix (h : run fuel awaited words parsed = .ok p) :
    parsed.extras <+: p.extras := by
  -- no step takes anything out of what is left over
  induction fuel generalizing awaited words parsed with
  | zero => cases h
  | succ fuel ih =>
    cases head words with
    | operands hall =>
      rw [run_operands hall, finish] at h
      split at h
      · split at h
        · cases h
          exact List.prefix_append _ _
        · cases h
      · split at h
        · cases h
        · cases h
          exact List.prefix_append _ _
    | option arg flag joined rest =>
      rw [run_option] at h
      obtain ⟨r, -, h⟩ := bind_eq_ok_iff.mp h
      split at h
      · have hmore := ih h
        exact hmore
      · cases h
    | halt arg why rest =>
      rw [run_halt] at h
      cases h
    | unknown arg rest =>
      rw [run_unknown] at h
      exact (List.prefix_append _ _).trans (ih h)
    | operand hw hmore =>
      rw [run_operand hw hmore] at h
      split at h
      · split at h
        · have hmore := ih h
          exact hmore
        · cases h
      · exact (List.prefix_append _ _).trans (ih h)

/-- Where nothing is left over in the end, nothing was before. -/
theorem extras_eq_nil (h : run fuel awaited words parsed = .ok p) (hp : p.extras = []) :
    parsed.extras = [] :=
  List.prefix_nil.mp (hp ▸ extras_isPrefix h)

/-- Operands that no positional argument takes are left over. -/
theorem takeWhile_isOperand_ne_nil {w : Text × Word} (hw : isOperand w = true)
    (rest : List (Text × Word)) : ((w :: rest).takeWhile isOperand).map (·.1) ≠ [] := by
  rw [List.takeWhile_cons_of_pos hw]
  exact nofun

/-- The value of an option is the joined one, with no words taken, or one plain word. -/
theorem takeValue_eq_ok {joined : Option Text} {value : Value}
    (h : takeValue joined words = .ok (value, rest)) :
    ∃ taken, words = taken ++ rest ∧ (∀ w ∈ taken, w.2 = .plain) ∧
      ∀ more, takeValue joined (taken ++ more) = .ok (value, more) := by
  unfold takeValue at h
  split at h
  · cases h
    exact ⟨[], rfl, nofun, fun _ => rfl⟩
  · next text rest =>
    cases h
    exact ⟨[(text, .plain)], rfl, by simp, fun _ => rfl⟩
  · cases h

/-- Where nothing is left over, and positional arguments are no command, every word was an operand
    or an option. -/
theorem word_of_run (hawaited : ∀ names, awaited ≠ .command names)
    (h : run fuel awaited words parsed = .ok p) (hp : p.extras = []) :
    ∀ w ∈ words, isOperand w = true ∨ ∃ flag joined, w.2 = .option flag joined := by
  induction fuel generalizing awaited words parsed with
  | zero => cases h
  | succ fuel ih =>
    cases head words with
    | operands hall => exact fun w hw => .inl (List.all_eq_true.mp hall w hw)
    | option arg flag joined rest =>
      rw [run_option] at h
      obtain ⟨⟨value, rest'⟩, htake, hrest⟩ := bind_eq_ok_iff.mp h
      obtain ⟨taken, rfl, hplain, -⟩ := takeValue_eq_ok htake
      split at hrest
      · intro w hw
        rcases List.mem_cons.mp hw with rfl | hw
        · exact .inr ⟨flag, joined, rfl⟩
        · -- the value of an option is a plain word, and what follows is read in turn
          rcases List.mem_append.mp hw with hw | hw
          · refine .inl ?_
            obtain ⟨a, word⟩ := w
            obtain rfl : word = .plain := hplain _ hw
            rfl
          · exact ih hawaited hrest w hw
      · cases hrest
    | halt arg why rest =>
      rw [run_halt] at h
      cases h
    | unknown arg rest =>
      rw [run_unknown] at h
      -- an unknown word would be left over
      have hnil := extras_eq_nil h hp
      simp at hnil
    | @operand w rest hw hmore =>
      rw [run_operand hw hmore] at h
      split at h
      · next args rest' htake =>
        split at h
        · have hbehind := ih (by simp) h
          -- what was taken are operands
          have hrest : rest' = (w :: rest).dropWhile isOperand := by
            cases awaited with
            | nothing => cases htake
            | several =>
              rw [takePositionals] at htake
              split at htake
              · cases htake
              · cases htake
                rfl
            | command names => exact absurd rfl (hawaited names)
          intro v hv
          rw [← List.takeWhile_append_dropWhile (p := isOperand) (l := w :: rest)] at hv
          rcases List.mem_append.mp hv with hv | hv
          · exact .inl (List.mem_takeWhile_imp hv)
          · exact hbehind v (hrest ▸ hv)
        · cases h
      · -- and so would operands that nothing takes
        have hnil := extras_eq_nil h hp
        exact absurd (List.append_eq_nil_iff.mp hnil).2 (takeWhile_isOperand_ne_nil hw rest)

/-- Words without options and halts give no values where no positional arguments are taken. -/
theorem run_nothing (h : ∀ w ∈ words, isOperand w = true ∨ w.2 = .unknown)
    (hfuel : words.length < fuel) :
    ∃ q, run fuel .nothing words parsed = .ok q ∧ q.values = parsed.values := by
  induction fuel generalizing words parsed with
  | zero => exact absurd hfuel (Nat.not_lt_zero _)
  | succ fuel ih =>
    cases head words with
    | operands hall =>
      rw [run_operands hall]
      exact ⟨_, rfl, rfl⟩
    | option arg flag joined rest =>
      have hfirst := h _ List.mem_cons_self
      simp [isOperand] at hfirst
    | halt arg why rest =>
      have hfirst := h _ List.mem_cons_self
      simp [isOperand] at hfirst
    | unknown arg rest =>
      rw [run_unknown]
      exact ih (fun w hw => h w (List.mem_cons_of_mem _ hw)) (Nat.lt_of_succ_lt_succ hfuel)
    | @operand w rest hw hmore =>
      rw [run_operand hw hmore]
      have hlength := length_dropWhile_isOperand hw rest
      rw [List.length_cons] at hfuel
      -- operands are left over, and the words behind them are no options either
      exact ih (fun v hv => h v ((List.dropWhile_suffix _).subset hv)) (by omega)

/-- Operands and unknown words give no option a value. -/
theorem read_nothing (h : ∀ w ∈ words, isOperand w = true ∨ w.2 = .unknown) (parsed : Parsed) :
    ∃ q, read .nothing words parsed = .ok q ∧ q.values = parsed.values :=
  run_nothing h (Nat.lt_succ_self _)

/-! ### Options at the head -/

/-- Words that are options with their values, and a table before and after the values are put in. -/
inductive Gives : List (Text × Word) → Table Text Value → Table Text Value → Prop where
  | nil (t : Table Text Value) : Gives [] t t
  | option {arg : Text} {flag : Flag} {joined : Option Text} {taken rest : List (Text × Word)}
    {value : Value} {t t' : Table Text Value} (plain : ∀ w ∈ taken, w.2 = .plain)
    (take : ∀ more, takeValue joined (taken ++ more) = .ok (value, more))
    (takes : flag.takes value = true) (tail : Gives rest (t.insert flag.name value) t') :
    Gives ((arg, .option flag joined) :: (taken ++ rest)) t t'

/-- The words of options are options and their values. -/
theorem Gives.word {opts : List (Text × Word)} {t t' : Table Text Value} (h : Gives opts t t') :
    ∀ w ∈ opts, w.2 = .plain ∨ ∃ flag joined, w.2 = .option flag joined := by
  induction h with
  | nil t => exact nofun
  | option plain take takes tail ih =>
    intro w hw
    rcases List.mem_cons.mp hw with rfl | hw
    · exact .inr ⟨_, _, rfl⟩
    · rcases List.mem_append.mp hw with hw | hw
      · exact .inl (plain w hw)
      · exact ih w hw

/-- Options at the head give their values, whatever follows them. -/
theorem Gives.read_append {opts more : List (Text × Word)} {t t' : Table Text Value}
    (h : Gives opts t t') (awaited : Positional) (positionals extras : List Text) :
    read awaited (opts ++ more) ⟨t, positionals, extras⟩ =
      read awaited more ⟨t', positionals, extras⟩ := by
  induction h with
  | nil t => rfl
  | option plain take takes tail ih =>
    rw [← ih, read, List.cons_append, List.append_assoc, run_option, take, ok_bind, if_pos takes]
    -- reading goes on with the fuel for an option and its value, which is more than needed
    refine run_eq_read ?_
    simp only [List.length_cons, List.length_append]
    omega

/-- A command is at the head of the words that it takes, which are all. -/
theorem takePositionals_command {names args : List Text} {left : List (Text × Word)}
    (htake : takePositionals (.command names) words = some (args, left))
    (haccepts : accepts (.command names) args = true) :
    args = words.map (·.1) ∧ left = [] ∧
      ∃ name word rest, words = (name, word) :: rest ∧ name ∈ names := by
  rw [takePositionals] at htake
  split at htake
  · cases htake
    refine ⟨rfl, rfl, ?_⟩
    cases words with
    | nil => cases haccepts
    | cons w rest => exact ⟨w.1, w.2, rest, rfl, by simpa [accepts] using haccepts⟩
  · cases htake

/-- A command ends the options. -/
theorem exists_gives_of_command {names args : List Text} {left : List (Text × Word)}
    (hnames : doubleDash ∉ names) (hdash : ∀ w ∈ words, w.2 = .separator → w.1 = doubleDash)
    (hoperand : ∀ w rest, words = w :: rest → isOperand w = true)
    (htake : takePositionals (.command names) words = some (args, left))
    (haccepts : accepts (.command names) args = true) (t : Table Text Value) :
    ∃ opts back, words = opts ++ back ∧ Gives opts t t ∧ args = back.map (·.1) ∧
      (back = [] ∨ ∃ name rest, back = (name, .plain) :: rest ∧ name ∈ names) := by
  obtain ⟨rfl, -, name, word, rest, rfl, hname⟩ := takePositionals_command htake haccepts
  refine ⟨[], _, rfl, .nil t, rfl, .inr ⟨name, rest, ?_, hname⟩⟩
  have hword := hoperand _ _ rfl
  cases word with
  | plain => rfl
  | separator => exact absurd (hdash _ List.mem_cons_self rfl ▸ hname) hnames
  | _ => cases hword

/-- Where a command is awaited and nothing is left over, options come first, and then the command
    with all that follows it, or nothing. -/
theorem exists_gives_of_run {names : List Text} (hnames : doubleDash ∉ names)
    (hdash : ∀ w ∈ words, w.2 = .separator → w.1 = doubleDash)
    (h : run fuel (.command names) words parsed = .ok p) (hempty : parsed.positionals = [])
    (hp : p.extras = []) :
    ∃ opts back, words = opts ++ back ∧ Gives opts parsed.values p.values ∧
      p.positionals = back.map (·.1) ∧
      (back = [] ∨ ∃ name rest, back = (name, .plain) :: rest ∧ name ∈ names) := by
  induction fuel generalizing words parsed with
  | zero => cases h
  | succ fuel ih =>
    cases head words with
    | operands hall =>
      rw [run_operands hall, finish] at h
      split at h
      · next args left htake =>
        split at h
        · next haccepts =>
          cases h
          refine exists_gives_of_command hnames hdash (fun w rest hw => ?_) htake haccepts _
          exact List.all_eq_true.mp hall w (hw ▸ List.mem_cons_self)
        · cases h
      · split at h
        · cases h
        · cases h
          -- words that no command takes would be left over
          have hnil : words = [] := by simpa using (List.append_eq_nil_iff.mp hp).2
          exact ⟨[], [], hnil, .nil _, hempty, .inl rfl⟩
    | option arg flag joined rest =>
      rw [run_option] at h
      obtain ⟨⟨value, rest'⟩, htake, hrest⟩ := bind_eq_ok_iff.mp h
      obtain ⟨taken, rfl, hplain, htaken⟩ := takeValue_eq_ok htake
      split at hrest
      · next htakes =>
        -- an option with its value is put in front of those of the rest
        have hdash' : ∀ w ∈ rest', w.2 = .separator → w.1 = doubleDash := fun w hw =>
          hdash w (List.mem_cons_of_mem _ (List.mem_append_right _ hw))
        obtain ⟨opts, back, rfl, hgives, hback⟩ := ih hdash' hrest hempty
        refine ⟨(arg, .option flag joined) :: (taken ++ opts), back, ?_, ?_, hback⟩
        · rw [List.cons_append, List.append_assoc]
        · exact .option hplain htaken htakes hgives
      · cases hrest
    | halt arg why rest =>
      rw [run_halt] at h
      cases h
    | unknown arg rest =>
      rw [run_unknown] at h
      -- an unknown word would be left over
      have hnil := extras_eq_nil h hp
      simp at hnil
    | @operand w rest hw hmore =>
      rw [run_operand hw hmore] at h
      split at h
      · next args left htake =>
        split at h
        · next haccepts =>
          obtain ⟨rfl, rfl, -⟩ := takePositionals_command htake haccepts
          -- nothing follows the command
          cases fuel with
          | zero => cases h
          | succ fuel =>
            rw [run_operands rfl] at h
            cases h
            refine exists_gives_of_command hnames hdash (fun v rest hv => ?_) htake haccepts _
            cases hv
            exact hw
        · cases h
      · have hnil := extras_eq_nil h hp
        exact absurd (List.append_eq_nil_iff.mp hnil).2 (takeWhile_isOperand_ne_nil hw rest)

/-! ### Values over earlier ones -/

/-- Two readings are refused alike, or the second one finds what the first one finds, and else what
    was there before. -/
inductive Over (base : Table Text Value) :
    Except Rejection Parsed → Except Rejection Parsed → Prop where
  | refused (e : Rejection) : Over base (.error e) (.error e)
  | values {q r : Parsed}
    (find : ∀ name, r.values.find? name = (q.values.find? name).or (base.find? name)) :
    Over base (.ok q) (.ok r)

/-- Reading goes on alike over values that are already there. -/
theorem run_over {base : Table Text Value} {parsed' : Parsed}
    (h : ∀ name, parsed'.values.find? name = (parsed.values.find? name).or (base.find? name)) :
    Over base (run fuel awaited words parsed) (run fuel awaited words parsed') := by
  -- values play no part in what is read, so both readings take the same steps
  induction fuel generalizing awaited words parsed parsed' with
  | zero => exact .refused _
  | succ fuel ih =>
    cases head words with
    | operands hall =>
      rw [run_operands hall, run_operands hall, finish, finish]
      split
      · split
        · exact .values h
        · exact .refused _
      · split
        · exact .refused _
        · exact .values h
    | option arg flag joined rest =>
      rw [run_option, run_option]
      cases takeValue joined rest with
      | error e => exact .refused e
      | ok r =>
        rw [ok_bind, ok_bind]
        split
        · -- the value of the option hides what was there on both sides
          refine ih fun name => ?_
          dsimp only
          rw [Table.find?_insert, Table.find?_insert]
          split
          · rfl
          · exact h name
        · exact .refused _
    | halt arg why rest =>
      rw [run_halt, run_halt]
      exact .refused why
    | unknown arg rest =>
      rw [run_unknown, run_unknown]
      exact ih h
    | operand hw hmore =>
      rw [run_operand hw hmore, run_operand hw hmore]
      split
      · split
        · exact ih h
        · exact .refused _
      · exact ih h

/-- Values that are there already only play a part below those that are read. -/
theorem read_over (awaited : Positional) (words : List (Text × Word)) (t : Table Text Value)
    (positionals extras : List Text) :
    Over t (read awaited words ⟨[], positionals, extras⟩)
      (read awaited words ⟨t, positionals, extras⟩) :=
  run_over fun _ => rfl

end KernelCalls.Options
