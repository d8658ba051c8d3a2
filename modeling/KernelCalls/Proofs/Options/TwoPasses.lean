import KernelCalls.CommandLine
import KernelCalls.Proofs.Options.Classification
import KernelCalls.Proofs.Options.Reading
import KernelCalls.Proofs.Settings

namespace KernelCalls

open Options Outcome

namespace CommandLine

/-!
# Settings and command from the same arguments

Settings are read from all arguments before the command is, by a reader that knows no commands.
Options before the command are the same to both readers.  What follows the command is not: the
settings are also taken from an argument of the command that looks like one of their options.

* `isConfusable` : the arguments of commands that look like options of settings.
* `classify_of_not_confusable` : no other argument of a command is one.
* `Divided`, `exists_divided` : options of the program, and then the command.
* `readArguments_of_readCommand` : the settings of arguments with an accepted command.
* `initSettings_of_readCommand` : what a run takes over from such arguments.
-/

variable {args : List Text} {arg name : Text} {p : Parsed} {command : Command}

/-- An argument of a command may be taken for an option of settings: the option of a category, when
    it is cut so short that it is a catalog as well, or a value with a space that goes on from an
    option. -/
def isConfusable (arg : Text) : Bool :=
  let name := (splitJoined arg).1
  name == "--ca" || name == "--cat" ||
    (isLong arg && arg.contains (.char ' ') && Settings.flags.any fun flag =>
      name.isPrefixOf flag.name)

/-- The test for a name that an option goes on from. -/
theorem any_isPrefixOf {name : Text} (h : ∃ flag ∈ Settings.flags, name <+: flag.name) :
    (Settings.flags.any fun flag => name.isPrefixOf flag.name) = true := by
  obtain ⟨flag, hflag, hprefix⟩ := h
  exact List.any_eq_true.mpr ⟨flag, hflag, List.isPrefixOf_iff_prefix.mpr hprefix⟩

/-- The names that the options of a category and of settings both go on from. -/
theorem sharedName_cases {name : Text} (hcategory : name <+: categoryOption.name)
    (hsettings : ∃ flag ∈ Settings.flags, name <+: flag.name) (hlong : isLong name = true) :
    name = "--" ∨ name = "--c" ∨ name = "--ca" ∨ name = "--cat" := by
  -- there are only finitely many names that the option goes on from
  have hall : ∀ name ∈ List.inits categoryOption.name, isLong name = true →
      (Settings.flags.any fun flag => name.isPrefixOf flag.name) = true →
        name = "--" ∨ name = "--c" ∨ name = "--ca" ∨ name = "--cat" := by decide
  exact hall name ((List.mem_inits _ _).mpr hcategory) hlong (any_isPrefixOf hsettings)

/-- Two names are short for several options of the program. -/
theorem classify_ne_ok_of_ambiguous {word : Word} (hlong : isLong arg = true)
    (hname : (splitJoined arg).1 = "--" ∨ (splitJoined arg).1 = "--c") :
    classify grammar arg ≠ .ok word := by
  intro h
  -- the names go on to the catalog and to the settings file at least
  have hcount : 1 < (abbreviations grammar arg).length := by
    rw [abbreviations_of_isLong hlong, List.length_map]
    rcases hname with hname | hname <;> rw [hname] <;> decide
  cases classified h with
  | value spelled eq =>
    obtain ⟨tail, rfl⟩ := isLong_iff.mp hlong
    simp at spelled
  | spelling mem joined spelled eq =>
    -- no option is spelled like that, with or without a value
    have hspellings : ∀ s ∈ grammar.spellings,
        (splitJoined s.1).1 = s.1 ∧ s.1 ≠ "--" ∧ s.1 ≠ "--c" := by decide
    obtain ⟨hsplit, hdash, hc⟩ := hspellings _ mem
    rcases spelled with rfl | ⟨value, hvalue⟩
    · rw [hsplit] at hname
      exact hname.elim hdash hc
    · rw [hvalue] at hname
      exact hname.elim hdash hc
  | abbreviation only => simp [only] at hcount
  | other none eq => simp [none] at hcount

/-- The only option of a command is that of a category. -/
theorem flags_commandGrammar {flag : Flag} (h : flag ∈ (commandGrammar name).flags) :
    flag = categoryOption := by
  unfold commandGrammar at h
  split at h
  · cases h
  · split at h
    · exact List.mem_singleton.mp h
    · cases h

/-- No command has a command of its own. -/
theorem positional_commandGrammar (name : Text) (names : List Text) :
    (commandGrammar name).positional ≠ .command names := by
  unfold commandGrammar
  split
  · exact nofun
  · split <;> exact nofun

/-- An argument that the program can read and its command takes is no option of settings, unless it
    may be taken for one. -/
theorem classify_of_not_confusable {word word' : Word} (hprogram : classify grammar arg = .ok word')
    (hcommand : classify (commandGrammar name) arg = .ok word)
    (hword : word = .plain ∨ ∃ flag joined, word = .option flag joined)
    (hconfusable : isConfusable arg = false) :
    classify Settings.grammar arg = .ok .plain ∨ classify Settings.grammar arg = .ok .unknown := by
  by_contra hsettings
  obtain ⟨hplain, hunknown⟩ := not_or.mp hsettings
  have hflags : LongFlags Settings.grammar := by
    show ∀ flag ∈ Settings.flags, _
    decide
  -- otherwise it begins the name of an option of settings
  obtain ⟨hlong, hflag⟩ := exists_flag_of_classify hflags rfl hplain hunknown
  rcases hword with rfl | ⟨flag, joined, rfl⟩
  · -- a value that begins like an option holds a space
    have hspace := contains_space_of_classify hcommand hlong
    have hconfused : isConfusable arg = true := by
      simp only [isConfusable, hlong, hspace, any_isPrefixOf hflag, Bool.and_self, Bool.or_true]
    rw [hconfusable] at hconfused
    cases hconfused
  · -- an option of the command is that of a category, with a name that settings share
    obtain ⟨hmem, hname⟩ := flag_of_classify hcommand
    obtain rfl := flags_commandGrammar hmem
    have hprefix : (splitJoined arg).1 <+: categoryOption.name := by
      rcases hname with rfl | hprefix
      · exact splitJoined_isPrefix _
      · exact hprefix
    rcases sharedName_cases hprefix hflag (isLong_splitJoined hlong) with hn | hn | hn | hn
    · exact absurd hprogram (classify_ne_ok_of_ambiguous hlong (.inl hn))
    · exact absurd hprogram (classify_ne_ok_of_ambiguous hlong (.inr hn))
    · simp [isConfusable, hn] at hconfusable
    · simp [isConfusable, hn] at hconfusable

/-! ### Both readers -/

/-- Where a command is read, nothing is left over, neither by the program nor by the command. -/
theorem readCommand_eq_ok (h : readCommand args = .ok (command, p)) :
    parse grammar args = .ok p ∧ p.extras = [] ∧ ∀ name rest, p.positionals = name :: rest →
      ∃ q, parse (commandGrammar name) rest = .ok q ∧ q.extras = [] := by
  obtain ⟨p', hparse, h⟩ := bind_eq_ok_iff.mp h
  -- what the end of reading says
  have hend : ∀ {extras : List Text} {command' : Command},
      (if p'.extras.isEmpty && extras.isEmpty then
        (.ok (command', p') : Except Rejection (Command × Parsed)) else .error .usage) =
          .ok (command, p) → p' = p ∧ p'.extras = [] ∧ extras = [] := by
    intro extras command' h
    split at h
    · next hempty =>
      obtain ⟨hextras, hleft⟩ := Bool.and_eq_true_iff.mp hempty
      cases h
      exact ⟨rfl, List.isEmpty_iff.mp hextras, List.isEmpty_iff.mp hleft⟩
    · cases h
  cases hpositionals : p'.positionals with
  | nil =>
    rw [hpositionals] at h
    obtain ⟨rfl, hextras, -⟩ := hend h
    refine ⟨hparse, hextras, fun name rest hp => ?_⟩
    rw [hpositionals] at hp
    cases hp
  | cons name rest =>
    rw [hpositionals] at h
    obtain ⟨q, hq, h⟩ := bind_eq_ok_iff.mp h
    obtain ⟨rfl, hextras, hleft⟩ := hend h
    refine ⟨hparse, hextras, fun name' rest' hp => ?_⟩
    rw [hpositionals] at hp
    cases hp
    exact ⟨q, hq, hleft⟩

/-- An accepted argument list: options of the program, which settings read as the program does, and
    then the command with its arguments, or nothing. -/
structure Divided (args front : List Text) (p : Parsed) : Prop where
  args : args = front ++ p.positionals
  /-- All arguments of the command are something to the program. -/
  words : ∃ words, classifyAll grammar p.positionals = .ok words
  name : ∀ name rest, p.positionals = name :: rest → classify Settings.grammar name = .ok .plain
  settings : ∀ tail, parse Settings.grammar (front ++ tail) =
    (classifyAll Settings.grammar tail).bind fun words => read .nothing words ⟨p.values, [], []⟩

/-- Arguments that the program accepts are options, and then the command. -/
theorem exists_divided (h : parse grammar args = .ok p) (hextras : p.extras = []) :
    ∃ front, Divided args front p := by
  rw [parse_eq] at h
  obtain ⟨words, hwords, hread⟩ := bind_eq_ok_iff.mp h
  -- nothing is left over, so the words are options and then the command
  obtain ⟨opts, back, rfl, hgives, hpositionals, hback⟩ :=
    exists_gives_of_run (by decide) (eq_doubleDash_of_classifyAll hwords) hread rfl hextras
  have hopts : ∀ w ∈ opts, w.2 ≠ .separator ∧ ∀ why, w.2 ≠ .halt why := by
    intro w hw
    rcases hgives.word w hw with hword | ⟨flag, joined, hword⟩ <;> rw [hword] <;>
      exact ⟨nofun, nofun⟩
  obtain ⟨hfront, htail⟩ := of_classifyAll_append hwords fun w hw => (hopts w hw).1
  refine ⟨opts.map (·.1), ?_⟩
  constructor
  case args => rw [← map_fst_of_classifyAll hwords, List.map_append, hpositionals]
  case words => exact ⟨back, hpositionals ▸ htail⟩
  case name =>
    intro name rest hp
    rw [hpositionals] at hp
    obtain rfl | ⟨name', rest', rfl, hname⟩ := hback
    · cases hp
    · cases hp
      -- the names of commands do not begin with a dash
      have hnames : ∀ name ∈ [lookupName, classifyName, catalogName, infoName],
          classify Settings.grammar name = .ok .plain := by decide
      exact hnames _ hname
  case settings =>
    intro tail
    -- the options of settings are those of the program, without help
    have hsettings : ∀ w ∈ opts, w.1 ≠ doubleDash ∧ classify Settings.grammar w.1 = .ok w.2 :=
      fun w hw => ⟨(hfront w hw).1, classify_of_offersHelp (hopts w hw).2 (hfront w hw).2⟩
    rw [parse_eq, classifyAll_append hsettings]
    cases classifyAll Settings.grammar tail with
    | error e => rfl
    | ok words =>
      rw [map_ok, ok_bind, ok_bind]
      exact hgives.read_append .nothing [] []

/-- What settings take from arguments are the values of options alone. -/
theorem ofParsed_congr {q r : Parsed} (h : q.values = r.values) :
    Settings.Arguments.ofParsed q = Settings.Arguments.ofParsed r := by
  unfold Settings.Arguments.ofParsed
  rw [h]

/-- What a command takes is a value or an option of it by itself. -/
theorem word_of_parse {rest : List Text} {q : Parsed}
    (h : parse (commandGrammar name) rest = .ok q) (hq : q.extras = [])
    (harg : arg ∈ rest.takeWhile (· ≠ doubleDash)) :
    ∃ word, classify (commandGrammar name) arg = .ok word ∧
      (word = .plain ∨ ∃ flag joined, word = .option flag joined) := by
  rw [parse_eq] at h
  obtain ⟨words, hwords, hread⟩ := bind_eq_ok_iff.mp h
  obtain ⟨word, hmem, hclassify⟩ := mem_of_classifyAll hwords harg
  refine ⟨word, hclassify, ?_⟩
  rcases word_of_run (positional_commandGrammar name) hread hq _ hmem with hoperand | hoption
  · cases word with
    | plain => exact .inl rfl
    | separator => exact absurd hclassify classify_ne_separator
    | _ => cases hoperand
  · exact .inr hoption

/-- Where no argument of the command may be taken for an option, none is one to settings. -/
theorem Divided.classify_positionals {front : List Text} (hdivided : Divided args front p)
    (h : readCommand args = .ok (command, p))
    (hconfusable : ∀ arg ∈ p.positionals.takeWhile (· ≠ doubleDash), isConfusable arg = false) :
    ∀ arg ∈ p.positionals.takeWhile (· ≠ doubleDash),
      classify Settings.grammar arg = .ok .plain ∨
        classify Settings.grammar arg = .ok .unknown := by
  intro arg harg
  obtain ⟨-, -, hcommand⟩ := readCommand_eq_ok h
  obtain ⟨words, hwords⟩ := hdivided.words
  -- the program has classified every argument of the command as well
  obtain ⟨word', -, hprogram⟩ := mem_of_classifyAll hwords harg
  have hclean := hconfusable arg harg
  cases hpositionals : p.positionals with
  | nil =>
    rw [hpositionals] at harg
    cases harg
  | cons name rest =>
    rw [hpositionals, List.takeWhile_cons] at harg
    split at harg
    · rcases List.mem_cons.mp harg with rfl | harg
      · exact .inl (hdivided.name _ _ hpositionals)
      · obtain ⟨q, hparse, hq⟩ := hcommand name rest hpositionals
        obtain ⟨word, hclassify, hword⟩ := word_of_parse hparse hq harg
        exact classify_of_not_confusable hprogram hclassify hword hclean
    · cases harg

/-- Where no argument of the command may be taken for an option, settings are accepted as the
    program reads them. -/
theorem Divided.readArguments_eq {front : List Text} (hdivided : Divided args front p)
    (h : readCommand args = .ok (command, p))
    (hconfusable : ∀ arg ∈ p.positionals.takeWhile (· ≠ doubleDash), isConfusable arg = false) :
    Settings.readArguments args = .ok (.ofParsed p) := by
  have hwords := hdivided.classify_positionals h hconfusable
  obtain ⟨words, hclassify, hall⟩ := classifyAll_of_forall hwords
  obtain ⟨q, hread, hvalues⟩ := read_nothing hall ⟨p.values, [], []⟩
  rw [Settings.readArguments, hdivided.args, hdivided.settings, hclassify, ok_bind, hread,
    map_ok, ofParsed_congr hvalues]
  rfl

/-- **Two readers.** In arguments with an accepted command, the options before the command give
    settings the values that the program reads.  Over these come the values that the command with
    its arguments gives by itself.  Where no argument of the command may be taken for an option, in
    front of any double dash, there are none, and settings are accepted as the program reads
    them. -/
theorem readArguments_of_readCommand (h : readCommand args = .ok (command, p)) :
    (∃ front, args = front ++ p.positionals ∧
      Settings.readArguments front = .ok (.ofParsed p)) ∧
    Over p.values (parse Settings.grammar p.positionals) (parse Settings.grammar args) ∧
    ((∀ arg ∈ p.positionals.takeWhile (· ≠ doubleDash), isConfusable arg = false) →
      Settings.readArguments args = .ok (.ofParsed p)) := by
  obtain ⟨hparse, hextras, -⟩ := readCommand_eq_ok h
  obtain ⟨front, hdivided⟩ := exists_divided hparse hextras
  refine ⟨⟨front, hdivided.args, ?_⟩, ?_, hdivided.readArguments_eq h⟩
  · -- with nothing behind the options, settings read just those
    have hfront := hdivided.settings []
    rw [List.append_nil] at hfront
    rw [Settings.readArguments, hfront]
    rfl
  · -- the values of the options are there when settings go on to the command
    rw [hdivided.args, hdivided.settings, parse_eq]
    cases classifyAll Settings.grammar p.positionals with
    | error e => exact .refused e
    | ok words => exact read_over .nothing words p.values [] []

/-- Options of the program in short, and a command with an option of its own. -/
def cataloguedMath : List Text :=
  ["--log-level", "DEBUG", "--cata=k.yaml", "catalog", "--category", "math"]

/-- The settings are those in front of the command. -/
theorem readArguments_cataloguedMath :
    ∃ p, readCommand cataloguedMath = .ok (.catalog (some (.text "math")), p) ∧
      Settings.readArguments cataloguedMath = .ok ⟨none, some "k.yaml", some "DEBUG"⟩ := by
  have hread : readCommand cataloguedMath = .ok (.catalog (some (.text "math")),
      ⟨[("--log-level", .text "DEBUG"), ("--catalog", .text "k.yaml")],
        ["catalog", "--category", "math"], []⟩) := by decide +kernel
  obtain ⟨-, -, hsettings⟩ := readArguments_of_readCommand hread
  exact ⟨_, hread, hsettings (by decide +kernel)⟩

/-- An option of a category that is cut short. -/
def cutCategory : List Text := ["catalog", "--cat", "math"]

/-- The program reads a category and no option of its own, but settings read a catalog. -/
theorem not_readArguments_cutCategory :
    readCommand cutCategory = .ok (.catalog (some (.text "math")), ⟨[], cutCategory, []⟩) ∧
      Settings.Arguments.ofParsed ⟨[], cutCategory, []⟩ = ⟨none, none, none⟩ ∧
      Settings.readArguments cutCategory = .ok ⟨none, some "math", none⟩ := by
  decide +kernel

/-! ### What a run takes over -/

open KernelCalls.Action

/-- **Settings of a run.** Where no argument of the command may be taken for an option, a run takes
    over the settings file and the values that the program reads in front of the command, and
    nothing else: the values go over those that were there, and the members of the file below them,
    over what is built in.  It can only fail with a settings file. -/
theorem initSettings_of_readCommand (h : readCommand args = .ok (command, p))
    (hconfusable : ∀ arg ∈ p.positionals.takeWhile (· ≠ doubleDash), isConfusable arg = false)
    (w : Workspace) :
    let a := Settings.Arguments.ofParsed p
    (a.config ≠ none ∧ ∃ e w', runOn (initSettings (some args)) w = (.error e, w')) ∨
      ∃ s, runOn (initSettings (some args)) w = (.ok (), { w with settings := s }) ∧ ∀ key,
        s.values.find? key = ((a.config.bind fun name =>
            Settings.fileValue? (.ofText name) (w.files (.ofText name)) key).or
          (Settings.builtinValues.find? key)).or (w.settings.values.find? key) ∧
        s.overrides.find? key = (if key = Settings.catalogKey then a.catalog
          else if key = Settings.logLevelKey then a.logLevel else none).or
            (w.settings.overrides.find? key) := by
  intro a
  obtain ⟨hparse, hextras, -⟩ := readCommand_eq_ok h
  obtain ⟨front, hdivided⟩ := exists_divided hparse hextras
  have hread : Settings.readArguments args = .ok a := hdivided.readArguments_eq h hconfusable
  -- the built-in values are taken over first, and then what the arguments say
  let bundled : Workspace := { w with settings := w.settings.loadBundled }
  have hbundled : runOn (changeSettings Settings.loadBundled) w = (.ok (), bundled) := rfl
  rw [initSettings, runOn_bind_of_ok hbundled]
  rcases Settings.ends_applyArguments hread bundled with ⟨hconfig, e, hrun⟩ | ⟨s, hrun, hs⟩
  · exact .inl ⟨hconfig, e, bundled, hrun⟩
  · refine .inr ⟨s, hrun, fun key => ?_⟩
    obtain ⟨hvalues, hoverrides⟩ := hs key
    refine ⟨?_, hoverrides⟩
    rw [hvalues, Option.or_assoc]
    exact congrArg _ (Settings.find?_loadBundled w.settings key)

end CommandLine

end KernelCalls
