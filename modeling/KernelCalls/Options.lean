import KernelCalls.Table
import KernelCalls.Text.Numeral

namespace KernelCalls.Options

/-!
# Option grammars

How a list of arguments is divided into options, their values and positional arguments. Long options
may be cut short as long as they stay unambiguous, and a value may be joined with an equals sign.

* `Grammar` : the options and positional arguments that a command takes
* `classify` : what an argument is by itself
* `Value` : the value of an option
* `parse` : the values of the options, the positional arguments, and what belongs to neither
-/

/-- An option that takes a value, which may be limited to choices. -/
structure Flag where
  name : Text
  choices : Option (List Text)
  deriving DecidableEq, Repr

/-- What the positional arguments are: none, one or more, or a command with all that follows it. -/
inductive Positional where
  | nothing
  | several
  | command (names : List Text)
  deriving DecidableEq, Repr

/-- The options and positional arguments that a command takes. -/
structure Grammar where
  flags : List Flag
  /-- Help may be asked for with `-h` and `--help`. -/
  offersHelp : Bool
  positional : Positional
  deriving DecidableEq, Repr

/-- Why arguments are not taken: they are wrong, or they ask for help instead. -/
inductive Rejection where
  | usage
  | help
  deriving DecidableEq, Repr

/-! ### Single arguments -/

/-- What an argument is by itself. -/
inductive Word where
  /-- A value or a positional argument. -/
  | plain
  /-- The first double dash; nothing after it is an option. -/
  | separator
  /-- An option, with the value that is joined to it. -/
  | option (flag : Flag) (joined : Option Text)
  /-- Ends reading when it is reached. -/
  | halt (why : Rejection)
  /-- Looks like an option but is none. -/
  | unknown
  deriving DecidableEq, Repr

/-- The short spelling of help. -/
def shortHelp : Text := "-h"

/-- The long spelling of help. -/
def longHelp : Text := "--help"

/-- What stands in front of arguments that are no options. -/
def doubleDash : Text := "--"

/-- All spellings of options, those of help without a flag. -/
def Grammar.spellings (g : Grammar) : List (Text × Option Flag) :=
  (if g.offersHelp then [(shortHelp, none), (longHelp, none)] else []) ++
    g.flags.map fun f => (f.name, some f)

/-- The part before the first equals sign, and the part after it if there is one. -/
def splitJoined (arg : Text) : Text × Option Text :=
  let name := arg.takeWhile (· ≠ .char '=')
  match arg.drop name.length with
  | [] => (name, none)
  | _ :: value => (name, some value)

/-- A negative number, which is a value and not an option. A line feed may follow it. -/
def isNegativeNumber (arg : Text) : Bool :=
  let isDecimal := fun c : CodePoint => c.is fun d => (Text.decimalDigit? d).isSome
  match arg with
  | .char '-' :: rest =>
    let rest := if rest.getLast? == some (.char '\n') then rest.dropLast else rest
    match rest.dropWhile isDecimal with
    | [] => !rest.isEmpty
    | .char '.' :: fraction => !fraction.isEmpty && fraction.all isDecimal
    | _ => false
  | _ => false

/-- What is joined to the short spelling of help: more of the same letter asks for help too, and
nothing else is taken. -/
def helpCluster (letters : Text) : Rejection :=
  if !letters.isEmpty && letters.all (· == .char 'h') then .help else .usage

/-- An option by one of its spellings as a word; help takes no value. -/
def wordOf (spelling : Text × Option Flag) (joined : Option Text) : Word :=
  match spelling.2, joined with
  | some f, _ => .option f joined
  | none, none => .halt .help
  | none, some letters =>
    .halt (if spelling.1 = shortHelp then helpCluster letters else .usage)

/-- The words that an argument may be short for. -/
def abbreviations (g : Grammar) (arg : Text) : List Word :=
  match arg with
  | .char '-' :: .char '-' :: _ =>
    let (name, joined) := splitJoined arg
    (g.spellings.filter fun s => name.isPrefixOf s.1).map fun s => wordOf s joined
  | .char '-' :: .char 'h' :: letters =>
    if g.offersHelp then [wordOf (shortHelp, none) (some letters)] else []
  | _ => []

/-- What an argument is by itself, before any double dash. -/
def classify (g : Grammar) (arg : Text) : Except Rejection Word :=
  let spelled := fun name : Text => g.spellings.find? fun s => s.1 == name
  if arg.head? ≠ some (.char '-') then .ok .plain
  else
    match spelled arg with
    | some spelling => .ok (wordOf spelling none)
    | none =>
      if arg = [.char '-'] then .ok .plain
      else
        let (name, joined) := splitJoined arg
        match joined, spelled name with
        | some value, some spelling => .ok (wordOf spelling (some value))
        | _, _ =>
          match abbreviations g arg with
          | [word] => .ok word
          | _ :: _ => .error .usage
          | [] =>
            .ok (if isNegativeNumber arg || arg.contains (.char ' ') then .plain else .unknown)

/-- What each argument is; after a double dash all are plain. -/
def classifyAll (g : Grammar) : List Text → Except Rejection (List (Text × Word))
  | [] => .ok []
  | arg :: rest =>
    if arg = doubleDash then .ok ((arg, .separator) :: rest.map (·, .plain))
    else
      match classify g arg with
      | .error e => .error e
      | .ok word => (classifyAll g rest).map ((arg, word) :: ·)

/-! ### Whole argument lists -/

/-- The value of an option. A double dash that is joined to an option takes its value away. -/
inductive Value where
  | text (s : Text)
  | emptied
  deriving DecidableEq, Repr

/-- What an argument list gives: the last value of each option, the positional arguments, and what
belongs to neither. -/
structure Parsed where
  values : Table Text Value
  positionals : List Text
  extras : List Text
  deriving DecidableEq, Repr

/-- The word is neither an option nor anything that looks like one. -/
def isOperand : Text × Word → Bool
  | (_, .plain) => true
  | (_, .separator) => true
  | _ => false

/-- The positional arguments at the head of the words, if they are there, and what follows them. -/
def takePositionals (p : Positional) (words : List (Text × Word)) :
    Option (List Text × List (Text × Word)) :=
  match p with
  | .nothing => none
  | .several =>
    let operands := words.takeWhile isOperand
    let values := operands.filter (·.2 == .plain)
    if values.isEmpty then none else some (values.map (·.1), words.dropWhile isOperand)
  | .command _ =>
    match words.dropWhile (·.2 == .separator) with
    | (_, .plain) :: _ => some (words.map (·.1), [])
    | _ => none

/-- The positional arguments are of the kind that is taken. -/
def accepts (p : Positional) (args : List Text) : Bool :=
  match p with
  | .command names => args.head?.any names.contains
  | _ => true

/-- The value of an option and what follows: the joined one, or else the next argument. -/
def takeValue (joined : Option Text) (rest : List (Text × Word)) :
    Except Rejection (Value × List (Text × Word)) :=
  match joined, rest with
  | some value, rest => .ok (if value = doubleDash then .emptied else .text value, rest)
  | none, (value, .plain) :: rest => .ok (.text value, rest)
  | none, _ => .error .usage

/-- The option takes the value. -/
def Flag.takes (f : Flag) : Value → Bool
  | .text s => f.choices.all (·.contains s)
  | .emptied => true

/-- Reads words in order. Positional arguments are taken once, at the first place where they are
possible; `awaited` is what is still to be taken. -/
def run : Nat → Positional → List (Text × Word) → Parsed → Except Rejection Parsed
  | 0, _, _, _ => .error .usage
  | fuel + 1, awaited, words, parsed =>
    if words.all isOperand then
      match takePositionals awaited words with
      | some (args, rest) =>
        if accepts awaited args then
          .ok { parsed with positionals := args, extras := parsed.extras ++ rest.map (·.1) }
        else .error .usage
      | none =>
        if awaited = .several then .error .usage
        else .ok { parsed with extras := parsed.extras ++ words.map (·.1) }
    else
      match words with
      | [] => .ok parsed
      | (_, .option flag joined) :: rest =>
        match takeValue joined rest with
        | .error e => .error e
        | .ok (value, rest) =>
          if flag.takes value then
            run fuel awaited rest { parsed with values := parsed.values.insert flag.name value }
          else .error .usage
      | (_, .halt why) :: _ => .error why
      | (text, .unknown) :: rest =>
        run fuel awaited rest { parsed with extras := parsed.extras ++ [text] }
      | words =>
        match takePositionals awaited words with
        | some (args, rest) =>
          if accepts awaited args then
            run fuel .nothing rest { parsed with positionals := args }
          else .error .usage
        | none =>
          run fuel awaited (words.dropWhile isOperand)
            { parsed with extras := parsed.extras ++ (words.takeWhile isOperand).map (·.1) }

/-- What an argument list gives. -/
def parse (g : Grammar) (args : List Text) : Except Rejection Parsed :=
  match classifyAll g args with
  | .error e => .error e
  | .ok words => run (words.length + 1) g.positional words ⟨[], [], []⟩

end KernelCalls.Options
