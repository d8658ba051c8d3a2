import KernelCalls.Files
import KernelCalls.Json5
import KernelCalls.Options
import KernelCalls.Text.Upper
import KernelCalls.TypeInfo

namespace KernelCalls

/-!
# Settings

The settings of a process, in layers: values from the command line, over values that were set or
read from files, over built-in ones.

* `Settings`, `Settings.get` : the layers, and the value that counts
* `Settings.merge`, `loadFile`, `applyArguments` : the ways in which values come in
* `Settings.catalogPath`, `logLevel`, `widths` : the settings that the program asks for
-/

/-- The settings of a process. -/
structure Settings where
  /-- Values that are built in, were set, or come from files. -/
  values : Table Text Datum
  /-- Values from the command line. -/
  overrides : Table Text Text
  deriving Repr

namespace Settings

/-- The names of the settings that the program asks for. -/
def catalogKey : Text := "catalog"

/-- The name of the log level. -/
def logLevelKey : Text := "log_level"

/-- The name of the accepted vector widths. -/
def widthsKey : Text := "vector_widths"

/-- The built-in values: the bundled catalog, warnings, and the standard widths. -/
def builtinValues : Table Text Datum :=
  [(catalogKey, .text []), (logLevelKey, .text "WARNING"),
   (widthsKey, .list (TypeName.standardWidths.map .int))]

/-- The built-in settings. -/
def initial : Settings := ⟨builtinValues, []⟩

/-- The value that counts. -/
def get (s : Settings) (key : Text) : Option Datum :=
  match s.overrides.find? key with
  | some text => some (.text text)
  | none => s.values.find? key

/-- Sets a value below those of the command line. -/
def set (s : Settings) (key : Text) (value : Datum) : Settings :=
  { s with values := s.values.insert key value }

/-- A value that should be a path is of another kind. -/
structure NotAPath where
  kind : String
  deriving DecidableEq, Repr

/-- The text that reports the error. -/
def NotAPath.message (e : NotAPath) : String :=
  "expected str, bytes or os.PathLike object, not " ++ e.kind

/-! ### Files -/

/-- The members of a settings file as the settings take them: a catalog path that is given is seen
from the directory of the file. -/
def resolveCatalog (directory : Path) (members : Table Text Datum) :
    Except NotAPath (Table Text Datum) :=
  match (members.find? catalogKey).filter Datum.truthy with
  | none => .ok members
  | some (.text path) =>
    if (Path.ofText path).isAbsolute then .ok members
    else .ok (members.insert catalogKey (.text (directory.join (.ofText path)).text))
  | some d => .error ⟨d.kindName⟩

/-- Takes over the members of a settings file. -/
def merge (s : Settings) (directory : Path) (members : Table Text Datum) :
    Except NotAPath Settings :=
  (resolveCatalog directory members).map fun members =>
    { s with values := Table.insertAll s.values members }

/-- The members of an object. -/
def membersOf (pairs : List (Key × Datum)) : Table Text Datum :=
  pairs.filterMap fun
    | (.text name, d) => some (name, d)
    | _ => none

/-- The members of a settings file, if it holds an object. -/
def readMembers : FileContent → Option (Table Text Datum)
  | .text s =>
    match Json5.parse s with
    | some (.map pairs) => some (membersOf pairs)
    | _ => none
  | .refused _ => none

/-- Takes over a settings file, and whether there was one to take over. -/
def loadFile (s : Settings) (path : Path) (content : FileContent) :
    Except NotAPath (Settings × Bool) :=
  match readMembers content with
  | none => .ok (s, false)
  | some members => (s.merge path.directory members).map (·, true)

/-- Takes over the settings that come with the program, which are the built-in ones. -/
def loadBundled (s : Settings) : Settings :=
  { s with values := Table.insertAll s.values builtinValues }

/-! ### The command line -/

/-- The log levels that may be asked for on the command line. -/
def levelChoices : List Text := ["DEBUG", "INFO", "WARNING", "ERROR"]

/-- The option that names a settings file. -/
def configOption : Options.Flag := ⟨"--config", none⟩

/-- The option that names a catalog. -/
def catalogOption : Options.Flag := ⟨"--catalog", none⟩

/-- The option that names a log level. -/
def logLevelOption : Options.Flag := ⟨"--log-level", some levelChoices⟩

/-- The options of settings. -/
def flags : List Options.Flag := [configOption, catalogOption, logLevelOption]

/-- The options of settings among any other arguments. -/
def grammar : Options.Grammar := ⟨flags, false, .nothing⟩

/-- What the command line says of settings; an empty text or an emptied option says nothing. -/
structure Arguments where
  config : Option Text
  catalog : Option Text
  logLevel : Option Text
  deriving DecidableEq, Repr

/-- What options say of settings. -/
def Arguments.ofParsed (p : Options.Parsed) : Arguments :=
  let value := fun f : Options.Flag =>
    match p.values.find? f.name with
    | some (.text t) => if t.isEmpty then none else some t
    | _ => none
  ⟨value configOption, value catalogOption, value logLevelOption⟩

/-- What an argument list says of settings. Arguments that are not about settings are passed
over. -/
def readArguments (args : List Text) : Except Options.Rejection Arguments :=
  (Options.parse grammar args).map .ofParsed

/-- The values of the command line, over those that were there. -/
def override (s : Settings) (a : Arguments) : Settings :=
  let put := fun (key : Text) (value : Option Text) (t : Table Text Text) =>
    match value with
    | some v => t.insert key v
    | none => t
  { s with overrides := put logLevelKey a.logLevel (put catalogKey a.catalog s.overrides) }

/-- Takes over the settings file that the command line names, with what is found there, and then the
values of the command line. -/
def applyArguments (s : Settings) (a : Arguments) (find : Path → FileContent) :
    Except NotAPath Settings :=
  match a.config with
  | none => .ok (s.override a)
  | some name =>
    let path := Path.ofText name
    (s.loadFile path (find path)).map fun r => r.1.override a

/-! ### What the program asks for -/

/-- The catalog as it is set, empty for the bundled one. -/
def catalog (s : Settings) : Datum :=
  ((s.get catalogKey).filter Datum.truthy).getD (.text [])

/-- The file of the catalog, if it is not the bundled one. -/
def catalogPath (s : Settings) : Except NotAPath (Option Path) :=
  match s.catalog with
  | .text [] => .ok none
  | .text path => .ok (some (.ofText path))
  | d => .error ⟨d.kindName⟩

/-- The name of the log level in capitals. -/
def logLevel (s : Settings) : Except Text.NumberError Text :=
  ((s.get logLevelKey).getD .null).bare.map Text.upper

/-- A log level: a known one by number, any other by its name. -/
inductive Level where
  | known (n : Nat)
  | other (name : Text)
  deriving DecidableEq, Repr

/-- What a log level without a number is called. -/
def Level.otherText (name : Text) : Text := "Level " ++ name

/-- The names of the known levels. -/
def knownLevels : Table Text Nat :=
  [("CRITICAL", 50), ("FATAL", 50), ("ERROR", 40), ("WARN", 30), ("WARNING", 30), ("INFO", 20),
   ("DEBUG", 10), ("NOTSET", 0)]

/-- The level of a name. -/
def levelOf (name : Text) : Level :=
  match knownLevels.find? name with
  | some n => .known n
  | none => .other name

/-- The log level. -/
def level (s : Settings) : Except Text.NumberError Level := s.logLevel.map levelOf

/-- Why the accepted widths are not a list of numbers. -/
inductive WidthsError where
  | notIterable (e : Datum.NotIterable)
  | number (e : Text.NumberError)
  deriving DecidableEq, Repr

/-- The text that reports the error. -/
def WidthsError.message : WidthsError → String
  | .notIterable e => e.message
  | .number e => e.message

/-- The accepted vector widths. -/
def widths (s : Settings) : Except WidthsError (List Int) := do
  let items ← ((s.get widthsKey).getD .null).elements.mapError .notIterable
  (items.mapM Datum.toInt).mapError .number

end Settings

end KernelCalls
