import KernelCalls.Catalog.Bundled
import KernelCalls.Catalog.Load
import KernelCalls.Predicates
import KernelCalls.Registry.Concurrent
import KernelCalls.Registry.Pool
import KernelCalls.Settings
import KernelCalls.Yaml.Read

namespace KernelCalls

/-!
# Workspaces

Everything that a process keeps: its settings, the catalogs that were made, the registries over
them, and what it printed. Catalogs and registries are known by number, so that one that is changed
is changed for all who hold it.

* `Callee`, `Callee.toSymbol` : what a call is looked up by, and the symbol that it stands for
* `Workspace` : the state
* `Workspace.Error` : all ways in which an action can fail
* `Action` : a step on the state, which may fail; what it did before failing stays
-/

/-! ### Callees -/

/-- What a call is looked up by. A function object may have a name, which may be any value. -/
inductive Callee where
  | symbol (text : Text)
  | function (name : Option Datum)
  | other (value : Datum)
  deriving Repr

namespace Callee

/-- The value stands for no symbol. -/
structure NoSymbol where
  kind : String
  deriving DecidableEq, Repr

/-- The text that reports the error. -/
def NoSymbol.message (e : NoSymbol) : String :=
  "cannot get a symbol name from " ++ e.kind

/-- What a kind of function object is called in messages. -/
def functionKind : String := "Function"

/-- The symbol that a value stands for. -/
def toSymbol : Callee → Except NoSymbol Text
  | .symbol text => .ok text
  | .function (some (.text name)) => .ok name
  | .function _ => .error ⟨functionKind⟩
  | .other value => .error ⟨value.kindName⟩

end Callee

/-! ### The state -/

/-- Everything that a process keeps. -/
structure Workspace where
  settings : Settings
  /-- What is found at each path. -/
  files : Path → FileContent
  catalogs : List Catalog
  /-- The catalog of the settings, once it was asked for. -/
  defaultCatalog? : Option Nat
  pool : Pool
  /-- The lines printed so far. -/
  printed : List Text

namespace Workspace

/-- A process that has just begun. -/
def initial (files : Path → FileContent) : Workspace := ⟨.initial, files, [], none, .empty, []⟩

/-- All ways in which an action can fail. -/
inductive Error where
  | decode (f : Mangling.Failure)
  | lookup (f : LookupFailure)
  | fault (f : Fault)
  | registry (e : Registry.LookupError)
  | callee (e : Callee.NoSymbol)
  | parameter (e : CallInfo.ParameterError)
  | name (e : UnknownName)
  | load (e : Catalog.LoadError)
  | file (e : FileError)
  | path (r : Path.Refusal)
  | yaml (e : Yaml.Error)
  | notAPath (e : Settings.NotAPath)
  | widths (e : Settings.WidthsError)
  | number (e : Text.NumberError)
  | arguments (r : Options.Rejection)
  /-- The log level is not known. -/
  | level (name : Text)
  /-- A tail is asked about for a stem that has no entry. -/
  | noEntry
  /-- The option that names a category was emptied. -/
  | noCategory
  deriving Repr

/-- The text that reports the error. -/
def Error.message : Error → Text
  | .decode f => f.message
  | .lookup f => f.message
  | .fault f => f.message
  | .registry e => e.message
  | .callee e => e.message
  | .parameter e => e.message
  | .name e => e.message
  | .load e => e.message
  | .file e => e.message
  | .path r => r.message
  | .yaml e => e.message
  | .notAPath e => e.message
  | .widths e => e.message
  | .number e => e.message
  | .arguments .usage => "2"
  | .arguments .help => "0"
  | .level unknown => "Unknown level: " ++ Text.quote (Settings.Level.otherText unknown)
  | .noEntry => "'NoneType' object has no attribute 'suffixes'"
  | .noCategory => "'list' object has no attribute 'upper'"

end Workspace

/-- A step on a workspace. What it did before failing stays done. -/
abbrev Action := ExceptT Workspace.Error (StateM Workspace)

namespace Action

open Workspace

/-- The value of a result, or its failure. -/
def ofExcept {α ε : Type} (wrap : ε → Error) : Except ε α → Action α
  | .ok a => pure a
  | .error e => throw (wrap e)

/-- The vector widths that the settings accept. -/
def settingsWidths : Action (List Int) := do
  ofExcept .widths (← get).settings.widths

/-- The vector widths that are given, or else those of the settings. -/
def widthsOr (widths? : Option (List Int)) : Action (List Int) :=
  match widths? with
  | some widths => pure widths
  | none => settingsWidths

/-- Prints a line. -/
def print (line : Text) : Action Unit :=
  modify fun w => { w with printed := w.printed ++ [line] }

/-! ### Catalogs -/

/-- The catalog with a number. -/
def catalog (id : Nat) : Action Catalog := do
  return ((← get).catalogs[id]?).getD .empty

/-- Adds a catalog. -/
def addCatalog (c : Catalog) : Action Nat := do
  let w ← get
  set { w with catalogs := w.catalogs ++ [c] }
  return w.catalogs.length

/-- Puts a catalog in the place of the one with a number. -/
def setCatalog (id : Nat) (c : Catalog) : Action Unit :=
  modify fun w => { w with catalogs := w.catalogs.set id c }

/-- Adds the contents of a data value to a catalog. -/
def loadData (id : Nat) (data : Datum) (source : Text) : Action Unit := do
  let (c, result) := (← catalog id).load data source
  setCatalog id c
  ofExcept .load result

/-- The data value of a catalog file. One that holds nothing stands for an empty mapping. -/
def readCatalogFile (path : Path) : Action Datum := do
  if let some r := path.refusal? then throw (.path r)
  match (← get).files path with
  | .refused why => throw (.file ⟨path.text, why⟩)
  | .text s =>
    let d ← ofExcept .yaml (Yaml.parse s)
    return if d.truthy then d else .map []

/-- Adds the contents of a file to a catalog. -/
def loadCatalogFile (id : Nat) (path : Path) : Action Unit := do
  let data ← readCatalogFile path
  loadData id data path.text

/-- A new catalog with the contents of a file. -/
def openCatalogFile (path : Path) : Action Nat := do
  let data ← readCatalogFile path
  let (c, result) := Catalog.empty.load data path.text
  ofExcept .load result
  addCatalog c

/-- A new catalog as the settings name it. -/
def openConfiguredCatalog : Action Nat := do
  match ← ofExcept .notAPath (← get).settings.catalogPath with
  | none => addCatalog .bundled
  | some path => openCatalogFile path

/-- The catalog as the settings named it when it was first asked for. -/
def defaultCatalog : Action Nat := do
  match (← get).defaultCatalog? with
  | some id => return id
  | none =>
    let id ← openConfiguredCatalog
    modify fun w => { w with defaultCatalog? := some id }
    return id

/-- The catalog that is given, or else the default one. -/
def catalogOr (id? : Option Nat) : Action Nat :=
  match id? with
  | some id => pure id
  | none => defaultCatalog

/-- The stems of the category that a name spells. -/
def stemsOf (id : Nat) (name : Text) : Action (List Text) := do
  let category ← ofExcept .name (Named.ofName Category name)
  return (← catalog id).stemsOf category

/-! ### Matching -/

/-- A matcher of a catalog as it is now, with the number of the catalog. -/
def newMatcher (id? : Option Nat) : Action (Matcher × Nat) := do
  let id ← catalogOr id?
  return (.ofCatalog (← catalog id), id)

/-- The match of a name. -/
def classify (m : Matcher × Nat) (name : Text) : Action Match := do
  match m.1.classify (← catalog m.2) name with
  | some found => return found
  | none => throw (.lookup (.miss name))

/-- The tokens that make up a tail behind a stem. -/
def readTail (m : Matcher × Nat) (stem tail : Text) :
    Action (Option (List SuffixToken)) := do
  match (← catalog m.2).get? stem with
  | some entry => return m.1.readTail entry tail
  | none => throw .noEntry

/-- The name and parameters of a symbol. -/
def decode (symbol : Text) (widths? : Option (List Int)) : Action Mangling.Decoded := do
  let widths ← widthsOr widths?
  match Mangling.decode symbol widths with
  | .ok d => return d
  | .error (.failed f) => throw (.decode f)
  | .error (.fault f) => throw (.fault f)

/-- The description of a decoded symbol whose name was matched. -/
def assemble (d : Mangling.Decoded) (found : Match) (widths? : Option (List Int)) :
    Action CallInfo := do
  let widths ← widthsOr widths?
  match KernelCalls.assemble d found widths with
  | .ok info => return info
  | .error (.failure f) => throw (.lookup f)
  | .error (.fault f) => throw (.fault f)

/-! ### Registries -/

/-- A fresh registry, not yet one of the workspace. -/
def freshRegistry (id? : Option Nat) (widths? : Option (List Int)) : Action Registry := do
  let id ← catalogOr id?
  let c ← catalog id
  let widths ← widthsOr widths?
  return .ofCatalog id c widths

/-- Adds a registry. -/
def addRegistry (r : Registry) : Action Nat := do
  let w ← get
  let (id, pool) := w.pool.add r
  set { w with pool }
  return id

/-- The registry with a number. -/
def registry (id : Nat) : Action Registry := do
  match (← get).pool.get? id with
  | some r => return r
  | none => throw (.registry .closed)

/-- Puts a registry in the place of the one with a number. -/
def setRegistry (id : Nat) (r : Registry) : Action Unit :=
  modify fun w => { w with pool := w.pool.modify id fun _ => r }

/-- The pipeline of a registry over the present state of its catalog. -/
def pipelineOf (r : Registry) : Action Build := do
  return r.pipeline (← catalog r.catalog)

/-- The description of a symbol in a registry. -/
def lookupSymbol (id : Nat) (symbol : Text) : Action CallInfo := do
  let r ← registry id
  let (result, r) := r.lookup (← pipelineOf r) symbol
  setRegistry id r
  ofExcept .registry result

/-- The symbol that a callee stands for. -/
def toSymbol (callee : Callee) : Action Text := ofExcept .callee callee.toSymbol

/-- The description of a callee in a registry. -/
def lookup (id : Nat) (callee : Callee) : Action CallInfo := do
  lookupSymbol id (← toSymbol callee)

/-- Both callees have one shared description. -/
def sharesInfo (id : Nat) (a b : Callee) : Action Bool := do
  let infoA ← lookup id a
  let infoB ← lookup id b
  return Registry.shared (← toSymbol a, infoA) (← toSymbol b, infoB)

/-- Why a callee that was looked up is no recognised call. -/
def failure? (id : Nat) (callee : Callee) : Action (Option LookupFailure) := do
  let symbol ← toSymbol callee
  return (← registry id).failure? symbol

/-- Runs the pipeline of a registry without keeping the result. -/
def build (id : Nat) (symbol : Text) : Action (CallInfo × Option LookupFailure) := do
  let r ← registry id
  setRegistry id r.startBuild
  ofExcept .fault ((← pipelineOf r) symbol)

/-- Looks symbols up all at once. -/
def lookupTogether (id : Nat) (symbols : List Text) (threads : Nat) :
    Action (List (Except Registry.LookupError CallInfo)) := do
  let r ← registry id
  let (results, r) := r.lookupTogether (← pipelineOf r) symbols threads
  setRegistry id r
  return results

/-- Closes a registry. -/
def close (id : Nat) : Action Unit :=
  modify fun w => { w with pool := w.pool.close id }

/-- Closes a registry after an action on it, whether that fails or not. -/
def closing {α : Type} (id : Nat) (action : Action α) : Action α :=
  tryFinally action (close id)

/-- The number of the default registry, which is made if there is none. -/
def defaultRegistry : Action Nat := do
  match (← get).pool.default? with
  | some id => return id
  | none =>
    let fresh ← freshRegistry none none
    let w ← get
    let (id, pool) := w.pool.default fresh
    set { w with pool }
    return id

/-- Closes the default registry and installs another, or none until one is asked for. -/
def resetDefault (id? : Option Nat) : Action Unit :=
  modify fun w => { w with pool := w.pool.reset id? }

/-- The registry that is given, or else the default one. -/
def registryOr (id? : Option Nat) : Action Nat :=
  match id? with
  | some id => pure id
  | none => defaultRegistry

/-- The answer to a question about a callee. -/
def holds (p : ImagePredicate) (id? : Option Nat) (callee : Callee) : Action Bool := do
  let id ← registryOr id?
  return p.holds (← lookup id callee)

/-! ### Settings and files -/

/-- From now on files are found in a tree. -/
def mount (t : FileTree) : Action Unit := modify fun w => { w with files := t.find }

/-- Changes the settings. -/
def changeSettings (f : Settings → Settings) : Action Unit :=
  modify fun w => { w with settings := f w.settings }

/-- Back to the built-in settings. -/
def resetSettings : Action Unit := changeSettings fun _ => .initial

/-- What is found where there may be a settings file. A name that is too long is an error. -/
def settingsFile (path : Path) : Action FileContent := do
  match (← get).files path with
  | .refused .nameTooLong => throw (.file ⟨path.text, .nameTooLong⟩)
  | content => return content

/-- Takes over a settings file, and whether there was one to take over. -/
def loadSettings (path : Path) : Action Bool := do
  let content ← settingsFile path
  let w ← get
  let (settings, loaded) ← ofExcept .notAPath (w.settings.loadFile path content)
  set { w with settings }
  return loaded

/-- Takes over what the command line says of settings. -/
def applyArguments (args : List Text) : Action Unit := do
  let arguments ← ofExcept .arguments (Settings.readArguments args)
  if let some name := arguments.config then
    discard (settingsFile (.ofText name))
  let w ← get
  let settings ← ofExcept .notAPath (w.settings.applyArguments arguments w.files)
  set { w with settings }

/-- Takes over the bundled settings, and then what the command line says, if there is one. -/
def initSettings (args? : Option (List Text)) : Action Unit := do
  changeSettings Settings.loadBundled
  match args? with
  | some args => applyArguments args
  | none => pure ()

end Action

end KernelCalls
