import KernelCalls.Workspace

namespace KernelCalls.CommandLine

/-!
# The command line

Looking symbols up, matching names, and listing the catalog from the command line.

* `Command`, `readCommand` : what is asked for
* `perform` : does it, printing line by line
* `run` : a whole run of the program
* `settingsPath?`, `catalogPath?` : the files that a run reads
-/

/-- What is asked for. -/
inductive Command where
  | lookup (symbols : List Text)
  | classify (names : List Text)
  | catalog (category : Option Options.Value)
  | info
  deriving DecidableEq, Repr

/-! ### Arguments -/

/-- The name of the command that looks symbols up. -/
def lookupName : Text := "lookup"

/-- The name of the command that matches names. -/
def classifyName : Text := "classify"

/-- The name of the command that lists the catalog. -/
def catalogName : Text := "catalog"

/-- The name of the command that shows the settings. -/
def infoName : Text := "info"

/-- The options of the program and its commands. -/
def grammar : Options.Grammar :=
  ⟨Settings.flags, true, .command [lookupName, classifyName, catalogName, infoName]⟩

/-- The arguments of the commands that take one or more of something. -/
def severalGrammar : Options.Grammar := ⟨[], true, .several⟩

/-- The option that narrows the catalog to a category. -/
def categoryOption : Options.Flag := ⟨"--category", none⟩

/-- The arguments of the command that lists the catalog. -/
def catalogGrammar : Options.Grammar := ⟨[categoryOption], true, .nothing⟩

/-- The arguments of the command that shows the settings. -/
def infoGrammar : Options.Grammar := ⟨[], true, .nothing⟩

/-- The arguments of a command. -/
def commandGrammar (name : Text) : Options.Grammar :=
  if name = lookupName ∨ name = classifyName then severalGrammar
  else if name = catalogName then catalogGrammar
  else infoGrammar

/-- The command of a name with its arguments. -/
def commandOf (name : Text) (p : Options.Parsed) : Command :=
  if name = lookupName then .lookup p.positionals
  else if name = classifyName then .classify p.positionals
  else if name = catalogName then .catalog (p.values.find? categoryOption.name)
  else .info

/-- What an argument list asks for, with what it gives for the options of the program. Nothing may
be left over. -/
def readCommand (args : List Text) : Except Options.Rejection (Command × Options.Parsed) := do
  let p ← Options.parse grammar args
  let (command, extras) ← match p.positionals with
    | [] => pure (Command.info, [])
    | name :: rest => do
      let q ← Options.parse (commandGrammar name) rest
      pure (commandOf name q, q.extras)
  if p.extras.isEmpty && extras.isEmpty then return (command, p) else throw .usage

/-! ### Commands -/

open KernelCalls.Action

/-- Prints the description of every symbol. -/
def lookupSymbols (symbols : List Text) : Action Nat := do
  let id ← addRegistry (← freshRegistry none none)
  closing id do
    symbols.forM fun symbol => do
      let info ← lookupSymbol id symbol
      if info.isValid then
        print (symbol ++ ": " ++ (← ofExcept .number info.text))
      else
        let why := ((← registry id).failure? symbol).elim (Text.ofString "None")
          LookupFailure.message
        print (symbol ++ ": not a builtin (" ++ why ++ ")")
  return 0

/-- Prints the match of every name; the status says whether all have one. -/
def classifyNames (names : List Text) : Action Nat := do
  let (m, id) ← newMatcher none
  let c ← catalog id
  let found := names.map fun name => (name, m.classify c name)
  found.forM fun f => print (f.1 ++ ": " ++ f.2.elim (Text.ofString "no catalog entry") Match.text)
  return if found.all (·.2.isSome) then 0 else 1

/-- Prints the entries of the catalog, all or those of a category. -/
def listCatalog (category : Option Options.Value) : Action Nat := do
  let c ← catalog (← defaultCatalog)
  match category with
  | none =>
    c.sortedEntries.forM fun e => print e.text
    return 0
  | some .emptied => throw .noCategory
  | some (.text name) =>
    match Named.ofName Category name with
    | .error e =>
      print ("error: " ++ e.message)
      return 1
    | .ok wanted =>
      ((c.stemsOf wanted).filterMap c.get?).forM fun e => print e.text
      return 0

/-- What the bundled catalog is called in place of a path. -/
def bundledName : Text := "<bundled>"

/-- The version of the program. -/
def version : String := "0.1.0"

/-- Prints version and settings. -/
def showInfo : Action Nat := do
  let c ← catalog (← defaultCatalog)
  let s := (← get).settings
  print "clbuiltins - OpenCL C builtin recognition"
  print (String.ofList (List.replicate 50 '='))
  print ("version: " ++ version)
  let path := (← ofExcept .notAPath s.catalogPath).elim bundledName Path.text
  let catalogVersion := c.version.getD "None"
  print ("catalog: " ++ path ++ " (version " ++ catalogVersion ++ s!", {c.size} stems)")
  let widths ← ofExcept .number ((← settingsWidths).mapM Text.writeInt)
  print ("vector widths: " ++ ", ".intercalate widths)
  print ("log level: " ++ (← ofExcept .number s.logLevel))
  return 0

/-- The error is that the catalog cannot be used, as a file or by what is in it. -/
def isUnusableCatalog : Workspace.Error → Bool
  | .load ⟨_, .problem _⟩ => true
  | .file _ => true
  | _ => false

/-- Does what is asked for and gives the status. -/
def perform (command : Command) : Action Nat :=
  tryCatch
    (match command with
      | .lookup symbols => lookupSymbols symbols
      | .classify names => classifyNames names
      | .catalog category => listCatalog category
      | .info => showInfo)
    fun e => do
      if isUnusableCatalog e then
        print ("error: failed to load catalog: " ++ e.message)
        return 1
      else throw e

/-- Accepts the log levels that are known. -/
def checkLevel : Action Unit := do
  match ← ofExcept .number (← get).settings.level with
  | .known _ => pure ()
  | .other name => throw (.level name)

/-- The whole program: settings first, then the command. -/
def program (args : List Text) : Action Nat := do
  initSettings (some args)
  checkLevel
  let (command, _) ← ofExcept .arguments (readCommand args)
  perform command

/-- How a run ends, and what it printed before. -/
structure Outcome where
  result : Except Workspace.Error Nat
  printed : List Text

/-- A whole run over the given files. -/
def run (files : Path → FileContent) (args : List Text) : Outcome :=
  let (result, w) := (program args).run (.initial files)
  ⟨result, w.printed⟩

/-! ### The files of a run -/

/-- The settings file that the arguments name. -/
def settingsPath? (args : List Text) : Option Path :=
  (Settings.readArguments args).toOption.bind fun a => a.config.map Path.ofText

/-- The catalog file of the settings that the arguments and the settings file give. -/
def catalogPath? (args : List Text) (content : FileContent) : Option Path := do
  let arguments ← (Settings.readArguments args).toOption
  let settings ← (Settings.initial.applyArguments arguments fun _ => content).toOption
  settings.catalogPath.toOption.join

/-- The forms in which the program is called. -/
def usage : List String :=
  ["clbuiltins [--config FILE] [--catalog FILE] [--log-level LEVEL] [command]", "",
   "commands:",
   "  lookup SYMBOL...              describe symbols",
   "  classify NAME...              match base names against the catalog",
   "  catalog [--category NAME]     list the catalog",
   "  info                          show version and settings"]

end KernelCalls.CommandLine
