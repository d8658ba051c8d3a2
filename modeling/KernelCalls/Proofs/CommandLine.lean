import KernelCalls.CommandLine
import KernelCalls.Proofs.Action
import KernelCalls.Proofs.Catalog.Reported

namespace KernelCalls.CommandLine

open KernelCalls.Action

/-!
# What the program does with a catalog that it cannot use

All commands begin with the catalog of the settings. If a problem is met in its data, the program
says so and ends with the status of a failure.

* `Configured` : a workspace in which nothing but the settings has changed since the beginning.
* `Command.action` : what a command does, before errors are answered.
* `runOn_action` : every command fails as its catalog does.
* `Reaches` : a run gets as far as its command.
* `problems_reported` : a load of plain data succeeds or reports a problem, which the program
  prints.
-/

/-- Nothing but the settings has changed since the beginning. -/
def Configured (files : Path → FileContent) (w : Workspace) : Prop :=
  w = { Workspace.initial files with settings := w.settings }

/-- When the command begins, settings are all that has changed. -/
theorem configured_initSettings {files : Path → FileContent} {args : List Text} {w : Workspace}
    {r : Except Workspace.Error Unit}
    (h : runOn (initSettings (some args)) (.initial files) = (r, w)) : Configured files w := by
  -- only settings are changed, step by step
  have hkeeps : Keeps (Configured files) (initSettings (some args)) := by
    refine keeps_initSettings (fun w s hw => ?_) _
    rw [Configured] at hw ⊢
    rw [hw]
  have := hkeeps (.initial files) rfl
  rwa [h] at this

/-- What a command does. -/
def Command.action : Command → Action Nat
  | .lookup symbols => lookupSymbols symbols
  | .classify names => classifyNames names
  | .catalog category => listCatalog category
  | .info => showInfo

/-- Every command fails as its catalog does. -/
theorem runOn_action {w w' : Workspace} {e : Workspace.Error}
    (h : runOn defaultCatalog w = (.error e, w')) (command : Command) :
    runOn command.action w = (.error e, w') := by
  -- the catalog comes first in each, at most behind the registry that is made over it
  cases command with
  | lookup symbols => exact runOn_bind_of_error (runOn_bind_of_error h)
  | classify names => exact runOn_bind_of_error (runOn_bind_of_error h)
  | catalog category => exact runOn_bind_of_error h
  | info => exact runOn_bind_of_error h

/-- What is read from a file that can be found is the data of its text. -/
theorem runOn_readCatalogFile {w : Workspace} {path : Path} {text : String} {data : Datum}
    (hrefusal : path.refusal? = none) (hfile : w.files path = .text text)
    (hparse : Yaml.parse text = .ok data) (hgiven : data.truthy = true) :
    runOn (readCatalogFile path) w = (.ok data, w) := by
  rw [readCatalogFile, hrefusal]
  show runOn (get >>= _) w = _
  rw [runOn_bind_of_ok (runOn_get w), hfile]
  show runOn (ofExcept .yaml (Yaml.parse text) >>= _) w = _
  rw [hparse, runOn_bind_of_ok (runOn_ofExcept_ok _ data w), if_pos hgiven, runOn_pure]

/-- A file whose data cannot be loaded does not become a catalog. -/
theorem runOn_openCatalogFile {w : Workspace} {path : Path} {data : Datum} {e : Catalog.LoadError}
    (hread : runOn (readCatalogFile path) w = (.ok data, w))
    (hload : (Catalog.empty.load data path.text).2 = .error e) :
    runOn (openCatalogFile path) w = (.error (.load e), w) := by
  rw [openCatalogFile, runOn_bind_of_ok hread]
  show runOn (ofExcept .load (Catalog.empty.load data path.text).2 >>= fun _ => addCatalog _) w = _
  rw [hload]
  exact runOn_bind_of_error (runOn_ofExcept_error _ e w)

/-- An error in the data of the catalog that is set stops the first use of the catalog. -/
theorem runOn_defaultCatalog {w : Workspace} {path : Path} {data : Datum} {e : Catalog.LoadError}
    (hnone : w.defaultCatalog? = none) (hpath : w.settings.catalogPath = .ok (some path))
    (hread : runOn (readCatalogFile path) w = (.ok data, w))
    (hload : (Catalog.empty.load data path.text).2 = .error e) :
    runOn defaultCatalog w = (.error (.load e), w) := by
  have hopen : runOn openConfiguredCatalog w = (.error (.load e), w) := by
    rw [openConfiguredCatalog, runOn_bind_of_ok (runOn_get w), hpath,
      runOn_bind_of_ok (runOn_ofExcept_ok _ _ w)]
    exact runOn_openCatalogFile hread hload
  rw [defaultCatalog, runOn_bind_of_ok (runOn_get w), hnone]
  exact runOn_bind_of_error hopen

/-- What is printed where the data of the catalog has a problem. -/
def problemLine (path : Path) (p : Catalog.Problem) : Text :=
  "error: failed to load catalog: " ++ (Catalog.LoadError.mk path.text (.problem p)).message

/-- Where the catalog has a problem, every command prints it and fails. -/
theorem runOn_perform {w : Workspace} {path : Path} {p : Catalog.Problem}
    (h : runOn defaultCatalog w = (.error (.load ⟨path.text, .problem p⟩), w))
    (command : Command) :
    runOn (perform command) w =
      (.ok 1, { w with printed := w.printed ++ [problemLine path p] }) := by
  have haction := runOn_action h command
  -- problems of the catalog are what the program answers
  show runOn (tryCatch command.action _) w = _
  rw [runOn_tryCatch, haction]
  rfl

/-- Any other error in the catalog ends the run, with nothing printed. -/
theorem runOn_perform_of_usable {w : Workspace} {e : Workspace.Error}
    (h : runOn defaultCatalog w = (.error e, w)) (he : isUnusableCatalog e = false)
    (command : Command) : runOn (perform command) w = (.error e, w) := by
  have haction := runOn_action h command
  show runOn (tryCatch command.action _) w = _
  rw [runOn_tryCatch, haction]
  dsimp only
  rw [he]
  rfl

/-- A run gets as far as its command, with a file for the catalog in its settings. -/
structure Reaches (files : Path → FileContent) (args : List Text) (command : Command)
    (path : Path) (w : Workspace) : Prop where
  settings : runOn (initSettings (some args)) (.initial files) = (.ok (), w)
  level : runOn checkLevel w = (.ok (), w)
  command : ∃ parsed, readCommand args = .ok (command, parsed)
  path : w.settings.catalogPath = .ok (some path)

/-- The run goes on with its command, before which nothing was printed. -/
theorem Reaches.run_eq {files : Path → FileContent} {args : List Text} {command : Command}
    {path : Path} {w w' : Workspace} {r : Except Workspace.Error Nat}
    (h : Reaches files args command path w) (hperform : runOn (perform command) w = (r, w')) :
    run files args = ⟨r, w'.printed⟩ := by
  obtain ⟨parsed, hparsed⟩ := h.command
  have hprogram : (program args).run (.initial files) = (r, w') := by
    show runOn (program args) (.initial files) = _
    rw [program, runOn_bind_of_ok h.settings, runOn_bind_of_ok h.level, hparsed,
      runOn_bind_of_ok (runOn_ofExcept_ok _ _ w)]
    exact hperform
  rw [run, hprogram]

/-- **Problems are reported.** Data without values that stop a load otherwise is loaded into any
    catalog, or a problem of its source is reported. Where the data of the catalog that is set
    cannot be loaded, every command prints that problem and ends with the status of a failure. -/
theorem problems_reported {data : Datum}
    (h : ∀ pairs, data = .map pairs → Catalog.Plain pairs) :
    (∀ (c : Catalog) source, (c.load data source).2 = .ok () ∨
        ∃ p, (c.load data source).2 = .error ⟨source, .problem p⟩) ∧
      ∀ files args command path w, Reaches files args command path w →
        runOn (readCatalogFile path) w = (.ok data, w) →
        (Catalog.empty.load data path.text).2 ≠ .ok () →
        ∃ p, (Catalog.empty.load data path.text).2 = .error ⟨path.text, .problem p⟩ ∧
          run files args = ⟨.ok 1, [problemLine path p]⟩ := by
  refine ⟨Catalog.load_ok_or_problem h, fun files args command path w hreaches hread hbad => ?_⟩
  obtain hok | ⟨p, hp⟩ := Catalog.load_ok_or_problem h .empty path.text
  · exact absurd hok hbad
  · have hw := configured_initSettings hreaches.settings
    -- the catalog has not been loaded before, as only settings have changed
    have hnone : w.defaultCatalog? = none := by rw [hw]; rfl
    have hprinted : w.printed = [] := by rw [hw]; rfl
    have hcatalog := runOn_defaultCatalog hnone hreaches.path hread hp
    refine ⟨p, hp, ?_⟩
    rw [hreaches.run_eq (runOn_perform hcatalog command), hprinted]
    rfl

/-- The file that the arguments name, with this text, and no other file. -/
def onlyCatalog (text : String) (path : Path) : FileContent :=
  if path = .ofText "k.yaml" then .text text else .refused .missing

/-- The arguments that list the catalog of a file. -/
def listArguments : List Text := ["--catalog", "k.yaml", "catalog"]

/-- The workspace of a run with these files and arguments when its command begins. -/
def beginning (text : String) : Workspace :=
  (runOn (initSettings (some listArguments)) (.initial (onlyCatalog text))).2

/-- A run over these files gets as far as its command. -/
theorem reaches_beginning (text : String) :
    Reaches (onlyCatalog text) listArguments (.catalog none) (.ofText "k.yaml")
      (beginning text) where
  settings := rfl
  level := rfl
  command := ⟨_, rfl⟩
  path := rfl

/-- The command reads the data of that file. -/
theorem runOn_readCatalogFile_beginning {text : String} {data : Datum}
    (hparse : Yaml.parse text = .ok data) (hgiven : data.truthy = true) :
    runOn (readCatalogFile (.ofText "k.yaml")) (beginning text) = (.ok data, beginning text) :=
  runOn_readCatalogFile rfl rfl hparse hgiven

/-- A catalog with a record that says nothing. -/
def emptyRecord : Datum := .map [(.text "builtins", .map [(.text "foo", .map [])])]

/-- No value in it stops a load otherwise. -/
theorem plain_emptyRecord (pairs : List (Key × Datum)) (h : emptyRecord = .map pairs) :
    Catalog.Plain pairs := by
  cases h
  constructor
  case writable =>
    have hnothing : (Datum.map []).Writable := Datum.writable_map (by simp)
    have hrecord : (Datum.map [(.text "foo", .map [])]).Writable :=
      Datum.writable_map (by simp [Datum.writable_text, Key.toDatum, hnothing])
    exact Datum.writable_map (by simp [Datum.writable_text, Key.toDatum, hrecord])
  case widths =>
    intro families tokens h
    cases h
  case listed =>
    intro records h p hp name hname d hd
    cases h
    rw [List.mem_singleton.mp hp] at hd
    cases hd

/-- A record without a category is reported and printed. -/
theorem problems_reported_emptyRecord :
    (∃ p, (Catalog.empty.load emptyRecord Catalog.dataSource).2 =
        .error ⟨Catalog.dataSource, .problem p⟩) ∧
      run (onlyCatalog "builtins: \x7bfoo: \x7b\x7d\x7d") listArguments =
        ⟨.ok 1, ["error: failed to load catalog: k.yaml: foo: missing category"]⟩ := by
  obtain ⟨hload, hruns⟩ := problems_reported plain_emptyRecord
  refine ⟨(hload .empty Catalog.dataSource).resolve_left (by decide +kernel), ?_⟩
  have htokens : Yaml.tokens "builtins: \x7bfoo: \x7b\x7d\x7d" =
      ⟨[.mappingStart, .key, .plain "builtins".toList, .value, .mapOpen, .key,
        .plain "foo".toList, .value, .mapOpen, .mapClose, .mapClose, .blockEnd], none⟩ := by
    decide +kernel
  have hparse : Yaml.parse "builtins: \x7bfoo: \x7b\x7d\x7d" = .ok emptyRecord := by
    rw [Yaml.parse, htokens]
    rfl
  have hread := runOn_readCatalogFile_beginning hparse rfl
  obtain ⟨p, hp, hrun⟩ := hruns _ _ _ _ _ (reaches_beginning _) hread (by decide +kernel)
  cases hp
  exact hrun

/-- A catalog with a record whose aliases are a number. -/
def numberAliases : Datum :=
  let record := Datum.map [(.text "category", .text "MATH"), (.text "aliases", .int 5)]
  .map [(.text "builtins", .map [(.text "foo", record)])]

/-- A catalog with a list for the lanes of a width. -/
def listWidth : Datum :=
  .map [(.text "suffixes", .map [(.text "width", .map [(.text "2", .list [.int 1])])])]

/-- Neither is reported as a problem, and the program ends with the error itself. -/
theorem not_reported_numberAliases :
    (Catalog.empty.load numberAliases Catalog.dataSource).2 =
        .error ⟨Catalog.dataSource, .notIterable ⟨"int"⟩⟩ ∧
      (Catalog.empty.load listWidth Catalog.dataSource).2 =
        .error ⟨Catalog.dataSource, .number (.wrongKind "list")⟩ ∧
      run (onlyCatalog "builtins: \x7bfoo: \x7bcategory: MATH, aliases: 5\x7d\x7d") listArguments =
        ⟨.error (.load ⟨"k.yaml", .notIterable ⟨"int"⟩⟩), []⟩ := by
  refine ⟨by decide +kernel, by decide +kernel, ?_⟩
  have htokens : Yaml.tokens "builtins: \x7bfoo: \x7bcategory: MATH, aliases: 5\x7d\x7d" =
      ⟨[.mappingStart, .key, .plain "builtins".toList, .value, .mapOpen, .key,
        .plain "foo".toList, .value, .mapOpen, .key, .plain "category".toList, .value,
        .plain "MATH".toList, .comma, .key, .plain "aliases".toList, .value, .plain "5".toList,
        .mapClose, .mapClose, .blockEnd], none⟩ := by
    decide +kernel
  have hparse : Yaml.parse "builtins: \x7bfoo: \x7bcategory: MATH, aliases: 5\x7d\x7d" =
      .ok numberAliases := by
    rw [Yaml.parse, htokens]
    rfl
  have hread := runOn_readCatalogFile_beginning hparse rfl
  have hcatalog := runOn_defaultCatalog (e := ⟨"k.yaml", .notIterable ⟨"int"⟩⟩) rfl rfl hread
    (by decide +kernel)
  exact (reaches_beginning _).run_eq (runOn_perform_of_usable hcatalog rfl (.catalog none))

end KernelCalls.CommandLine
