import KernelCalls.Proofs.Action
import KernelCalls.Proofs.Json5
import KernelCalls.Proofs.Outcome

namespace KernelCalls.Settings

open KernelCalls.Action Table

/-!
# Which value of a setting counts

A value of the command line is over one that was set or read from a file, and either is over the
built-in one, in whatever order the calls come.  What is set while the command line has a value is
kept below it, and a reset drops both.  A call that fails leaves everything as it was.

* `Call`, `Event` : a call, and one that was made, with the files of that time and its result.
* `Event.value?`, `Event.override?` : what a call says of a setting.
* `History` : the calls that were made so far lead to a workspace.
* `Call.Ends`, `ends_perform` : a call fails and leaves everything as it is, or puts what it says in
  front of what was found before.
* `Reads`, `History.reads` : what is found is what was said last.
* `History.get_eq_and_remove` : the value that counts, and calls without those that failed.
-/

/-! ### Calls -/

/-- A call that may change settings. -/
inductive Call where
  | set (key : Text) (value : Datum)
  | loadFile (path : Path)
  | loadBundled
  | parseArguments (args : List Text)
  | reset

/-- What a call does, and whether it had something to take over. -/
def Call.perform : Call → Action Bool
  | .set key value => do
    changeSettings (·.set key value)
    return true
  | .loadFile path => loadSettings path
  | .loadBundled => do
    changeSettings Settings.loadBundled
    return true
  | .parseArguments args => do
    Action.applyArguments args
    return true
  | .reset => do
    resetSettings
    return true

/-- A call that was made, over the files that were found then, with its result. -/
structure Event where
  call : Call
  files : Path → FileContent
  result : Except Workspace.Error Bool

/-- The call did not fail: it raised nothing, and it had something to take over. -/
def Event.isDone (e : Event) : Bool :=
  match e.result with
  | .ok done => done
  | .error _ => false

/-- The call is a reset. -/
def Event.isReset (e : Event) : Bool :=
  match e.call with
  | .reset => true
  | _ => false

/-! ### What calls say of a setting -/

/-- A value of a settings file as it is taken over: a catalog path that is relative and not empty is
    seen from the directory of the file. -/
def seenFrom (directory : Path) (key : Text) (value : Datum) : Datum :=
  match value with
  | .text path =>
    if key = catalogKey ∧ path ≠ [] ∧ (Path.ofText path).isAbsolute = false then
      .text (directory.join (.ofText path)).text
    else value
  | _ => value

/-- What a settings file says of a setting. -/
def fileValue? (path : Path) (content : FileContent) (key : Text) : Option Datum :=
  (readMembers content).bind fun members =>
    (members.find? key).map (seenFrom path.directory key)

/-- The text that arguments give for an option, unless it is empty. -/
def option? (flag : Options.Flag) (args : List Text) : Option Text :=
  (Options.parse grammar args).toOption.bind fun parsed =>
    match parsed.values.find? flag.name with
    | some (.text t) => if t = [] then none else some t
    | _ => none

/-- What a call says of a setting below the command line. -/
def Call.value? (files : Path → FileContent) (key : Text) : Call → Option Datum
  | .set key' value => if key' = key then some value else none
  | .loadFile path => fileValue? path (files path) key
  | .loadBundled => builtinValues.find? key
  | .parseArguments args => (option? configOption args).bind fun name =>
    fileValue? (.ofText name) (files (.ofText name)) key
  | .reset => none

/-- What the command line of a call says of a setting. -/
def Call.override? (key : Text) : Call → Option Text
  | .parseArguments args =>
    if key = catalogKey then option? catalogOption args
    else if key = logLevelKey then option? logLevelOption args
    else none
  | _ => none

/-- What a call that did not fail said of a setting below the command line. -/
def Event.value? (key : Text) (e : Event) : Option Datum :=
  if e.isDone then e.call.value? e.files key else none

/-- What the command line of a call that did not fail said of a setting. -/
def Event.override? (key : Text) (e : Event) : Option Text :=
  if e.isDone then e.call.override? key else none

/-- The calls after the last reset; the trace begins with the last call. -/
def sinceReset (trace : List Event) : List Event := trace.takeWhile fun e => !e.isReset

/-- The calls that were made so far, last one first, lead to a workspace.  Files may be others at
    every call. -/
inductive History : List Event → Workspace → Prop where
  | start {w : Workspace} (initial : w.settings = .initial) : History [] w
  | step {trace : List Event} {w w' : Workspace} {result : Except Workspace.Error Bool}
    (before : History trace w) (call : Call) (files : Path → FileContent)
    (run : runOn call.perform { w with files } = (result, w')) :
    History (⟨call, files, result⟩ :: trace) w'

/-! ### Files and arguments -/

variable {s s' : Settings} {key : Text}

/-- Only the catalog path is seen from a directory. -/
theorem seenFrom_of_ne (directory : Path) (h : key ≠ catalogKey) (value : Datum) :
    seenFrom directory key value = value := by
  unfold seenFrom
  split
  · rw [if_neg fun hc => h hc.1]
  · rfl

/-- Members stay as they are if their catalog path, as it is taken over, is the same, or get that
    path in its place. -/
theorem resolveCatalog_cases {directory : Path} {members members' : Table Text Datum}
    (h : resolveCatalog directory members = .ok members') :
    (members' = members ∧ ∀ value, members.find? catalogKey = some value →
        seenFrom directory catalogKey value = value) ∨
      ∃ value, members.find? catalogKey = some value ∧
        members' = members.insert catalogKey (seenFrom directory catalogKey value) := by
  unfold resolveCatalog at h
  -- no path is given, it is absolute or relative, or it is no text
  split at h
  · next hnone =>
    cases h
    refine .inl ⟨rfl, fun value hvalue => ?_⟩
    -- what is not given is no path
    have hgiven : value.truthy = false := by
      rw [hvalue] at hnone
      simpa using Option.filter_eq_none_iff.mp hnone value rfl
    cases value with
    | text path =>
      have hempty : path = [] := by simpa [Datum.truthy] using hgiven
      rw [seenFrom, if_neg fun hc => hc.2.1 hempty]
    | _ => rfl
  · next path hsome =>
    obtain ⟨hfound, hgiven⟩ := Option.filter_eq_some_iff.mp hsome
    split at h
    · next habsolute =>
      cases h
      refine .inl ⟨rfl, fun value hvalue => ?_⟩
      obtain rfl := Option.some.inj (hfound.symm.trans hvalue)
      rw [seenFrom, if_neg]
      exact fun hc => absurd habsolute (by rw [hc.2.2]; decide)
    · next hrelative =>
      cases h
      have hne : path ≠ [] := by
        rintro rfl
        exact absurd hgiven (by decide)
      refine .inr ⟨_, hfound, ?_⟩
      rw [seenFrom, if_pos ⟨rfl, hne, by simpa using hrelative⟩]
  · cases h

/-- What is found in the members of a file once its catalog path is resolved. -/
theorem find?_of_resolveCatalog {directory : Path} {members members' : Table Text Datum}
    (h : resolveCatalog directory members = .ok members') :
    find? key members' = (find? key members).map (seenFrom directory key) := by
  -- only the catalog path may have been replaced
  by_cases hkey : key = catalogKey
  · subst hkey
    obtain ⟨rfl, hsame⟩ | ⟨value, hfound, rfl⟩ := resolveCatalog_cases h
    · cases hfound : find? catalogKey members' with
      | none => rfl
      | some value => rw [Option.map_some, hsame value hfound]
    · rw [find?_insert_self, hfound, Option.map_some]
  · have hsame : find? key members' = find? key members := by
      obtain ⟨rfl, -⟩ | ⟨value, -, rfl⟩ := resolveCatalog_cases h
      · rfl
      · rw [find?_insert, if_neg (Ne.symm hkey)]
    rw [hsame]
    cases find? key members with
    | none => rfl
    | some value => rw [Option.map_some, seenFrom_of_ne directory hkey]

/-- Members are not repeated once their catalog path is resolved. -/
theorem distinct_of_resolveCatalog {directory : Path} {members members' : Table Text Datum}
    (h : resolveCatalog directory members = .ok members') (hmembers : Distinct members) :
    Distinct members' := by
  obtain ⟨rfl, -⟩ | ⟨value, -, rfl⟩ := resolveCatalog_cases h
  · exact hmembers
  · exact hmembers.insert

/-- A file that is taken over puts its members in front of the values below the command line. -/
theorem find?_of_loadFile {path : Path} {content : FileContent} {loaded : Bool}
    (h : s.loadFile path content = .ok (s', loaded)) :
    s'.values.find? key = (fileValue? path content key).or (s.values.find? key) ∧
      s'.overrides = s.overrides := by
  unfold loadFile at h
  cases hread : readMembers content with
  | none =>
    rw [hread] at h
    cases h
    rw [fileValue?, hread]
    exact ⟨rfl, rfl⟩
  | some members =>
    rw [hread] at h
    obtain ⟨merged, hmerge, heq⟩ := Outcome.map_eq_ok_iff.mp h
    cases heq
    obtain ⟨members', hresolve, rfl⟩ := Outcome.map_eq_ok_iff.mp hmerge
    -- members are not repeated, so each is found in front of the values
    have hmembers := distinct_of_resolveCatalog hresolve (distinct_readMembers hread)
    refine ⟨?_, rfl⟩
    rw [hmembers.find?_insertAll, find?_of_resolveCatalog hresolve, fileValue?, hread]
    rfl

/-- A file that there is not to take over changes nothing. -/
theorem eq_of_loadFile_false {path : Path} {content : FileContent}
    (h : s.loadFile path content = .ok (s', false)) : s' = s := by
  unfold loadFile at h
  split at h
  · cases h
    rfl
  · obtain ⟨merged, -, heq⟩ := Outcome.map_eq_ok_iff.mp h
    cases heq

/-- What arguments say is what they give for each option. -/
theorem eq_of_readArguments {args : List Text} {a : Arguments} (h : readArguments args = .ok a) :
    a = ⟨option? configOption args, option? catalogOption args, option? logLevelOption args⟩ := by
  obtain ⟨parsed, hparse, rfl⟩ := Outcome.map_eq_ok_iff.mp h
  have hoption : ∀ flag, option? flag args = match parsed.values.find? flag.name with
      | some (.text t) => if t.isEmpty then none else some t
      | _ => none := by
    intro flag
    rw [option?, hparse]
    show (match parsed.values.find? flag.name with
      | some (.text t) => if t = [] then none else some t
      | _ => none) = _
    split <;> simp
  rw [hoption, hoption, hoption]
  rfl

/-- Values of the command line go over those that were there. -/
theorem find?_override (s : Settings) (a : Arguments) (key : Text) :
    (s.override a).overrides.find? key =
      (if key = catalogKey then a.catalog else if key = logLevelKey then a.logLevel else none).or
        (s.overrides.find? key) := by
  have hkeys : catalogKey ≠ logLevelKey := by decide
  obtain ⟨config, catalog, logLevel⟩ := a
  -- the two settings that a command line can give, and any other
  by_cases hcatalog : key = catalogKey
  · subst hcatalog
    cases catalog <;> cases logLevel <;> simp [override, find?_insert, hkeys.symm]
  · by_cases hlevel : key = logLevelKey
    · subst hlevel
      cases catalog <;> cases logLevel <;> simp [override, find?_insert, hkeys, hkeys.symm]
    · rw [if_neg hcatalog, if_neg hlevel, Option.none_or]
      have hcatalog := Ne.symm hcatalog
      have hlevel := Ne.symm hlevel
      cases catalog <;> cases logLevel <;> simp [override, find?_insert, hcatalog, hlevel]

/-! ### Single calls -/

/-- What a call that does not fail does to settings. -/
def Call.Changes (c : Call) (files : Path → FileContent) (s s' : Settings) : Prop :=
  match c with
  | .reset => s' = .initial
  | c => ∀ key,
    s'.values.find? key = (c.value? files key).or (s.values.find? key) ∧
      s'.overrides.find? key = (c.override? key).or (s.overrides.find? key)

/-- A call fails and leaves the workspace as it is, or changes settings and nothing else. -/
def Call.Ends (c : Call) (w : Workspace) (ending : Except Workspace.Error Bool × Workspace) :
    Prop :=
  (ending.1 ≠ .ok true ∧ ending.2 = w) ∨
    (ending.1 = .ok true ∧ c.Changes w.files w.settings ending.2.settings)

variable {w w' : Workspace}

/-- A call that raises an error and changes nothing has failed. -/
theorem Call.ends_of_error (c : Call) (e : Workspace.Error) (w : Workspace) :
    c.Ends w (.error e, w) :=
  .inl ⟨nofun, rfl⟩

/-- A settings file is taken over, or everything stays as it is. -/
theorem ends_loadFile (path : Path) (w : Workspace) :
    (Call.loadFile path).Ends w (runOn (loadSettings path) w) := by
  rw [loadSettings]
  -- the file is refused, its members are refused, or they are taken over
  rcases runOn_settingsFile path w with ⟨e, hfile⟩ | hfile
  · rw [runOn_bind_of_error hfile]
    exact Call.ends_of_error _ e w
  · rw [runOn_bind_of_ok hfile, runOn_bind_of_ok (runOn_get w)]
    cases hload : w.settings.loadFile path (w.files path) with
    | error e =>
      rw [runOn_bind_of_error (runOn_ofExcept_error _ e w)]
      exact Call.ends_of_error _ _ w
    | ok r =>
      obtain ⟨s, loaded⟩ := r
      rw [runOn_bind_of_ok (runOn_ofExcept_ok _ _ w)]
      show (Call.loadFile path).Ends w (.ok loaded, { w with settings := s })
      cases loaded with
      | false =>
        refine .inl ⟨nofun, ?_⟩
        rw [eq_of_loadFile_false hload]
      | true =>
        refine .inr ⟨rfl, fun key => ?_⟩
        obtain ⟨hvalues, hoverrides⟩ := find?_of_loadFile hload
        exact ⟨hvalues, congrArg (find? key) hoverrides⟩

/-- Arguments that are taken over put the members of their settings file below the command line, and
    their own values in it. -/
theorem find?_of_applyArguments {a : Arguments} {find : Path → FileContent}
    (h : s.applyArguments a find = .ok s') (key : Text) :
    s'.values.find? key =
        (a.config.bind fun name => fileValue? (.ofText name) (find (.ofText name)) key).or
          (s.values.find? key) ∧
      s'.overrides = (s.override a).overrides := by
  unfold applyArguments at h
  cases hconfig : a.config with
  | none =>
    rw [hconfig] at h
    cases h
    exact ⟨rfl, rfl⟩
  | some name =>
    rw [hconfig] at h
    obtain ⟨⟨loaded, done⟩, hload, rfl⟩ := Outcome.map_eq_ok_iff.mp h
    obtain ⟨hvalues, hoverrides⟩ := find?_of_loadFile hload
    refine ⟨hvalues, ?_⟩
    rw [override, override, hoverrides]

/-- Arguments without a settings file always come to an end. -/
theorem runOn_applyArguments_of_noConfig {args : List Text} {a : Arguments}
    (hread : readArguments args = .ok a) (hnone : a.config = none) (w : Workspace) :
    runOn (Action.applyArguments args) w =
      (.ok (), { w with settings := w.settings.override a }) := by
  rw [Action.applyArguments, hread, runOn_bind_of_ok (runOn_ofExcept_ok _ a w), hnone]
  dsimp only
  rw [runOn_bind_of_ok (runOn_get w), applyArguments, hnone]
  rfl

/-- Arguments that are read fail with their settings file and change nothing, or their settings file
    and their values are taken over. -/
theorem ends_applyArguments {args : List Text} {a : Arguments} (hread : readArguments args = .ok a)
    (w : Workspace) :
    (a.config ≠ none ∧ ∃ e, runOn (Action.applyArguments args) w = (.error e, w)) ∨
      ∃ s, runOn (Action.applyArguments args) w = (.ok (), { w with settings := s }) ∧ ∀ key,
        s.values.find? key =
            (a.config.bind fun name => fileValue? (.ofText name) (w.files (.ofText name)) key).or
              (w.settings.values.find? key) ∧
          s.overrides.find? key = (if key = catalogKey then a.catalog
            else if key = logLevelKey then a.logLevel else none).or
              (w.settings.overrides.find? key) := by
  rcases runOn_applyArguments args w with ⟨e, hrun⟩ | ⟨a', s, hread', happly, hrun⟩
  · refine .inl ⟨fun hnone => ?_, e, hrun⟩
    rw [runOn_applyArguments_of_noConfig hread hnone] at hrun
    cases hrun
  · cases hread.symm.trans hread'
    refine .inr ⟨s, hrun, fun key => ?_⟩
    obtain ⟨hvalues, hoverrides⟩ := find?_of_applyArguments happly key
    exact ⟨hvalues, by rw [hoverrides, find?_override]⟩

/-- What is taken over from the command line is a call like the others. -/
theorem ends_parseArguments (args : List Text) (w : Workspace) :
    (Call.parseArguments args).Ends w (runOn (Call.parseArguments args).perform w) := by
  rw [Call.perform]
  cases hread : readArguments args with
  | error e =>
    have hrun : runOn (Action.applyArguments args) w = (.error (.arguments e), w) := by
      rw [Action.applyArguments, hread]
      exact runOn_bind_of_error (runOn_ofExcept_error _ e w)
    rw [runOn_bind_of_error hrun]
    exact Call.ends_of_error _ _ w
  | ok a =>
    rcases ends_applyArguments hread w with ⟨-, e, hrun⟩ | ⟨s, hrun, hs⟩
    · rw [runOn_bind_of_error hrun]
      exact Call.ends_of_error _ e w
    · rw [runOn_bind_of_ok hrun]
      refine .inr ⟨rfl, fun key => ?_⟩
      rw [eq_of_readArguments hread] at hs
      exact hs key

/-- What is built in goes over the values below the command line. -/
theorem find?_loadBundled (s : Settings) (key : Text) :
    s.loadBundled.values.find? key = (builtinValues.find? key).or (s.values.find? key) := by
  have hbuiltin : Distinct builtinValues := by
    show List.Nodup _
    decide
  exact hbuiltin.find?_insertAll

/-- **Calls.** Every call fails and leaves everything as it is, or puts what it says in front of
    what was found before. -/
theorem ends_perform (c : Call) (w : Workspace) : c.Ends w (runOn c.perform w) := by
  cases c with
  | set key value =>
    refine .inr ⟨rfl, fun key' => ⟨?_, rfl⟩⟩
    show find? key' (w.settings.values.insert key value) = _
    rw [find?_insert, Call.value?]
    split <;> rfl
  | loadFile path => exact ends_loadFile path w
  | loadBundled => exact .inr ⟨rfl, fun key => ⟨find?_loadBundled w.settings key, rfl⟩⟩
  | parseArguments args => exact ends_parseArguments args w
  | reset => exact .inr ⟨rfl, rfl⟩

/-! ### Histories -/

variable {trace : List Event}

/-- What is found in settings is what the calls since the last reset said last, over what is built
    in. -/
structure Reads (trace : List Event) (s : Settings) : Prop where
  values : ∀ key, s.values.find? key =
    ((sinceReset trace).findSome? (·.value? key)).or (builtinValues.find? key)
  overrides : ∀ key, s.overrides.find? key = (sinceReset trace).findSome? (·.override? key)

/-- At first, and after a reset, only what is built in is found. -/
theorem reads_initial (h : sinceReset trace = []) : Reads trace .initial where
  values key := by rw [h]; rfl
  overrides key := by rw [h]; rfl

/-- What a call puts in front is what was said last. -/
theorem Reads.step {e : Event} (hreset : e.isReset = false) (h : Reads trace s)
    (hs : ∀ key, s'.values.find? key = (e.value? key).or (s.values.find? key) ∧
      s'.overrides.find? key = (e.override? key).or (s.overrides.find? key)) :
    Reads (e :: trace) s' := by
  have hsince : sinceReset (e :: trace) = e :: sinceReset trace :=
    List.takeWhile_cons_of_pos (by rw [hreset]; rfl)
  constructor
  case values =>
    intro key
    rw [(hs key).1, h.values, hsince, List.findSome?_cons]
    cases e.value? key <;> rfl
  case overrides =>
    intro key
    rw [(hs key).2, h.overrides, hsince, List.findSome?_cons]
    cases e.override? key <;> rfl

/-- A call is done if it had something to take over. -/
theorem isDone_iff {e : Event} : e.isDone = true ↔ e.result = .ok true := by
  unfold Event.isDone
  split
  · next done hresult => simp [hresult]
  · next hresult => simp [hresult]

/-- A reset is told by its call. -/
theorem isReset_iff {e : Event} : e.isReset = true ↔ e.call = .reset := by
  unfold Event.isReset
  split <;> simp_all

/-- A call that is no reset puts what it says in front of what was found before; one that fails
    says nothing. -/
theorem find?_of_ends {e : Event} (hreset : e.isReset = false)
    (hends : e.call.Ends { w with files := e.files } (e.result, w')) (key : Text) :
    w'.settings.values.find? key = (e.value? key).or (w.settings.values.find? key) ∧
      w'.settings.overrides.find? key =
        (e.override? key).or (w.settings.overrides.find? key) := by
  -- a call that failed says nothing
  rcases hends with ⟨hfails, hsame⟩ | ⟨hdone, hchanges⟩
  · have hnot : ¬ e.isDone = true := fun hdone => hfails (isDone_iff.mp hdone)
    obtain rfl : w' = { w with files := e.files } := hsame
    rw [Event.value?, Event.override?, if_neg hnot, if_neg hnot]
    exact ⟨rfl, rfl⟩
  · rw [Event.value?, Event.override?, if_pos (isDone_iff.mpr hdone), if_pos (isDone_iff.mpr hdone)]
    obtain ⟨call, files, result⟩ := e
    cases call with
    | reset => cases hreset
    | _ => exact hchanges key

/-- **Histories.** After any calls settings are what was said last. -/
theorem History.reads (h : History trace w) : Reads trace w.settings := by
  -- induction on the history: a reset starts over, and any other call goes in front
  induction h with
  | start initial =>
    rw [initial]
    exact reads_initial rfl
  | @step trace w w' result before call files run ih =>
    have hends := ends_perform call { w with files }
    rw [run] at hends
    cases hreset : Event.isReset ⟨call, files, result⟩ with
    | true =>
      obtain rfl : call = .reset := isReset_iff.mp hreset
      cases run
      exact reads_initial rfl
    | false => exact ih.step hreset (find?_of_ends hreset hends)

/-- Without a call that failed, everything but the files is as it is now. -/
theorem History.remove {later earlier : List Event} {e : Event} (he : e.isDone = false)
    (h : History (later ++ e :: earlier) w) :
    ∃ files, History (later ++ earlier) { w with files } := by
  -- induction on the calls after it, which are made from the same workspace
  induction later generalizing w with
  | nil =>
    cases h with
    | @step _ w₀ _ result before call files run =>
      have hends := ends_perform call { w₀ with files }
      rw [run] at hends
      rcases hends with ⟨-, hsame⟩ | ⟨hdone, -⟩
      · obtain rfl : w = { w₀ with files } := hsame
        exact ⟨w₀.files, before⟩
      · exact absurd (isDone_iff.mpr hdone) (by rw [he]; decide)
  | cons e' later ih =>
    cases h with
    | @step _ w₀ _ result before call files run =>
      obtain ⟨files', hbefore⟩ := ih before
      -- the call is made over the same files in both runs
      exact ⟨w.files, .step hbefore call files run⟩

/-- **Layers of settings.** After any calls the value that counts is the last text that a command
    line since the last reset gave, or else the last value that was set or read from a file since
    then, or else the built-in one.  A call that fails could as well not have been made: without it
    the other calls have the same results and lead to the same workspace but for its files. -/
theorem History.get_eq_and_remove (h : History trace w) :
    (∀ key, w.settings.get key =
      (((sinceReset trace).findSome? (·.override? key)).map .text).or
        (((sinceReset trace).findSome? (·.value? key)).or (builtinValues.find? key))) ∧
      ∀ later e earlier, trace = later ++ e :: earlier → e.isDone = false →
        ∃ files, History (later ++ earlier) { w with files } := by
  constructor
  · intro key
    rw [Settings.get, ← h.reads.overrides, ← h.reads.values]
    cases w.settings.overrides.find? key <;> rfl
  · rintro later e earlier rfl he
    exact h.remove he

/-- A settings file that names a catalog next to it, and no other file. -/
def etcFiles (path : Path) : FileContent :=
  if path = .ofText "etc/s" then .text "\x7b'catalog':'k'\x7d" else .refused .missing

/-- The file has one member. -/
theorem readMembers_etcFiles :
    readMembers (etcFiles (.ofText "etc/s")) = some [(catalogKey, .text "k")] := by
  have hfile : etcFiles (.ofText "etc/s") = .text "\x7b'catalog':'k'\x7d" := if_pos rfl
  have htokens : Json5.tokens ("\x7b'catalog':'k'\x7d".toList.length + 1)
      "\x7b'catalog':'k'\x7d".toList =
        some [.mark '\x7b', .text "catalog", .mark ':', .text "k", .mark '\x7d'] := by
    decide +kernel
  rw [hfile, readMembers, Json5.parse, htokens]
  rfl

/-- A log level on the command line, settings from a file, another log level below that of the
    command line, and a file that there is not. -/
def layeredCalls : List Event :=
  [⟨.loadFile (.ofText "s"), etcFiles, .ok false⟩,
    ⟨.set logLevelKey (.text "ERROR"), etcFiles, .ok true⟩,
    ⟨.loadFile (.ofText "etc/s"), etcFiles, .ok true⟩,
    ⟨.parseArguments ["--log-level", "DEBUG"], etcFiles, .ok true⟩]

/-- The settings that these calls lead to. -/
def layered : Settings :=
  ⟨[(catalogKey, .text "etc/k"), (logLevelKey, .text "ERROR"),
    (widthsKey, .list (TypeName.standardWidths.map .int))], [(logLevelKey, "DEBUG")]⟩

/-- The calls lead to these settings: the last one finds no file. -/
theorem history_layeredCalls :
    History layeredCalls { Workspace.initial etcFiles with settings := layered } := by
  let argued : Settings := { Settings.initial with overrides := [(logLevelKey, "DEBUG")] }
  have hstart : History [] (Workspace.initial etcFiles) := .start rfl
  have hargued := hstart.step (.parseArguments ["--log-level", "DEBUG"]) etcFiles rfl
  -- the catalog of the file is seen from its directory
  have hload : argued.loadFile (.ofText "etc/s") (etcFiles (.ofText "etc/s")) =
      .ok (argued.set catalogKey (.text "etc/k"), true) := by
    rw [loadFile, readMembers_etcFiles]
    rfl
  have hloaded : runOn (loadSettings (.ofText "etc/s"))
      { Workspace.initial etcFiles with settings := argued } =
        (.ok true, { Workspace.initial etcFiles with
          settings := argued.set catalogKey (.text "etc/k") }) := by
    have hfile : runOn (settingsFile (.ofText "etc/s"))
        { Workspace.initial etcFiles with settings := argued } =
          (.ok (etcFiles (.ofText "etc/s")), _) := rfl
    rw [loadSettings, runOn_bind_of_ok hfile, runOn_bind_of_ok (runOn_get _), hload]
    rfl
  exact .step (.step (.step hargued (.loadFile (.ofText "etc/s")) etcFiles hloaded) _ etcFiles rfl)
    _ etcFiles rfl

/-- The log level of the command line counts, the catalog is that of the file, and the file that
    there is not could as well not have been asked for. -/
theorem get_eq_and_remove_layeredCalls :
    ∃ w, History layeredCalls w ∧ w.settings.get logLevelKey = some (.text "DEBUG") ∧
      w.settings.get catalogKey = some (.text "etc/k") ∧
      ∃ files, History layeredCalls.tail { w with files } := by
  obtain ⟨hget, hremove⟩ := history_layeredCalls.get_eq_and_remove
  have hlevel : (sinceReset layeredCalls).findSome? (·.override? logLevelKey) = some "DEBUG" := rfl
  have hnone : (sinceReset layeredCalls).findSome? (·.override? catalogKey) = none := rfl
  have hcatalog : (sinceReset layeredCalls).findSome? (·.value? catalogKey) =
      some (.text "etc/k") := by
    have hloaded : Event.value? catalogKey ⟨.loadFile (.ofText "etc/s"), etcFiles, .ok true⟩ =
        some (.text "etc/k") := by
      show fileValue? (.ofText "etc/s") (etcFiles (.ofText "etc/s")) catalogKey = _
      rw [fileValue?, readMembers_etcFiles]
      rfl
    have hset : Event.value? catalogKey ⟨.set logLevelKey (.text "ERROR"), etcFiles, .ok true⟩ =
        none := rfl
    have hmissing : Event.value? catalogKey ⟨.loadFile (.ofText "s"), etcFiles, .ok false⟩ =
        none := rfl
    have hsince : sinceReset layeredCalls = layeredCalls := rfl
    -- the newest event that says something about the catalog is the file that was loaded
    rw [hsince, layeredCalls, List.findSome?_cons, hmissing, List.findSome?_cons, hset,
      List.findSome?_cons, hloaded]
  refine ⟨_, history_layeredCalls, ?_, ?_, hremove [] _ _ rfl rfl⟩
  · rw [hget, hlevel]
    rfl
  · rw [hget, hnone, hcatalog]
    rfl

end KernelCalls.Settings
