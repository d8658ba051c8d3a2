import KernelCalls.Workspace

namespace KernelCalls.Action

open Workspace

/-!
# What actions do

How an action ends on a workspace, read off its steps, and what it leaves alone.

* `runOn` : the result of an action and the workspace after it, with one equation for each way of
  building actions.
* `Keeps` : whatever holds of the workspace before still holds after, however the action ends.
* `runOn_applyArguments` : arguments that fail change nothing.
* `keeps_loadSettings`, `keeps_initSettings` : settings change apart from everything else.
* `keeps_defaultCatalog`, `keeps_freshRegistry` : catalogs are added behind those that are there.
-/

variable {α β ε : Type} {P : Workspace → Prop} {w : Workspace}

/-- How an action ends on a workspace, and the workspace that it leaves. -/
def runOn (a : Action α) (w : Workspace) : Except Error α × Workspace := ExceptT.run a w

/-! ### Runs -/

@[simp] theorem runOn_pure (x : α) (w : Workspace) : runOn (pure x) w = (.ok x, w) := rfl

@[simp] theorem runOn_get (w : Workspace) : runOn get w = (.ok w, w) := rfl

@[simp] theorem runOn_ofExcept_ok (wrap : ε → Error) (x : α) (w : Workspace) :
    runOn (ofExcept wrap (.ok x)) w = (.ok x, w) := rfl

@[simp] theorem runOn_ofExcept_error (wrap : ε → Error) (e : ε) (w : Workspace) :
    runOn (ofExcept wrap (.error e) : Action α) w = (.error (wrap e), w) := rfl

/-- A result that is lifted leaves the workspace as it is. -/
theorem runOn_ofExcept (wrap : ε → Error) (r : Except ε α) (w : Workspace) :
    runOn (ofExcept wrap r) w = (r.mapError wrap, w) := by
  cases r <;> rfl

/-- The second part runs where the first one ended well. -/
theorem runOn_bind (a : Action α) (f : α → Action β) (w : Workspace) :
    runOn (a >>= f) w =
      match runOn a w with
      | (.ok x, w') => runOn (f x) w'
      | (.error e, w') => (.error e, w') := by
  show (match runOn a w with
    | (r, w') => (ExceptT.bindCont f r : StateM Workspace _) w') = _
  rcases runOn a w with ⟨_ | _, w'⟩ <;> rfl

/-- Behind an action that ended well the run goes on with its value. -/
theorem runOn_bind_of_ok {a : Action α} {f : α → Action β} {w' : Workspace} {x : α}
    (h : runOn a w = (.ok x, w')) : runOn (a >>= f) w = runOn (f x) w' := by
  rw [runOn_bind, h]

/-- Behind an action that failed nothing runs. -/
theorem runOn_bind_of_error {a : Action α} {f : α → Action β} {w' : Workspace} {e : Error}
    (h : runOn a w = (.error e, w')) : runOn (a >>= f) w = (.error e, w') := by
  rw [runOn_bind, h]

/-- If the whole ended well, so did both parts. -/
theorem exists_of_runOn_bind {a : Action α} {f : α → Action β} {w' : Workspace} {y : β}
    (h : runOn (a >>= f) w = (.ok y, w')) :
    ∃ x w₁, runOn a w = (.ok x, w₁) ∧ runOn (f x) w₁ = (.ok y, w') := by
  cases hrun : runOn a w with
  | mk r w₁ =>
    cases r with
    | error e =>
      rw [runOn_bind_of_error hrun] at h
      cases h
    | ok x =>
      rw [runOn_bind_of_ok hrun] at h
      exact ⟨x, w₁, rfl, h⟩

/-- What handles an error runs where the error arose. -/
theorem runOn_tryCatch (a : Action α) (handle : Error → Action α) (w : Workspace) :
    runOn (tryCatch a handle) w =
      match runOn a w with
      | (.ok x, w') => (.ok x, w')
      | (.error e, w') => runOn (handle e) w' := by
  cases h : runOn a w with
  | mk r w' =>
    simp only [runOn, tryCatch, tryCatchThe, MonadExceptOf.tryCatch, ExceptT.tryCatch, ExceptT.run,
      ExceptT.mk, bind, StateT.bind] at h ⊢
    rw [h]
    cases r <;> rfl

/-! ### What stays -/

/-- What holds of the workspace before an action holds of the one after it, also if the action
    fails. -/
def Keeps (P : Workspace → Prop) (a : Action α) : Prop := ∀ w, P w → P (runOn a w).2

theorem keeps_pure (x : α) : Keeps P (pure x : Action α) := fun _ h => h

theorem keeps_throw (e : Error) : Keeps P (throw e : Action α) := fun _ h => h

theorem keeps_get : Keeps P (get : Action Workspace) := fun _ h => h

/-- A result that is lifted changes nothing, whether it is an error or not. -/
theorem keeps_ofExcept (wrap : ε → Error) (r : Except ε α) : Keeps P (ofExcept wrap r) := by
  intro w h
  cases r <;> exact h

/-- A change keeps what it keeps of every workspace. -/
theorem keeps_modify {f : Workspace → Workspace} (hf : ∀ w, P w → P (f w)) :
    Keeps P (modify f : Action Unit) := hf

/-- What both parts keep is kept by the whole, also where the first part fails. -/
theorem Keeps.bind {a : Action α} {f : α → Action β} (ha : Keeps P a) (hf : ∀ x, Keeps P (f x)) :
    Keeps P (a >>= f) := by
  intro w h
  have hfirst := ha w h
  rw [runOn_bind]
  cases hrun : runOn a w with
  | mk r w' =>
    rw [hrun] at hfirst
    cases r with
    | error e => exact hfirst
    | ok x => exact hf x w' hfirst

/-- An action that begins by looking at the workspace knows what it has seen. -/
theorem keeps_get_bind {f : Workspace → Action β} (hf : ∀ w, P w → P (runOn (f w) w).2) :
    Keeps P (get >>= f) := by
  intro w h
  rw [runOn_bind_of_ok (runOn_get w)]
  exact hf w h

/-! ### Settings -/

/-- Looking for a settings file changes nothing. -/
theorem keeps_settingsFile (path : Path) : Keeps P (settingsFile path) := by
  refine keeps_get_bind fun w h => ?_
  split <;> exact h

/-- Looking at a settings file changes nothing, also if its name is too long. -/
theorem runOn_settingsFile (path : Path) (w : Workspace) :
    (∃ e, runOn (settingsFile path) w = (.error e, w)) ∨
      runOn (settingsFile path) w = (.ok (w.files path), w) := by
  rw [settingsFile, runOn_bind_of_ok (runOn_get w)]
  split
  · exact .inl ⟨_, rfl⟩
  · exact .inr rfl

/-- Arguments fail before anything changes, or all that they say is taken over. -/
theorem runOn_applyArguments (args : List Text) (w : Workspace) :
    (∃ e, runOn (applyArguments args) w = (.error e, w)) ∨
      ∃ a s, Settings.readArguments args = .ok a ∧ w.settings.applyArguments a w.files = .ok s ∧
        runOn (applyArguments args) w = (.ok (), { w with settings := s }) := by
  rw [applyArguments]
  cases Settings.readArguments args with
  | error e => exact .inl ⟨_, runOn_bind_of_error (runOn_ofExcept_error _ e w)⟩
  | ok a =>
    rw [runOn_bind_of_ok (runOn_ofExcept_ok _ a w)]
    -- settings change at the end, once the settings file was looked at
    have hrest : ∀ rest : Action Unit, rest = (do
          let w ← get
          let settings ← ofExcept .notAPath (w.settings.applyArguments a w.files)
          set { w with settings }) →
        (∃ e, runOn rest w = (.error e, w)) ∨
          ∃ a' s, (.ok a : Except Options.Rejection Settings.Arguments) = .ok a' ∧
            w.settings.applyArguments a' w.files = .ok s ∧
            runOn rest w = (.ok (), { w with settings := s }) := by
      rintro _ rfl
      rw [runOn_bind_of_ok (runOn_get w)]
      cases happly : w.settings.applyArguments a w.files with
      | error e => exact .inl ⟨_, runOn_bind_of_error (runOn_ofExcept_error _ e w)⟩
      | ok s => exact .inr ⟨a, s, rfl, happly, runOn_bind_of_ok (runOn_ofExcept_ok _ s w)⟩
    cases a.config with
    | none => exact hrest _ rfl
    | some name =>
      rcases runOn_settingsFile (.ofText name) w with ⟨e, hfile⟩ | hfile
      · exact .inl ⟨e, runOn_bind_of_error (runOn_bind_of_error hfile)⟩
      · have hlooked : runOn (discard (settingsFile (.ofText name))) w = (.ok (), w) :=
          runOn_bind_of_ok hfile
        dsimp only
        rw [runOn_bind_of_ok hlooked]
        exact hrest _ rfl

section Settings

variable (hP : ∀ w s, P w → P { w with settings := s })

include hP

/-- A change of the settings keeps what does not depend on them. -/
theorem keeps_changeSettings (f : Settings → Settings) : Keeps P (changeSettings f) :=
  keeps_modify fun w => hP w (f w.settings)

/-- A settings file only changes settings. -/
theorem keeps_loadSettings (path : Path) : Keeps P (loadSettings path) := by
  refine (keeps_settingsFile path).bind fun content => keeps_get_bind fun w h => ?_
  cases w.settings.loadFile path content with
  | error e => exact h
  | ok r => exact hP w r.1 h

/-- Arguments only change settings. -/
theorem keeps_applyArguments (args : List Text) : Keeps P (applyArguments args) := by
  refine (keeps_ofExcept _ _).bind fun arguments => ?_
  -- the settings file is looked at before the settings change
  have hrest : Keeps P (do
      let w ← get
      let settings ← ofExcept .notAPath (w.settings.applyArguments arguments w.files)
      set { w with settings } : Action Unit) := by
    refine keeps_get_bind fun w h => ?_
    cases w.settings.applyArguments arguments w.files with
    | error e => exact h
    | ok s => exact hP w s h
  cases arguments.config with
  | none => exact hrest
  | some name =>
    refine Keeps.bind ?_ fun _ => hrest
    exact (keeps_settingsFile _).bind fun _ => keeps_pure _

/-- What a process begins with only changes settings. -/
theorem keeps_initSettings (args? : Option (List Text)) : Keeps P (initSettings args?) := by
  refine (keeps_changeSettings hP _).bind fun _ => ?_
  cases args? with
  | none => exact keeps_pure ()
  | some args => exact keeps_applyArguments hP args

end Settings

/-! ### Catalogs -/

/-- Asking for the widths of the settings changes nothing. -/
theorem keeps_settingsWidths : Keeps P settingsWidths :=
  keeps_get.bind fun _ => keeps_ofExcept _ _

/-- Neither do widths that are given, or those of the settings in their place. -/
theorem keeps_widthsOr (widths? : Option (List Int)) : Keeps P (widthsOr widths?) := by
  cases widths? with
  | none => exact keeps_settingsWidths
  | some widths => exact keeps_pure widths

theorem keeps_catalog (id : Nat) : Keeps P (catalog id) := keeps_get.bind fun _ => keeps_pure _

/-- Reading a catalog file changes nothing. -/
theorem keeps_readCatalogFile (path : Path) : Keeps P (readCatalogFile path) := by
  unfold readCatalogFile
  cases path.refusal? with
  | some r => exact fun w h => h
  | none =>
    refine keeps_get_bind fun w h => ?_
    cases w.files path with
    | refused why => exact h
    | text s => exact (keeps_ofExcept _ _).bind (fun d => keeps_pure _) w h

section Catalogs

variable (hadd : ∀ w c, P w → P { w with catalogs := w.catalogs ++ [c] })
  (hdefault : ∀ w id?, P w → P { w with defaultCatalog? := id? })

include hadd

/-- A catalog that is added keeps what any catalog at the end keeps. -/
theorem keeps_addCatalog (c : Catalog) : Keeps P (addCatalog c) :=
  keeps_get_bind fun w h => hadd w c h

/-- A catalog file that is opened adds a catalog, if it can be read. -/
theorem keeps_openCatalogFile (path : Path) : Keeps P (openCatalogFile path) :=
  (keeps_readCatalogFile path).bind fun _ => (keeps_ofExcept _ _).bind fun _ =>
    keeps_addCatalog hadd _

/-- The catalog of the settings is added, which may be the bundled one. -/
theorem keeps_openConfiguredCatalog : Keeps P openConfiguredCatalog := by
  refine keeps_get.bind fun w => (keeps_ofExcept _ _).bind fun path? => ?_
  cases path? with
  | none => exact keeps_addCatalog hadd _
  | some path => exact keeps_openCatalogFile hadd path

include hdefault

/-- The default catalog is added and remembered at the first time it is asked for. -/
theorem keeps_defaultCatalog : Keeps P defaultCatalog := by
  refine keeps_get.bind fun w => ?_
  cases w.defaultCatalog? with
  | some id => exact keeps_pure id
  | none =>
    refine (keeps_openConfiguredCatalog hadd).bind fun id => ?_
    exact (keeps_modify fun w => hdefault w (some id)).bind fun _ => keeps_pure id

/-- A catalog that is given is taken, or else the default one. -/
theorem keeps_catalogOr (id? : Option Nat) : Keeps P (catalogOr id?) := by
  cases id? with
  | none => exact keeps_defaultCatalog hadd hdefault
  | some id => exact keeps_pure id

/-- A fresh registry may add the default catalog, and nothing else. -/
theorem keeps_freshRegistry (id? : Option Nat) (widths? : Option (List Int)) :
    Keeps P (freshRegistry id? widths?) :=
  (keeps_catalogOr hadd hdefault id?).bind fun _ => (keeps_catalog _).bind fun _ =>
    (keeps_widthsOr widths?).bind fun _ => keeps_pure _

end Catalogs

end KernelCalls.Action
