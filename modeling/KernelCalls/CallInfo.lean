import KernelCalls.Category
import KernelCalls.TypeInfo

namespace KernelCalls

/-!
# Call descriptions

What is known of a recognised call: its category, base name, result, parameters and the modifiers
that its name selects.

* `Variant` : the modifiers of a call
* `CallInfo` : the description, `CallInfo.check` : the descriptions that exist
* `CallInfo.invalid` : the description of everything that is not a recognised call
* `CallInfo.text` : the description in one line
* `Fault` : what can stop work on a symbol other than the symbol not being a recognised call
-/

/-- The modifiers that the suffixes of a name select. A width of zero stands for none. -/
structure Variant where
  format : Option PixelFormat
  width : Int
  saturate : Bool
  rounding : RoundingMode
  deriving DecidableEq, Repr, Inhabited

namespace Variant

/-- No modifiers. -/
def plain : Variant := ⟨none, 0, false, .standard⟩

/-- The modifiers that are present, each with its name. -/
def parts (v : Variant) : Except Text.NumberError (List String) := do
  let width ←
    if v.width = 0 then pure [] else (Text.writeInt v.width).map fun text => ["width = " ++ text]
  return (v.format.toList.map fun f => "format = " ++ f.name) ++ width ++
    (if v.saturate then ["sat"] else []) ++
    (if v.rounding = .standard then [] else ["rounding = " ++ v.rounding.name])

/-- The modifiers in one line. -/
def text (v : Variant) : Except Text.NumberError String :=
  v.parts.map (", ".intercalate ·)

end Variant

/-- The description of a call. -/
structure CallInfo where
  isValid : Bool
  category : Category
  name : Text
  /-- The result, for the calls whose name says it; `TypeInfo.void` for all others. -/
  returnType : TypeInfo
  params : List TypeInfo
  variant : Variant
  deriving DecidableEq, Repr, Inhabited

namespace CallInfo

/-- Why a combination of fields is no description. -/
inductive Error where
  /-- A recognised call has a category. -/
  | uncategorised (name : Text)
  /-- Anything else has neither category nor parameters. -/
  | notEmpty
  /-- Only conversions say their result. -/
  | returnType (category : Category)
  deriving DecidableEq, Repr

/-- The text that reports the error. -/
def Error.message : Error → String
  | .uncategorised name => "valid function info for " ++ Text.quote name ++ " needs a category"
  | .notEmpty => "invalid function info must have no category and no parameters"
  | .returnType category => category.name ++ " does not encode its return type in the name"

/-- Accepts the combinations of fields that are descriptions. -/
def check (info : CallInfo) : Except Error CallInfo :=
  if info.isValid ∧ info.category = .unclassified then .error (.uncategorised info.name)
  else if ¬ info.isValid ∧ (info.category ≠ .unclassified ∨ info.params ≠ []) then .error .notEmpty
  else if info.category ≠ .convert ∧ info.returnType ≠ .void then
    .error (.returnType info.category)
  else .ok info

/-- The fields fit together: a recognised call has a category, anything else has neither category
nor parameters, and only a conversion says its result. -/
def WellFormed (info : CallInfo) : Prop :=
  (info.isValid → info.category ≠ .unclassified) ∧
  (¬ info.isValid → info.category = .unclassified ∧ info.params = []) ∧
  (info.category ≠ .convert → info.returnType = .void)

/-- The check accepts a description as it is, and only one that is well formed. -/
theorem check_eq_ok_iff {info other : CallInfo} :
    info.check = .ok other ↔ other = info ∧ info.WellFormed := by
  grind [check, WellFormed]

/-- The description of a symbol that is malformed or no recognised call. -/
def invalid : CallInfo := ⟨false, .unclassified, [], .void, [], .plain⟩

/-! ### Parameters -/

/-- Why a parameter could not be given. -/
inductive ParameterError where
  | outOfRange (index : String) (name : Text) (count : Nat)
  | number (e : Text.NumberError)
  deriving DecidableEq, Repr

/-- The text that reports the error. -/
def ParameterError.message : ParameterError → Text
  | .outOfRange index name count =>
    let owner : Text := if name.isEmpty then "<invalid>" else name
    s!"parameter {index} requested from " ++ owner ++ s!" which has {count} parameters"
  | .number e => e.message

/-- The parameter at a position, counted from zero. -/
def paramAt (info : CallInfo) (index : Int) : Except ParameterError TypeInfo :=
  match if index < 0 then none else info.params[index.toNat]? with
  | some t => .ok t
  | none =>
    match Text.writeInt index with
    | .ok text => .error (.outOfRange text info.name info.params.length)
    | .error e => .error (.number e)

/-- The type names of samplers. -/
def samplerNames : List Text := ["ocl_sampler", "sampler_t"]

/-- The second parameter is a sampler. -/
def hasSampler (params : List TypeInfo) : Bool :=
  match params[1]? with
  | some t => t.isHandle && samplerNames.contains t.handleName
  | none => false

/-! ### Text -/

/-- The description in one line. -/
def text (info : CallInfo) : Except Text.NumberError Text :=
  if info.isValid then do
    let params ← info.params.mapM TypeInfo.text
    let returns ←
      if info.category = .convert then
        info.returnType.text.map fun text => Text.ofString " returns " ++ text
      else pure []
    let variant ← info.variant.text
    let modifiers := if variant = "" then "" else " [" ++ variant ++ "]"
    return info.name ++ "(" ++ Text.joined ", " params ++ ") -> " ++ info.category.name ++
      returns ++ modifiers
  else .ok "<not a builtin>"

end CallInfo

/-! ### Faults -/

/-- A cause that stops work on a symbol without deciding what the symbol is. -/
inductive Fault where
  /-- A number is too long to be read or written. -/
  | number (e : Text.NumberError)
  /-- An element shape does not exist. -/
  | shape (e : TypeInfo.Error)
  /-- A description does not exist. -/
  | call (e : CallInfo.Error)
  deriving DecidableEq, Repr

/-- The text that reports the fault. -/
def Fault.message : Fault → Text
  | .number e => e.message
  | .shape e => e.message
  | .call e => e.message

end KernelCalls
