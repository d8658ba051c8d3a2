import KernelCalls.ElementKind
import KernelCalls.Text.Numeral

namespace KernelCalls

/-!
# Element shapes

What is known of the type of one parameter or result: the kind of its elements, their sign and
size, how many lanes it has, and for a handle the name of its type. Pointers and qualifiers leave no
trace.

* `TypeInfo` : an element shape, `TypeInfo.check` : the shapes that exist
* `Scalar` : the named scalar types, `Scalar.type` : their shapes
* `TypeInfo.withWidth` : the vector of a scalar
* `TypeInfo.text` : the spelling of a shape
* `TypeName.standardWidths` : the widths that vectors usually have
-/

/-- The element shape of a parameter or result. A width of zero stands for a scalar. -/
structure TypeInfo where
  isSigned : Bool
  kind : ElementKind
  byteLength : Int
  width : Int
  handleName : Text
  deriving DecidableEq, Repr, Inhabited

namespace TypeInfo

/-- Why a combination of fields is no element shape. -/
inductive Error where
  /-- A handle needs the name of its type. -/
  | unnamedHandle
  /-- A handle has no lanes. -/
  | vectorHandle (name : Text)
  /-- Only handles have a type name. -/
  | namedScalar (kind : ElementKind) (name : Text)
  /-- The size is not that of the kind. -/
  | wrongSize (kind : ElementKind) (bytes : Int)
  /-- Only integers have a sign. -/
  | signedKind (kind : ElementKind)
  deriving DecidableEq, Repr

/-- The text that reports the error. -/
def Error.message : Error → Text
  | .unnamedHandle => "opaque type requires a struct name"
  | .vectorHandle name => "opaque type " ++ name ++ " cannot be a vector"
  | .namedScalar kind name => kind.name ++ " cannot carry struct name " ++ Text.quote name
  | .wrongSize kind bytes =>
    Text.writeIntOr bytes fun text =>
      kind.name ++ " is " ++ toString kind.byteLength ++ " bytes, not " ++ text
  | .signedKind kind => kind.name ++ " cannot be signed"

/-- Accepts the combinations of fields that are element shapes. -/
def check (t : TypeInfo) : Except Error TypeInfo :=
  if t.kind = .handle then
    if t.handleName = [] then .error .unnamedHandle
    else if t.width ≠ 0 then .error (.vectorHandle t.handleName)
    else .ok t
  else if t.handleName ≠ [] then .error (.namedScalar t.kind t.handleName)
  else if t.byteLength ≠ t.kind.byteLength then .error (.wrongSize t.kind t.byteLength)
  else if t.isSigned ∧ ¬ t.kind.isInteger then .error (.signedKind t.kind)
  else .ok t

/-- The fields fit together: a handle has a name and no lanes, any other shape has no name, the size
of its kind, and a sign only if that is an integer. -/
def WellFormed (t : TypeInfo) : Prop :=
  (t.kind = .handle → t.handleName ≠ [] ∧ t.width = 0) ∧
  (t.kind ≠ .handle →
    t.handleName = [] ∧ t.byteLength = t.kind.byteLength ∧ (t.isSigned → t.kind.isInteger))

instance (t : TypeInfo) : Decidable t.WellFormed := by unfold WellFormed; infer_instance

/-- The check accepts a shape as it is, and only one that is well formed. -/
theorem check_eq_ok_iff {t u : TypeInfo} : t.check = .ok u ↔ u = t ∧ t.WellFormed := by
  grind [check, WellFormed]

/-- The scalar of a kind. -/
def scalar (kind : ElementKind) (isSigned : Bool) : TypeInfo :=
  ⟨isSigned, kind, kind.byteLength, 0, []⟩

/-- No value: the shape of an absent result. -/
def void : TypeInfo := scalar .void false

/-- A handle of the named type. -/
def handle (name : Text) : TypeInfo := ⟨false, .handle, 0, 0, name⟩

/-- The vector of so many lanes over the elements of a shape. -/
def withWidth (t : TypeInfo) (width : Int) : Except Error TypeInfo :=
  check { t with width, handleName := [] }

/-- The shape has lanes. -/
def isVector (t : TypeInfo) : Bool := 0 < t.width

/-- The shape is a handle. -/
def isHandle (t : TypeInfo) : Bool := t.kind == .handle

end TypeInfo

/-! ### Named scalars -/

/-- The scalar types that have a spelling. -/
inductive Scalar where
  | void
  | bool
  | char
  | uchar
  | short
  | ushort
  | int
  | uint
  | long
  | ulong
  | half
  | float
  | double
  deriving DecidableEq, Repr

namespace Scalar

/-- All scalar types. -/
def all : List Scalar :=
  [.void, .bool, .char, .uchar, .short, .ushort, .int, .uint, .long, .ulong, .half, .float, .double]

/-- The spelling of a scalar type. -/
def spelling : Scalar → String
  | .void => "void"
  | .bool => "bool"
  | .char => "char"
  | .uchar => "uchar"
  | .short => "short"
  | .ushort => "ushort"
  | .int => "int"
  | .uint => "uint"
  | .long => "long"
  | .ulong => "ulong"
  | .half => "half"
  | .float => "float"
  | .double => "double"

/-- The element kind of a scalar type. -/
def kind : Scalar → ElementKind
  | .void => .void
  | .bool => .bool
  | .char | .uchar => .int8
  | .short | .ushort => .int16
  | .int | .uint => .int32
  | .long | .ulong => .int64
  | .half => .float16
  | .float => .float32
  | .double => .float64

/-- The scalar type has a sign. -/
def isSigned : Scalar → Bool
  | .char | .short | .int | .long => true
  | _ => false

/-- The element shape of a scalar type. -/
def type (s : Scalar) : TypeInfo := .scalar s.kind s.isSigned

/-- The scalar type with the given spelling. -/
def ofSpelling? (text : Text) : Option Scalar :=
  all.find? fun s => Text.ofString s.spelling == text

/-- The scalar type of the given kind and sign. -/
def ofKind? (kind : ElementKind) (isSigned : Bool) : Option Scalar :=
  all.find? fun s => s.kind == kind && s.isSigned == isSigned

/-- The shapes of all scalars exist. -/
theorem type_wellFormed (s : Scalar) : s.type.WellFormed := by
  cases s <;> decide

/-- A scalar is found by its spelling. -/
theorem ofSpelling?_spelling (s : Scalar) : ofSpelling? s.spelling = some s := by
  cases s <;> decide +kernel

/-- A scalar is found by its kind and sign. -/
theorem ofKind?_kind (s : Scalar) : ofKind? s.kind s.isSigned = some s := by
  cases s <;> decide

end Scalar

namespace TypeInfo

/-- The spelling of a shape: a handle's name, or the scalar's spelling followed by its width. -/
def text (t : TypeInfo) : Except Text.NumberError Text :=
  if t.isHandle then .ok t.handleName
  else
    let name := ((Scalar.ofKind? t.kind t.isSigned).map Scalar.spelling).getD ""
    if t.width = 0 then .ok name else (Text.writeInt t.width).map fun width => name ++ width

end TypeInfo

/-- The widths that vectors have unless others are asked for. -/
def TypeName.standardWidths : List Int := [2, 3, 4, 8, 16]

end KernelCalls
