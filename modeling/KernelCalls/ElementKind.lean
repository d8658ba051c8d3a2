import KernelCalls.Named

namespace KernelCalls

/-!
# Element kinds

The scalar kinds that parameters are made of, and the modifiers that a call's name can select.

* `ElementKind` : scalar kinds with their sizes; `handle` stands for images, samplers and the like
* `PixelFormat`, `RoundingMode` : modifiers carried by suffixes
-/

/-- The kind of one element of a value. -/
inductive ElementKind where
  | void
  | bool
  | int8
  | int16
  | int32
  | int64
  | float16
  | float32
  | float64
  | handle
  deriving DecidableEq, Repr, Inhabited

namespace ElementKind

/-- All kinds, in order. -/
def all : List ElementKind :=
  [.void, .bool, .int8, .int16, .int32, .int64, .float16, .float32, .float64, .handle]

/-- The name of a kind. -/
def name : ElementKind → String
  | .void => "Void"
  | .bool => "Bool"
  | .int8 => "Int8"
  | .int16 => "Int16"
  | .int32 => "Int32"
  | .int64 => "Int64"
  | .float16 => "Float16"
  | .float32 => "Float32"
  | .float64 => "Float64"
  | .handle => "Opaque"

instance : Named ElementKind := ⟨"ElementKind", all, name⟩

/-- The number of a kind. -/
def code : ElementKind → Nat
  | .void => 0
  | .bool => 1
  | .int8 => 2
  | .int16 => 3
  | .int32 => 4
  | .int64 => 5
  | .float16 => 6
  | .float32 => 7
  | .float64 => 8
  | .handle => 9

/-- The size of one element; a handle has none of its own. -/
def byteLength : ElementKind → Nat
  | .void => 0
  | .bool => 1
  | .int8 => 1
  | .int16 => 2
  | .int32 => 4
  | .int64 => 8
  | .float16 => 2
  | .float32 => 4
  | .float64 => 8
  | .handle => 0

/-- The kind is an integer, so that it has signed and unsigned forms. -/
def isInteger : ElementKind → Bool
  | .int8 | .int16 | .int32 | .int64 => true
  | _ => false

/-- The kind is a floating-point number. -/
def isFloat : ElementKind → Bool
  | .float16 | .float32 | .float64 => true
  | _ => false

/-- The kind is a number, so that it has vector forms. -/
def isNumeric (k : ElementKind) : Bool := k.isInteger || k.isFloat

end ElementKind

/-- The type of the pixels that an image call reads or writes. -/
inductive PixelFormat where
  | float
  | int
  | uint
  | half
  deriving DecidableEq, Repr, Inhabited

namespace PixelFormat

/-- All formats, in order. -/
def all : List PixelFormat := [.float, .int, .uint, .half]

/-- The name of a format. -/
def name : PixelFormat → String
  | .float => "Float"
  | .int => "Int"
  | .uint => "UInt"
  | .half => "Half"

/-- The number of a format. -/
def code : PixelFormat → Nat
  | .float => 0
  | .int => 1
  | .uint => 2
  | .half => 3

instance : Named PixelFormat := ⟨"PixelFormat", all, name⟩

end PixelFormat

/-- How a conversion or a half store rounds. -/
inductive RoundingMode where
  | standard
  | nearestEven
  | towardZero
  | towardPositive
  | towardNegative
  deriving DecidableEq, Repr, Inhabited

namespace RoundingMode

/-- All modes, in order. -/
def all : List RoundingMode :=
  [.standard, .nearestEven, .towardZero, .towardPositive, .towardNegative]

/-- The name of a mode. -/
def name : RoundingMode → String
  | .standard => "Default"
  | .nearestEven => "RTE"
  | .towardZero => "RTZ"
  | .towardPositive => "RTP"
  | .towardNegative => "RTN"

/-- The number of a mode. -/
def code : RoundingMode → Nat
  | .standard => 0
  | .nearestEven => 1
  | .towardZero => 2
  | .towardPositive => 3
  | .towardNegative => 4

instance : Named RoundingMode := ⟨"RoundingMode", all, name⟩

end RoundingMode

end KernelCalls
