import KernelCalls.CallInfo

namespace KernelCalls.Mangling

/-!
# Mangled symbols

The results of reading a symbol, and the reasons for which one is refused.

* `Decoded` : a base name with the shapes of its parameters
* `Reason`, `Failure` : why and where a symbol is refused
* `Layer` : a type constructor written in front of its operand
* `builtinCode?` : the one-letter types
-/

/-- What a symbol says: the base name and the shapes of the parameters. A symbol that is a plain
identifier says nothing of its parameters. -/
structure Decoded where
  name : Text
  params : List TypeInfo
  mangled : Bool
  deriving DecidableEq, Repr

/-- Why a symbol is refused. -/
inductive Reason where
  | notASymbol
  | notPlainName
  | voidParameter
  | expectedNumber
  | leadingZero
  | nameTooLong (length : Nat)
  | invalidIdentifier (name : Text)
  | unsupportedSubstitution
  | danglingReference (sequence : Text) (index size : Nat)
  | expectedQualifierName
  | templatedQualifier
  | dependentVectorSize
  | vectorWidth (width : Nat)
  | expectedUnderscore
  | unexpectedEnd
  | unknownTypeCode (code : CodePoint)
  | vectorOfVector
  | vectorOf (element : TypeInfo)
  deriving DecidableEq, Repr

/-- The text that states the reason. -/
def Reason.message : Reason → Text
  | .notASymbol => "neither a mangled name nor a C identifier"
  | .notPlainName => "only plain function names are supported"
  | .voidParameter => "void parameter in a non-empty parameter list"
  | .expectedNumber => "expected a number"
  | .leadingZero => "number with leading zero"
  | .nameTooLong length => s!"source name length {length} runs past end of symbol"
  | .invalidIdentifier name => "invalid identifier " ++ Text.quote name
  | .unsupportedSubstitution => "unsupported substitution"
  | .danglingReference sequence index size =>
    "back-reference S" ++ sequence ++ s!"_ to entry {index} of {size}"
  | .expectedQualifierName => "expected vendor qualifier name"
  | .templatedQualifier => "templated vendor qualifiers are not supported"
  | .dependentVectorSize => "dependent vector sizes are not supported"
  | .vectorWidth width => s!"unsupported vector width {width}"
  | .expectedUnderscore => "expected _ after vector width"
  | .unexpectedEnd => "unexpected end of symbol"
  | .unknownTypeCode code => "unknown type code " ++ Text.quote [code]
  | .vectorOfVector => "vector of vector"
  | .vectorOf element => "vector of " ++ element.text.toOption.getD []

/-- A refused symbol, with the offset at which reading stopped. -/
structure Failure where
  symbol : Text
  reason : Reason
  position : Nat
  deriving DecidableEq, Repr

/-- The text that reports the failure. -/
def Failure.message (f : Failure) : Text :=
  Text.quote f.symbol ++ ": " ++ f.reason.message ++ s!" at offset {f.position}"

/-- Why a symbol gave no result: it is refused, or a fault kept it from being decided. -/
inductive Error where
  | failed (f : Failure)
  | fault (f : Fault)
  deriving DecidableEq, Repr

/-! ### Types inside a symbol -/

/-- The type constructors that are written in front of their operand. -/
inductive TypeConstructor where
  | pointer
  | qualified
  | vector
  deriving DecidableEq, Repr

namespace TypeConstructor

/-- The name of a constructor. -/
def name : TypeConstructor → String
  | .pointer => "Pointer"
  | .qualified => "Qualified"
  | .vector => "Vector"

/-- The number of a constructor. -/
def code : TypeConstructor → Nat
  | .pointer => 0
  | .qualified => 1
  | .vector => 2

instance : Named TypeConstructor := ⟨"TypeConstructor", [.pointer, .qualified, .vector], name⟩

end TypeConstructor

/-- A constructor that waits for its operand; a vector knows its number of lanes. -/
inductive Layer where
  | pointer
  | qualified
  | vector (lanes : Nat)
  deriving DecidableEq, Repr

/-- The scalar that a single letter stands for. -/
def builtinCode? : CodePoint → Option Scalar
  | .char 'v' => some .void
  | .char 'b' => some .bool
  | .char 'c' => some .char
  | .char 'a' => some .char
  | .char 'h' => some .uchar
  | .char 's' => some .short
  | .char 't' => some .ushort
  | .char 'i' => some .int
  | .char 'j' => some .uint
  | .char 'l' => some .long
  | .char 'm' => some .ulong
  | .char 'x' => some .long
  | .char 'y' => some .ulong
  | .char 'f' => some .float
  | .char 'd' => some .double
  | _ => none

/-- The qualifiers of the language itself, in the order in which they are written. -/
def isQualifier (c : CodePoint) : Bool := c == .char 'r' || c == .char 'V' || c == .char 'K'

/-- A letter or underscore, as an identifier starts with. -/
def isIdentifierStart (c : Char) : Bool := Text.isUpper c || Text.isLower c || c == '_'

/-- The text is an identifier: a letter or underscore, then letters, digits and underscores. -/
def isIdentifier : Text → Bool
  | [] => false
  | c :: rest =>
    c.is isIdentifierStart && rest.all (·.is fun d => isIdentifierStart d || Text.isDigit d)

/-- A character of the number of a back-reference. -/
def isSequenceChar (c : CodePoint) : Bool := c.is fun d => Text.isDigit d || Text.isUpper d

end KernelCalls.Mangling
