import KernelCalls.Text.Quoted

namespace KernelCalls.Text

/-!
# Numerals

Reading integers from text and writing them as text. Both directions refuse numerals of more than
`maxDigits` digits, so that no input can ask for unbounded work.

* `NumberError` : why a number could not be read or written
* `digitValue`, `ofDigits` : numerals of plain digits in bases up to 36
* `readInt` : an integer from text as people write it, with blanks, a sign and grouping underscores
* `writeInt` : the decimal text of an integer
-/

/-- The longest numeral that is read or written. -/
def maxDigits : Nat := 4300

/-- Why a number could not be read from a value or written as text. -/
inductive NumberError where
  /-- The text is not a numeral in a base. -/
  | notNumeral (base : Nat) (text : Text)
  /-- The text has more than `maxDigits` digits. -/
  | tooLongToRead (digits : Nat)
  /-- The number has more than `maxDigits` digits. -/
  | tooLongToWrite
  /-- A value of this kind is no number. -/
  | wrongKind (kind : String)
  /-- The value is an infinity. -/
  | infinite
  /-- The value is not a number. -/
  | undefined
  deriving DecidableEq, Repr

/-- The common part of the two messages about the length limit. -/
private def limitMessage (detail : String) : String :=
  s!"Exceeds the limit ({maxDigits} digits) for integer string conversion{detail}; " ++
    "use sys.set_int_max_str_digits() to increase the limit"

/-- The text that reports the error. A refused numeral is quoted up to 200 characters. -/
def NumberError.message : NumberError → String
  | .notNumeral base text =>
    s!"invalid literal for int() with base {base}: " ++
      String.ofList ((quote text).toList.take 200)
  | .tooLongToRead digits => limitMessage s!": value has {digits} digits"
  | .tooLongToWrite => limitMessage ""
  | .wrongKind kind =>
    "int() argument must be a string, a bytes-like object or a real number, not '" ++ kind ++ "'"
  | .infinite => "cannot convert float infinity to integer"
  | .undefined => "cannot convert float NaN to integer"

/-! ### Plain digits -/

/-- An ASCII decimal digit. -/
def isDigit (c : Char) : Bool := '0' ≤ c && c ≤ '9'

/-- An upper-case ASCII letter. -/
def isUpper (c : Char) : Bool := 'A' ≤ c && c ≤ 'Z'

/-- A lower-case ASCII letter. -/
def isLower (c : Char) : Bool := 'a' ≤ c && c ≤ 'z'

/-- The value of a digit: `0` to `9`, then `A` for ten up to `Z` for thirty-five. -/
def digitValue (c : CodePoint) : Nat :=
  if c.is isDigit then c.number - '0'.toNat else c.number - 'A'.toNat + 10

/-- The value of a hexadecimal digit of either case. -/
def hexDigit? (c : Char) : Option Nat :=
  if isDigit c then some (c.toNat - '0'.toNat)
  else if 'a' ≤ c ∧ c ≤ 'f' then some (c.toNat - 'a'.toNat + 10)
  else if 'A' ≤ c ∧ c ≤ 'F' then some (c.toNat - 'A'.toNat + 10)
  else none

/-- The values of a list of digits. -/
def digitValues (cs : List Char) : List Nat := cs.map fun c => digitValue (.char c)

/-- The value of a list of digit values, the most significant first. -/
def ofDigitValues (base : Nat) (ds : List Nat) : Nat :=
  ds.foldl (fun n d => n * base + d) 0

/-- The value of a list of digits, refused when it is too long. -/
def ofDigits (base : Nat) (digits : Text) : Except NumberError Nat :=
  if digits.length ≤ maxDigits then .ok (ofDigitValues base (digits.map digitValue))
  else .error (.tooLongToRead digits.length)

/-! ### Writing -/

/-- The least number of more than `n` decimal digits. -/
def tenTo (n : Nat) : Nat := Nat.pow 10 n

/-- The decimal text of a natural number, refused when it is too long. -/
def writeNat (n : Nat) : Except NumberError String :=
  if n < tenTo maxDigits then .ok n.repr else .error .tooLongToWrite

/-- The decimal text of an integer, refused when it is too long. -/
def writeInt (i : Int) : Except NumberError String :=
  if i.natAbs < tenTo maxDigits then .ok i.repr else .error .tooLongToWrite

/-- The decimal text of an integer inside a message, which reports the refusal in its place. -/
def writeIntOr (i : Int) (message : String → String) : String :=
  match writeInt i with
  | .ok text => message text
  | .error e => e.message

/-! ### Reading -/

/-- The zeros of the decimal scripts; the other nine digits of each follow its zero. -/
def decimalZeros : List Nat :=
  [0x30, 0x660, 0x6f0, 0x7c0, 0x966, 0x9e6, 0xa66, 0xae6, 0xb66, 0xbe6, 0xc66, 0xce6, 0xd66, 0xde6,
   0xe50, 0xed0, 0xf20, 0x1040, 0x1090, 0x17e0, 0x1810, 0x1946, 0x19d0, 0x1a80, 0x1a90, 0x1b50,
   0x1bb0, 0x1c40, 0x1c50, 0xa620, 0xa8d0, 0xa900, 0xa9d0, 0xa9f0, 0xaa50, 0xabf0, 0xff10, 0x104a0,
   0x10d30, 0x11066, 0x110f0, 0x11136, 0x111d0, 0x112f0, 0x11450, 0x114d0, 0x11650, 0x116c0,
   0x11730, 0x118e0, 0x11950, 0x11c50, 0x11d50, 0x11da0, 0x16a60, 0x16ac0, 0x16b50, 0x1d7ce,
   0x1d7d8, 0x1d7e2, 0x1d7ec, 0x1d7f6, 0x1e140, 0x1e2f0, 0x1e950, 0x1fbf0]

/-- The value of a decimal digit of any script. -/
def decimalDigit? (c : Char) : Option Nat :=
  (decimalZeros.find? fun z => z ≤ c.toNat && c.toNat < z + 10).map (c.toNat - ·)

/-- The blanks that may surround a numeral: those of ASCII text and the spaces beyond ASCII. -/
def isBlank (c : Char) : Bool :=
  c = ' ' || (9 ≤ c.toNat && c.toNat ≤ 13) ||
    [0x85, 0xa0, 0x1680, 0x2028, 0x2029, 0x202f, 0x205f, 0x3000].contains c.toNat ||
    (0x2000 ≤ c.toNat && c.toNat ≤ 0x200a)

/-- The digits at the head of a text and what follows them. An underscore may stand only between
two digits, and at least one digit is needed; `afterDigit` says that one was just read. -/
def scanDigits : Bool → List Char → Option (List Nat × List Char)
  | afterDigit, [] => if afterDigit then some ([], []) else none
  | afterDigit, c :: rest =>
    if c = '_' then
      if afterDigit then scanDigits false rest else none
    else
      match decimalDigit? c with
      | some d => (scanDigits true rest).map fun r => (d :: r.1, r.2)
      | none => if afterDigit then some ([], c :: rest) else none

/-- Splits a sign off the head of a text; the first part says that it was a minus. -/
def splitSign : List Char → Bool × List Char
  | '-' :: rest => (true, rest)
  | '+' :: rest => (false, rest)
  | cs => (false, cs)

/-- The integer that a text spells. The length is checked before what follows the digits. -/
def readInt (t : Text) : Except NumberError Int :=
  let (negative, cs) := splitSign ((t.map CodePoint.shown).dropWhile isBlank)
  match scanDigits false cs with
  | none => .error (.notNumeral 10 t)
  | some (ds, rest) =>
    if maxDigits < ds.length then .error (.tooLongToRead ds.length)
    else if rest.all isBlank then
      let n : Int := ofDigitValues 10 ds
      .ok (if negative then -n else n)
    else .error (.notNumeral 10 t)

end KernelCalls.Text
