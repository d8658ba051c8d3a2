import KernelCalls.Text.Printable
import KernelCalls.Text.CodePoint

namespace KernelCalls.Text

/-!
# Quoted text

How a text is shown inside a message: between quotes, with every code point that cannot be read off
the page written as an escape.

* `escape` : the written form of one code point, for a given quote
* `quote` : the written form of a text; double quotes are used only where they save escapes
* `noBytes?` : the first part of a text that cannot be written as bytes
-/

/-- A number in lower-case hexadecimal, padded with zeros to `width` digits. -/
def hexPadded (width n : Nat) : List Char :=
  let digits := Nat.toDigits 16 n
  List.replicate (width - digits.length) '0' ++ digits

/-- The written form of a code point by its number, as short as it can be. -/
def escapeNumber (n : Nat) : List Char :=
  if n < 0x100 then '\\' :: 'x' :: hexPadded 2 n
  else if n < 0x10000 then '\\' :: 'u' :: hexPadded 4 n
  else '\\' :: 'U' :: hexPadded 8 n

/-- The written form of one code point between the quotes `mark`. -/
def escape (mark : Char) : CodePoint → List Char
  | .char c =>
    if c = mark ∨ c = '\\' then ['\\', c]
    else if c = '\n' then ['\\', 'n']
    else if c = '\r' then ['\\', 'r']
    else if c = '\t' then ['\\', 't']
    else if isPrintable c then [c]
    else escapeNumber c.toNat
  | .half k => escapeNumber (CodePoint.half k).number

/-- The quote that a text is written with: double exactly when it holds single quotes only. -/
def quoteMark (t : Text) : Char :=
  if .char '\'' ∈ t ∧ .char '"' ∉ t then '"' else '\''

/-- The written form of a text. -/
def quote (t : Text) : String :=
  let mark := quoteMark t
  String.ofList (mark :: t.flatMap (escape mark) ++ [mark])

/-! ### Texts without bytes -/

/-- A stretch of halves that cannot be written as bytes: the places of the first and the last, and
the first of them. -/
structure NoBytes where
  first : Nat
  last : Nat
  half : CodePoint
  deriving DecidableEq, Repr

/-- The text that reports the error. -/
def NoBytes.message (e : NoBytes) : String :=
  let place :=
    if e.first = e.last then "character " ++ quote [e.half] ++ s!" in position {e.first}"
    else s!"characters in position {e.first}-{e.last}"
  "'utf-8' codec can't encode " ++ place ++ ": surrogates not allowed"

/-- The first stretch of halves in a text that begins with one that `allowed` does not take. -/
def noBytes? (allowed : CodePoint → Bool) (t : Text) : Option NoBytes :=
  let first := (t.takeWhile fun c => !c.isHalf || allowed c).length
  match t.drop first with
  | c :: rest => some ⟨first, first + (rest.takeWhile CodePoint.isHalf).length, c⟩
  | [] => none

end KernelCalls.Text
