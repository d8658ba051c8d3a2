import KernelCalls.Datum
import KernelCalls.Text.Decimal
import KernelCalls.Text.Letter

namespace KernelCalls.Json5

/-!
# JSON5

Reading settings files: JSON with comments, unquoted keys, both kinds of quotes, trailing commas and
more ways to write numbers.

* `Token`, `tokens` : the tokens of a text
* `identifier?`, `number?` : the identifier and the number that a word spells
* `parse` : the value of a whole text
-/

/-- A token: a bracket, comma or colon, a quoted text, or a run of other characters. -/
inductive Token where
  | mark (c : Char)
  | text (t : Text)
  | word (cs : List Char)
  deriving DecidableEq, Repr

/-! ### Tokens -/

/-- The characters between tokens. -/
def isSpace (c : Char) : Bool := (Text.isBlank c && c.toNat != 0x85) || c.toNat == 0xfeff

/-- The characters that end a line. -/
def isLineEnd (c : Char) : Bool := c == '\n' || c == '\r' || c.toNat == 0x2028 || c.toNat == 0x2029

/-- Brackets, commas and colons. -/
def isMark (c : Char) : Bool := ['[', ']', '\x7b', '\x7d', ',', ':'].contains c

/-- The characters of a word. -/
def isWordChar (c : Char) : Bool := !(isSpace c || isMark c || ['"', '\'', '/'].contains c)

/-- The value of exactly `n` hexadecimal digits at the head of a text. -/
def hexDigits? (n : Nat) (cs : List Char) : Option (Nat × List Char) := do
  let digits ← (cs.take n).mapM Text.hexDigit?
  if digits.length = n then some (Text.ofDigitValues 16 digits, cs.drop n) else none

/-- The code point of four hexadecimal digits. -/
def unicodeEscape (cs : List Char) : Option (CodePoint × List Char) := do
  let (n, rest) ← hexDigits? 4 cs
  let c ← CodePoint.ofNumber? n
  return (c, rest)

/-- What an escape stands for, after its backslash. An escaped line end stands for nothing. -/
def escape : List Char → Option (Text × List Char)
  | 'b' :: rest => some ([.char '\x08'], rest)
  | 'f' :: rest => some ([.char '\x0c'], rest)
  | 'n' :: rest => some ([.char '\n'], rest)
  | 'r' :: rest => some ([.char '\r'], rest)
  | 't' :: rest => some ([.char '\t'], rest)
  | 'v' :: rest => some ([.char '\x0b'], rest)
  | 'x' :: rest => (hexDigits? 2 rest).map fun r => ([.char (Char.ofNat r.1)], r.2)
  | 'u' :: rest => (unicodeEscape rest).map fun r => ([r.1], r.2)
  | '\r' :: '\n' :: rest => some ([], rest)
  | '0' :: rest => if rest.head?.any Text.isDigit then none else some ([.char '\x00'], rest)
  | c :: rest =>
    if isLineEnd c then some ([], rest) else if Text.isDigit c then none else some ([.char c], rest)
  | [] => none

/-- The text up to the closing quote, and what follows it. No line feed or carriage return may stand
in it as such. -/
def quoted (mark : Char) : Nat → List Char → Option (Text × List Char)
  | 0, _ => none
  | _, [] => none
  | fuel + 1, c :: rest =>
    if c = mark then some ([], rest)
    else if c = '\n' ∨ c = '\r' then none
    else if c = '\\' then do
      let (cs, rest) ← escape rest
      let (more, rest) ← quoted mark fuel rest
      some (cs ++ more, rest)
    else do
      let (more, rest) ← quoted mark fuel rest
      some (.char c :: more, rest)

/-- What follows a block comment. -/
def afterComment : List Char → Option (List Char)
  | '*' :: '/' :: rest => some rest
  | _ :: rest => afterComment rest
  | [] => none

/-- The tokens of a text, without spaces and comments. -/
def tokens : Nat → List Char → Option (List Token)
  | 0, _ => none
  | _, [] => some []
  | fuel + 1, c :: rest =>
    if isSpace c then tokens fuel rest
    else if isMark c then (tokens fuel rest).map (.mark c :: ·)
    else if c = '"' ∨ c = '\'' then do
      let (text, rest) ← quoted c fuel rest
      let more ← tokens fuel rest
      some (.text text :: more)
    else if c = '/' then
      match rest with
      | '/' :: rest => tokens fuel (rest.dropWhile fun d => !isLineEnd d)
      | '*' :: rest => (afterComment rest).bind (tokens fuel)
      | _ => none
    else (tokens fuel (rest.dropWhile isWordChar)).map (.word (c :: rest.takeWhile isWordChar) :: ·)

/-! ### Words -/

/-- An identifier may begin with the character. -/
def startsIdentifier (c : Char) : Bool := c.isAlpha || c == '$' || c == '_' || Text.isLetter c

/-- The character may stand in an identifier. -/
def continuesIdentifier (c : Char) : Bool :=
  startsIdentifier c || Text.isDigit c || Text.isLetterMark c

/-- The rest of an identifier: characters that may stand in one, and escapes of any code point. -/
def identifierRest? : Nat → List Char → Option Text
  | 0, _ => none
  | _, [] => some []
  | fuel + 1, c :: rest =>
    if c = '\\' then
      match rest with
      | 'u' :: rest => do
        let (c, rest) ← unicodeEscape rest
        let more ← identifierRest? fuel rest
        return c :: more
      | _ => none
    else if continuesIdentifier c then (identifierRest? fuel rest).map (.char c :: ·)
    else none

/-- The identifier that a word spells. Only where it is written as such does the first character
have to be one that an identifier may begin with. -/
def identifier? (cs : List Char) : Option Text :=
  if cs.head?.any fun c => c == '\\' || startsIdentifier c then identifierRest? (cs.length + 1) cs
  else none

/-- An unsigned number in decimal: a whole number without leading zeros, or one with a point or an
exponent. -/
def decimal? (negative : Bool) (cs : List Char) : Option Datum :=
  let (d, rest) := Text.DecimalText.split cs
  let wellFormed :=
    rest.isEmpty && !(d.whole.isEmpty && d.fraction.isEmpty) &&
      !(1 < d.whole.length && d.whole.head? == some '0') && d.exponent.all fun e => !e.2.isEmpty
  if !wellFormed then none
  else if d.point || d.exponent.isSome then
    some (.float (if negative then -d.value else d.value))
  else
    match Text.ofDigits 10 (d.whole.map CodePoint.char) with
    | .ok n => some (.int (if negative then -(n : Int) else n))
    | .error _ => none

/-- A number without its sign. -/
def unsigned? (negative : Bool) : List Char → Option Datum
  | ['I', 'n', 'f', 'i', 'n', 'i', 't', 'y'] =>
    some (.float (if negative then -1.0 / 0.0 else 1.0 / 0.0))
  | ['N', 'a', 'N'] => some (.float (0.0 / 0.0))
  | '0' :: x :: digits =>
    if x = 'x' ∨ x = 'X' then
      if digits.isEmpty then none
      else
        (digits.mapM Text.hexDigit?).map fun ds =>
          let n : Int := Text.ofDigitValues 16 ds
          .int (if negative then -n else n)
    else decimal? negative ('0' :: x :: digits)
  | cs => decimal? negative cs

/-- The number that a word spells, which may have one sign. -/
def number? (cs : List Char) : Option Datum :=
  let (negative, digits) := Text.splitSign cs
  unsigned? negative digits

/-- The value that a word stands for. -/
def wordValue? (cs : List Char) : Option Datum :=
  match String.ofList cs with
  | "null" => some .null
  | "true" => some (.bool true)
  | "false" => some (.bool false)
  | _ => number? cs

/-! ### Values -/

mutual

/-- A value at the head of the tokens. -/
def value : Nat → List Token → Option (Datum × List Token)
  | 0, _ => none
  | fuel + 1, .mark '[' :: rest => items fuel rest []
  | fuel + 1, .mark '\x7b' :: rest => members fuel rest []
  | _, .text s :: rest => some (.text s, rest)
  | _, .word cs :: rest => (wordValue? cs).map (·, rest)
  | _, _ => none

/-- The rest of a list after the items read so far; a comma may follow the last item. -/
def items : Nat → List Token → List Datum → Option (Datum × List Token)
  | 0, _, _ => none
  | _, .mark ']' :: rest, read => some (.list read, rest)
  | fuel + 1, ts, read => do
    let (d, rest) ← value fuel ts
    match rest with
    | .mark ',' :: rest => items fuel rest (read ++ [d])
    | .mark ']' :: rest => some (.list (read ++ [d]), rest)
    | _ => none

/-- The rest of an object after the members read so far; a comma may follow the last member. -/
def members : Nat → List Token → List (Key × Datum) → Option (Datum × List Token)
  | 0, _, _ => none
  | _, .mark '\x7d' :: rest, read => some (.ofPairs read, rest)
  | fuel + 1, key :: .mark ':' :: rest, read => do
    let name ← match key with
      | .text s => some s
      | .word cs => identifier? cs
      | .mark _ => none
    let (d, rest) ← value fuel rest
    let read := read ++ [(.text name, d)]
    match rest with
    | .mark ',' :: rest => members fuel rest read
    | .mark '\x7d' :: rest => some (.ofPairs read, rest)
    | _ => none
  | _, _, _ => none

end

/-- The value of a whole text, if it is well formed. -/
def parse (s : String) : Option Datum := do
  let cs := s.toList
  let ts ← tokens (cs.length + 1) cs
  match ← value (ts.length + 1) ts with
  | (d, []) => some d
  | _ => none

end KernelCalls.Json5
