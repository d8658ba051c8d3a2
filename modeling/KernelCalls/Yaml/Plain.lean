import KernelCalls.Datum
import KernelCalls.Text.Decimal
import KernelCalls.Yaml.Token

namespace KernelCalls.Yaml

/-!
# YAML texts without quotes

A text without quotes is taken for a null, a truth value, a number, a date or a time where it is
written like one.

* `number?` : the number that a text is
* `calendar?` : the date or time that a text is
* `plainDatum` : the value of a text without quotes
-/

/-- The spellings of null. -/
def nullWords : List String := ["", "~", "null", "Null", "NULL"]

/-- The spellings of true. -/
def trueWords : List String :=
  ["yes", "Yes", "YES", "true", "True", "TRUE", "on", "On", "ON"]

/-- The spellings of false. -/
def falseWords : List String :=
  ["no", "No", "NO", "false", "False", "FALSE", "off", "Off", "OFF"]

/-- A digit of a base up to ten, or an underscore. -/
def isDigitBelow (base : Nat) (c : Char) : Bool :=
  c == '_' || (Text.isDigit c && c.toNat < '0'.toNat + base)

/-- A hexadecimal digit or an underscore. -/
def isHexDigit (c : Char) : Bool := c == '_' || (Text.hexDigit? c).isSome

/-- A nonzero digit. -/
def isNonzero (c : Char) : Bool := Text.isDigit c && c != '0'

/-- A text without its underscores. -/
def withoutUnderscores (cs : List Char) : List Char := cs.filter (· ≠ '_')

/-- The number of decimal digits, some of which may be underscores. -/
def readDigits (cs : List Char) : Except Error Nat :=
  (Text.ofDigits 10 ((withoutUnderscores cs).map CodePoint.char)).mapError .number

/-- The number of digits in a base; without any there is none. -/
def readBase (base : Nat) (cs : List Char) : Except Error Int :=
  match (withoutUnderscores cs).mapM Text.hexDigit? with
  | some (d :: ds) => .ok (Text.ofDigitValues base (d :: ds))
  | _ => .error (.number (.notNumeral base []))

/-- The parts of a number in base sixty: digits, then parts below sixty behind colons. -/
def sixtieths? (cs : List Char) : Option (List (List Char)) :=
  match cs.splitOn ':' with
  | first :: rest =>
    let below := fun part : List Char =>
      match part with
      | [d] => Text.isDigit d
      | [d, e] => '0' ≤ d && d ≤ '5' && Text.isDigit e
      | _ => false
    if first.head?.any Text.isDigit && first.all (isDigitBelow 10) && !rest.isEmpty &&
        rest.all below then
      some (first :: rest)
    else none
  | [] => none

/-- The whole number of parts in base sixty. -/
def readSixtieths (parts : List (List Char)) : Except Error Int := do
  return (Text.ofDigitValues 60 (← parts.mapM readDigits) : Nat)

/-- An unsigned whole number, if the text is one. -/
def wholeNumber? : List Char → Option (Except Error Int)
  | ['0'] => some (.ok 0)
  | '0' :: 'b' :: ds =>
    if !ds.isEmpty && ds.all (isDigitBelow 2) then some (readBase 2 ds) else none
  | '0' :: 'x' :: ds => if !ds.isEmpty && ds.all isHexDigit then some (readBase 16 ds) else none
  | '0' :: ds => if ds.all (isDigitBelow 8) then some (readBase 8 ('0' :: ds)) else none
  | cs =>
    if !cs.head?.any isNonzero then none
    else if cs.all (isDigitBelow 10) then
      some ((readDigits cs).map Int.ofNat)
    else (sixtieths? cs).map readSixtieths

/-- The fraction of a text that is one: digits with a point, and an exponent with its sign. Nothing
need precede the point if a digit follows it. -/
def fraction? (signed : Bool) (cs : List Char) : Option Float :=
  let (d, rest) := Text.DecimalText.split (withoutUnderscores cs)
  let leads := cs.head?
  let starts :=
    leads.any Text.isDigit ||
      (!signed && leads == some '.' && (cs[1]?).any Text.isDigit && d.whole.isEmpty)
  let power := d.exponent.all fun e => e.1.isSome && !e.2.isEmpty
  let clean := !((cs.dropWhile fun c => c != 'e' && c != 'E').contains '_')
  if d.point && rest.isEmpty && starts && power && clean then some d.value else none

/-- The sum of parts in base sixty, the last one first, as it is rounded on the way up: `unit` is
what the next part counts, and has to be in the range of fractions. -/
def addSixtieths : List Float → Nat → Float → Except Error Float
  | [], _, sum => .ok sum
  | part :: rest, unit, sum =>
    if Text.twoTo 1024 ≤ unit then .error .beyondFloat
    else addSixtieths rest (unit * 60) (sum + part * Float.ofNat unit)

/-- A fraction in base sixty, if the text is one. -/
def sixtiethFraction? (cs : List Char) : Option (Except Error Float) :=
  let head := cs.takeWhile (· ≠ '.')
  match cs.drop head.length, sixtieths? head with
  | '.' :: tail, some parts =>
    if tail.all (isDigitBelow 10) then
      let value := fun whole fraction : List Char =>
        let digits := withoutUnderscores whole
        Text.floatOf (digits ++ withoutUnderscores fraction) digits.length
      let last := value (parts.getLast?.getD []) tail
      let higher := parts.dropLast.map fun part => value part []
      some (addSixtieths (last :: higher.reverse) 1 0)
    else none
  | _, _ => none

/-! ### Dates and times -/

/-- A number of at least `least` and at most `most` digits, and what follows all digits. -/
def digits? (least most : Nat) (cs : List Char) : Option (Nat × List Char) :=
  let ds := cs.takeWhile Text.isDigit
  if least ≤ ds.length ∧ ds.length ≤ most then
    some (Text.ofDigitValues 10 (Text.digitValues ds), cs.drop ds.length)
  else none

/-- What follows a character. -/
def after? (c : Char) : List Char → Option (List Char)
  | d :: rest => if d = c then some rest else none
  | [] => none

/-- A blank between the parts of a time. -/
def isTimeBlank (c : Char) : Bool := c == ' ' || c == '\t'

/-- A day with the parts that follow it. -/
def date? (cs : List Char) : Option (Date × List Char) := do
  let (year, cs) ← digits? 4 4 cs
  let (month, cs) ← digits? 1 2 (← after? '-' cs)
  let (day, cs) ← digits? 1 2 (← after? '-' cs)
  return (⟨year, month, day⟩, cs)

/-- What follows the mark between a day and a time: a letter, or blanks. -/
def afterDate? : List Char → Option (List Char)
  | 'T' :: rest => some rest
  | 't' :: rest => some rest
  | c :: rest => if isTimeBlank c then some (rest.dropWhile isTimeBlank) else none
  | [] => none

/-- The microseconds of a fraction of a second, cut after six digits. -/
def microseconds (ds : List Char) : Nat :=
  let ds := ds.take 6
  Text.ofDigitValues 10 (Text.digitValues (ds ++ List.replicate (6 - ds.length) '0'))

/-- The fraction of a second, if there is one, and what follows it. -/
def splitFraction : List Char → Nat × List Char
  | '.' :: rest => (microseconds (rest.takeWhile Text.isDigit), rest.dropWhile Text.isDigit)
  | cs => (0, cs)

/-- How many minutes a clock is ahead, from the text after a time. -/
def ahead? (cs : List Char) : Option (Option Int) :=
  match cs.dropWhile isTimeBlank with
  | [] => if cs.isEmpty then some none else none
  | ['Z'] => some (some 0)
  | sign :: rest => do
    if sign ≠ '+' ∧ sign ≠ '-' then none
    let (hours, rest) ← digits? 1 2 rest
    let (minutes, rest) ←
      if rest.isEmpty then some (0, []) else digits? 2 2 (← after? ':' rest)
    let n : Int := hours * 60 + minutes
    if rest.isEmpty then some (some (if sign = '-' then -n else n)) else none

/-- A time of a day, if the text is one. -/
def moment? (cs : List Char) : Option Moment := do
  let (date, cs) ← date? cs
  let (hour, cs) ← digits? 1 2 (← afterDate? cs)
  let (minute, cs) ← digits? 2 2 (← after? ':' cs)
  let (second, cs) ← digits? 2 2 (← after? ':' cs)
  let (microsecond, cs) := splitFraction cs
  return ⟨date, hour, minute, second, microsecond, ← ahead? cs⟩

/-- A date or a time, if the text is one. A date alone has two digits for month and day. -/
def calendar? (cs : List Char) : Option (Except Error Datum) :=
  match date? cs with
  | some (d, []) => if cs.length = 10 then some ((d.check.map .date).mapError .calendar) else none
  | _ => (moment? cs).map fun m => (m.check.map .moment).mapError .calendar

/-! ### All texts without quotes -/

/-- The text that marks a default value, which is a text only as a key. -/
def defaultMark : String := "="

/-- The key under which a mapping takes in others. -/
def mergeMark : String := "<<"

/-- The numbers without digits; what is not a number has no sign. -/
def namedFloat? (negative signed : Bool) (body : String) : Option Float :=
  if [".inf", ".Inf", ".INF"].contains body then
    some (if negative then -1.0 / 0.0 else 1.0 / 0.0)
  else if !signed && [".nan", ".NaN", ".NAN"].contains body then some (0.0 / 0.0)
  else none

/-- The number that a text is. -/
def number? (cs : List Char) : Option (Except Error Datum) :=
  let (negative, body) := Text.splitSign cs
  let signed := body.length < cs.length
  let signedFloat := fun f : Float => Datum.float (if negative then -f else f)
  match wholeNumber? body with
  | some n => some (n.map fun i => .int (if negative then -i else i))
  | none =>
    match namedFloat? negative signed (String.ofList body) with
    | some f => some (.ok (.float f))
    | none =>
      match fraction? signed body with
      | some f => some (.ok (signedFloat f))
      | none => (sixtiethFraction? body).map fun f => f.map signedFloat

/-- The value of a text without quotes. -/
def plainDatum (cs : List Char) : Except Error Datum :=
  let word := String.ofList cs
  if word = defaultMark ∨ word = mergeMark then malformed
  else if nullWords.contains word then .ok .null
  else if trueWords.contains word then .ok (.bool true)
  else if falseWords.contains word then .ok (.bool false)
  else ((number? cs) <|> (calendar? cs)).getD (.ok (.text word))

end KernelCalls.Yaml
