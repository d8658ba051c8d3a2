import KernelCalls.Text.Numeral

namespace KernelCalls.Text

/-!
# Decimal fractions

Reading floating-point numbers, correctly rounded.

* `floatOf` : the number nearest to a decimal fraction
* `DecimalText` : the parts of a decimal fraction in text
-/

/-- The number nearest to `0.digits · 10 ^ place`; beyond the range it is infinite or zero. -/
def floatOf (digits : List Char) (place : Int) : Float :=
  let digits' := digits.dropWhile (· = '0')
  let place := place - (digits.length - digits'.length : Nat)
  if digits'.isEmpty || place < -400 then 0
  else if 400 < place then 1.0 / 0.0
  else
    let e := place - digits'.length
    .ofScientific (ofDigitValues 10 (digitValues digits')) (e < 0) e.natAbs

/-- A decimal fraction in text: the digits before and after the point, with whether there is a
point, and the exponent with its sign, if there is one. -/
structure DecimalText where
  whole : List Char
  point : Bool
  fraction : List Char
  exponent : Option (Option Char × List Char)

namespace DecimalText

/-- Splits a text into the parts of a decimal fraction; what follows them is given too. -/
def split (cs : List Char) : DecimalText × List Char :=
  let whole := cs.takeWhile isDigit
  let rest := cs.dropWhile isDigit
  let (point, fraction, rest) :=
    match rest with
    | '.' :: rest => (true, rest.takeWhile isDigit, rest.dropWhile isDigit)
    | rest => (false, [], rest)
  match rest with
  | e :: rest' =>
    if e = 'e' ∨ e = 'E' then
      let (sign, rest') := match rest' with
        | '+' :: r => (some '+', r)
        | '-' :: r => (some '-', r)
        | r => (none, r)
      (⟨whole, point, fraction, some (sign, rest'.takeWhile isDigit)⟩, rest'.dropWhile isDigit)
    else (⟨whole, point, fraction, none⟩, rest)
  | [] => (⟨whole, point, fraction, none⟩, [])

/-- The number that a decimal fraction stands for. -/
def value (d : DecimalText) : Float :=
  let power : Int := match d.exponent with
    | none => 0
    | some (sign, digits) =>
      let n : Int := ofDigitValues 10 (digitValues (digits.dropWhile (· = '0')))
      if sign = some '-' then -n else n
  floatOf (d.whole ++ d.fraction) (d.whole.length + power)

end DecimalText

end KernelCalls.Text
