import KernelCalls.Text.Numeral

namespace KernelCalls.Text

/-!
# Shortest decimals

The decimal text of a binary floating-point number: the fewest digits that read back as the same
number, and of those the nearest.

* `Dyadic`, `Dyadic.ofFloat` : the exact value of a finite number, and its neighbourhood
* `Dyadic.shortest` : the digits and the place of the point
* `writeFloat` : positional from `0.0001` up to sixteen places before the point, else with an
  exponent
-/

/-- A positive value `numerator / denominator`, with the ends of the interval of reals that round
to it over the same denominator; `closed` says that the ends belong to it. -/
structure Dyadic where
  numerator : Nat
  lower : Nat
  upper : Nat
  denominator : Nat
  closed : Bool

/-- The `n`-th power of two. -/
def twoTo (n : Nat) : Nat := Nat.pow 2 n

/-- The sign bit of a number is set. -/
def isNegative (f : Float) : Bool := twoTo 63 ≤ f.toBits.toNat

namespace Dyadic

/-- The fraction bits of a number. -/
def fraction (f : Float) : Nat := f.toBits.toNat % twoTo 52

/-- The biased exponent of a number. -/
def exponent (f : Float) : Nat := f.toBits.toNat / twoTo 52 % twoTo 11

/-- The exact absolute value of a finite number. Over quarters of the last place it is four times
the significand; the interval reaches half a place up, and down as well unless the number is a power
of two, whose lower neighbour is nearer. -/
def ofFloat (f : Float) : Dyadic :=
  let subnormal := exponent f = 0
  let significand := if subnormal then fraction f else fraction f + twoTo 52
  let lower := if fraction f = 0 ∧ 1 < exponent f then 4 * significand - 1 else 4 * significand - 2
  let places := (if subnormal then 1 else exponent f) + 50
  let scale := fun n => if 1127 ≤ places then n * twoTo (places - 1127) else n
  { numerator := scale (4 * significand)
    lower := scale lower
    upper := scale (4 * significand + 2)
    denominator := if 1127 ≤ places then 1 else twoTo (1127 - places)
    closed := significand % 2 = 0 }

variable (x : Dyadic)

/-- The number `t · 10 ^ e` as a fraction over the denominator of `x`, both sides multiplied by the
second part to stay whole. -/
def gridPoint (t : Nat) (e : Int) : Nat × Nat :=
  if 0 ≤ e then (t * tenTo e.toNat * x.denominator, 1)
  else (t * x.denominator, tenTo (-e).toNat)

/-- The grid point `t · 10 ^ e` rounds to `x`. -/
def reads (t : Nat) (e : Int) : Bool :=
  let (p, q) := x.gridPoint t e
  if x.closed then x.lower * q ≤ p && p ≤ x.upper * q else x.lower * q < p && p < x.upper * q

/-- Twice the distance of `t · 10 ^ e` from `x` is at most that of the next grid point; a tie goes
to the even one. -/
def nearerBelow (t : Nat) (e : Int) : Bool :=
  let (below, q) := x.gridPoint t e
  let (above, _) := x.gridPoint (t + 1) e
  let down := x.numerator * q - below
  let up := above - x.numerator * q
  down < up || (down == up && t % 2 == 0)

/-- The number of decimal places before the point, not positive for a number below one tenth. -/
def pointPlace : Int :=
  if x.denominator ≤ x.numerator then (Nat.toDigits 10 (x.numerator / x.denominator)).length
  else
    let zeros := (List.range 400).find? fun j => x.denominator ≤ x.numerator * tenTo (j + 1)
    Int.negOfNat (zeros.getD 0)

/-- The grid point with `n` digits that reads back as `x`, if there is one: of the two neighbours
of `x` the nearer that does. -/
def candidate? (n : Nat) : Option (Nat × Int) :=
  let e := x.pointPlace - n
  let t := if 0 ≤ e then x.numerator / (x.denominator * tenTo e.toNat)
    else x.numerator * tenTo (-e).toNat / x.denominator
  match x.reads t e, x.reads (t + 1) e with
  | true, true => some (if x.nearerBelow t e then t else t + 1, e)
  | true, false => some (t, e)
  | false, true => some (t + 1, e)
  | false, false => none

/-- The fewest digits that read back as `x`, without zeros at the end, and the number of places
before the point. -/
def shortest : List Char × Int :=
  let (t, e) := ((List.range 17).findSome? fun n => x.candidate? (n + 1)).getD (0, 0)
  let digits := Nat.toDigits 10 t
  ((digits.reverse.dropWhile (· = '0')).reverse, e + digits.length)

end Dyadic

/-- Digits with the point after `place` of them, padded with zeros where it falls outside, and at
least one digit after it. -/
def positional (digits : List Char) (place : Int) : List Char :=
  if place ≤ 0 then
    '0' :: '.' :: List.replicate (-place).toNat '0' ++ digits
  else
    let n := place.toNat
    let whole := digits.take n ++ List.replicate (n - digits.length) '0'
    let rest := digits.drop n
    whole ++ '.' :: (if rest.isEmpty then ['0'] else rest)

/-- Digits with the point after the first, and a signed exponent of at least two digits. -/
def exponential (digits : List Char) (place : Int) : List Char :=
  let e := place - 1
  let tail := digits.drop 1
  let power := Nat.toDigits 10 e.natAbs
  digits.take 1 ++ (if tail.isEmpty then [] else '.' :: tail) ++
    ('e' :: (if e < 0 then '-' else '+') :: List.replicate (2 - power.length) '0' ++ power)

/-- The decimal text of a number: positional from `0.0001` up to sixteen places before the point,
else with an exponent. -/
def writeFloat (f : Float) : String :=
  if f.isNaN then "nan"
  else
    let body :=
      if f.isInf then ['i', 'n', 'f']
      else if Dyadic.fraction f = 0 ∧ Dyadic.exponent f = 0 then ['0', '.', '0']
      else
        let (digits, place) := (Dyadic.ofFloat f).shortest
        if -4 < place ∧ place ≤ 16 then positional digits place else exponential digits place
    String.ofList (if isNegative f then '-' :: body else body)

/-- The whole part of a finite number, cut toward zero. -/
def truncate (f : Float) : Int :=
  let x := Dyadic.ofFloat f
  let n : Int := if Dyadic.fraction f = 0 ∧ Dyadic.exponent f = 0 then 0
    else (x.numerator / x.denominator : Nat)
  if isNegative f then -n else n

end KernelCalls.Text
