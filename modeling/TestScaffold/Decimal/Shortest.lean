/-
  TestScaffold.Decimal.Shortest — the fewest digits that name a binary fraction.

  A finite double is `m · 2^q`; every decimal closer to it than to its neighbours
  names it.  Of those with the fewest digits the nearest is chosen.

    * `Shortest.ofFloat` — the digits and the place of the point;
    * `Shortest.plain` — written out in full;
    * `Shortest.compact` — with an exponent for very large and very small numbers.
-/

namespace TestScaffold.Decimal

/-- A decimal number `0.d₁d₂… · 10^point`. -/
structure Shortest where
  /-- Whether a minus stands in front. -/
  negative : Bool
  /-- The digits, without zeros at the end. -/
  digits : List Char
  /-- The place of the point, counted from the first digit. -/
  point : Int
  deriving Repr, Inhabited

/-- A positive fraction. -/
structure Fraction where
  /-- Numerator. -/
  num : Nat
  /-- Denominator. -/
  den : Nat

namespace Fraction

/-- `n · 2^e`. -/
def scaleTwo (n : Nat) (e : Int) : Fraction :=
  if 0 ≤ e then ⟨n * Nat.pow 2 e.toNat, 1⟩ else ⟨n, Nat.pow 2 (-e).toNat⟩

/-- `x · 10^e`. -/
def scaleTen (x : Fraction) (e : Int) : Fraction :=
  if 0 ≤ e then ⟨x.num * Nat.pow 10 e.toNat, x.den⟩ else ⟨x.num, x.den * Nat.pow 10 (-e).toNat⟩

/-- The whole part. -/
def floor (x : Fraction) : Nat := x.num / x.den

/-- Whether one fraction is below another. -/
def lt (x y : Fraction) : Bool := x.num * y.den < y.num * x.den

/-- Whether one fraction is at most another. -/
def le (x y : Fraction) : Bool := x.num * y.den ≤ y.num * x.den

/-- The distance of two fractions. -/
def distance (x y : Fraction) : Fraction :=
  let a := x.num * y.den
  let b := y.num * x.den
  ⟨if a ≤ b then b - a else a - b, x.den * y.den⟩

end Fraction

/-- Zeros between the point and the first digit of a fraction below one, at most `fuel`. -/
def zerosAfterPoint (x : Fraction) : (fuel : Nat) → Nat
  | 0 => 0
  | fuel + 1 => if 0 < (x.scaleTen 1).floor then 0 else 1 + zerosAfterPoint (x.scaleTen 1) fuel

/-- The place of the point before the first digit of a positive fraction. -/
def pointOf (x : Fraction) : Int :=
  if 0 < x.floor then (Nat.toDigits 10 x.floor).length else -(zerosAfterPoint x 400 : Int)

/-- The decimals that name a number. -/
structure Interval where
  /-- Lower end. -/
  low : Fraction
  /-- The number. -/
  value : Fraction
  /-- Upper end. -/
  high : Fraction
  /-- Whether the ends belong to it. -/
  closed : Bool

/-- Whether a decimal names the number. -/
def Interval.contains (i : Interval) (x : Fraction) : Bool :=
  if i.closed then i.low.le x && x.le i.high else i.low.lt x && x.lt i.high

/-- The decimal with `count` digits nearest to the number, if one names it. -/
def Interval.nearest? (i : Interval) (point : Int) (count : Nat) : Option Nat :=
  let scale := (count : Int) - point
  let below := (i.value.scaleTen scale).floor
  let at_ (d : Nat) : Fraction := (Fraction.mk d 1).scaleTen (-scale)
  let hits := [below, below + 1].filter fun d => i.contains (at_ d)
  match hits with
  | [a, b] =>
    if (Fraction.distance (at_ b) i.value).lt (Fraction.distance (at_ a) i.value) then some b
    else some a
  | [a] => some a
  | _ => none

/-- The first decimal from `count` digits on that names the number, with its digit count. -/
def Interval.search (i : Interval) (point : Int) : (fuel count : Nat) → Nat × Nat
  | 0, count => ((i.nearest? point count).getD 0, count)
  | fuel + 1, count =>
    match i.nearest? point count with
    | some d => (d, count)
    | none => i.search point fuel (count + 1)

/-- Digits without the zeros at the end. -/
def dropZeros (digits : List Char) : List Char :=
  (digits.reverse.dropWhile (· == '0')).reverse

/-- The decimals that name `m · 2^q`; `narrow` says that the gap below is half the gap above. -/
def Interval.around (m : Nat) (q : Int) (narrow : Bool) : Interval :=
  { low := .scaleTwo (4 * m - (if narrow then 1 else 2)) (q - 2)
    value := .scaleTwo (4 * m) (q - 2)
    high := .scaleTwo (4 * m + 2) (q - 2)
    closed := m % 2 == 0 }

/-- The fewest digits that name a finite number. -/
def Shortest.ofFloat (x : Float) : Shortest :=
  let bits : Nat := x.toBits.toNat
  let negative := bits / Nat.pow 2 63 == 1
  let exponent : Nat := bits / Nat.pow 2 52 % Nat.pow 2 11
  let fraction : Nat := bits % Nat.pow 2 52
  let m : Nat := if exponent == 0 then fraction else fraction + Nat.pow 2 52
  let q : Int := (if exponent == 0 then 1 else (exponent : Int)) - 1075
  if m == 0 then { negative, digits := ['0'], point := 1 }
  else
    let i := Interval.around m q (fraction == 0 && 1 < exponent)
    let point := pointOf i.value
    let (found, count) := i.search point 17 1
    let digits := Nat.toDigits 10 found
    -- a run of nines may be rounded up to one more digit
    { negative, digits := dropZeros digits, point := point + ((digits.length : Int) - count) }

namespace Shortest

/-- The sign. -/
def sign (s : Shortest) : String := if s.negative then "-" else ""

/-- A run of zeros. -/
def zeros (n : Int) : List Char := List.replicate n.toNat '0'

/-- The digits with a point and without an exponent. -/
def positional (s : Shortest) : List Char :=
  let length : Int := s.digits.length
  if s.point ≤ 0 then '0' :: '.' :: zeros (-s.point) ++ s.digits
  else if length ≤ s.point then s.digits ++ zeros (s.point - length) ++ ['.', '0']
  else s.digits.take s.point.toNat ++ '.' :: s.digits.drop s.point.toNat

/-- The number written out in full, with at least one digit after the point. -/
def plain (s : Shortest) : String :=
  s.sign ++ String.ofList s.positional

/-- The number with an exponent unless its point lies close to its digits. -/
def compact (s : Shortest) : String :=
  if -5 < s.point && s.point ≤ 16 then s.plain
  else
    let exponent := 'e' :: (toString (s.point - 1)).toList
    match s.digits with
    | [d] => s.sign ++ String.ofList (d :: exponent)
    | d :: ds => s.sign ++ String.ofList (d :: '.' :: ds ++ exponent)
    | [] => s.sign ++ "0.0"

end Shortest

end TestScaffold.Decimal
