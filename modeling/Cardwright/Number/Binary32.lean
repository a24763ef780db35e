import Cardwright.Text.Basic

/-!
# Binary32 numbers

Cooldowns and durations are IEEE 754 binary32 numbers. A finite one is a whole number of *units* of
`2 ^ -149`, so that comparing, rounding and printing it is arithmetic of natural numbers and every
result is exact.

* `nearest` is the binary32 number closest to a ratio, an even significand winning a tie.
* `tenths` is the text with one decimal, `text` the text with the fewest decimals that still reads
  back as the same number (`Digits.shortest?`).

Main statement: `Digits.nearest_of_shortest?` (the shortest digits read back).
-/

namespace Cardwright

/-- Quotient rounded to the nearest whole number, a half going to the even neighbour. -/
def roundHalfEven (num den : Nat) : Nat :=
  let q := num / den
  let r := num % den
  if 2 * r < den then q else if den < 2 * r then q + 1 else q + q % 2

/-- A binary32 floating-point number, given by its 32 bits. -/
structure Binary32 where
  bits : UInt32
deriving DecidableEq, Repr

namespace Binary32

/-! ### Value -/

/-- What the bits stand for. `finite negative units` is `units * 2 ^ -149`, up to sign. -/
inductive Value
  | nan
  | infinite (negative : Bool)
  | finite (negative : Bool) (units : Nat)
deriving DecidableEq, Repr

/-- The number of units in one. -/
def unitsPerOne : Nat := 1 <<< 149

/-- The bit of the sign. -/
def signBit : Nat := 1 <<< 31

/-- The lowest bit of the exponent, above the 23 bits of the fraction. -/
def exponentBit : Nat := 1 <<< 23

/-- Whether the sign is a minus. -/
def isNegative (x : Binary32) : Bool := signBit ≤ x.bits.toNat

/-- Decode the bits: sign, eight bits of exponent, 23 bits of fraction. -/
def value (x : Binary32) : Value :=
  let exponent := x.bits.toNat / exponentBit % 256
  let fraction := x.bits.toNat % exponentBit
  if exponent = 255 then (if fraction = 0 then .infinite x.isNegative else .nan)
  else if exponent = 0 then .finite x.isNegative fraction
  else .finite x.isNegative ((exponentBit + fraction) <<< (exponent - 1))

/-- A positive number and its negative differ in the first bit. -/
def ofMagnitude (negative : Bool) (magnitude : Nat) : Binary32 :=
  ⟨UInt32.ofNat (magnitude + if negative then signBit else 0)⟩

/-- The bits of infinity, above those of every finite magnitude. -/
def infinityBits : Nat := 255 * exponentBit

def nan : Binary32 := ⟨0x7FC00000⟩

def infinity (negative : Bool) : Binary32 := ofMagnitude negative infinityBits

/-- The number nearest to `num / den`, an even significand winning a tie and everything beyond the
largest finite number becoming infinite. Numbers with the same exponent are `2 ^ scale` units apart
and have `24` bits of significand; magnitudes in order are bits in order, so a significand that is
rounded up to the next power of two moves to the next exponent by itself. -/
def nearest (negative : Bool) (num den : Nat) : Binary32 :=
  let units := num * unitsPerOne
  let scale := (units / den).log2 - 23
  let significand := roundHalfEven units (den <<< scale)
  ofMagnitude negative (min (scale * exponentBit + significand) infinityBits)

/-- A power of ten. -/
def powerOfTen : Nat → Nat
  | 0 => 1
  | e + 1 => 10 * powerOfTen e

/-- The number nearest to `digits * 10 ^ exponent`. The exponents that are out of range for any
digits of the given number are answered before a power is computed. -/
def nearestDecimal (negative : Bool) (digits : Nat) (exponent : Int) : Binary32 :=
  let places : Int := (Text.decimal digits).length
  if digits = 0 ∨ places + exponent < -50 then ofMagnitude negative 0
  else if 50 < places + exponent then infinity negative
  else
    match exponent with
    | .ofNat e => nearest negative (digits * powerOfTen e) 1
    | .negSucc e => nearest negative digits (powerOfTen (e + 1))

/-- A whole number of half seconds. -/
def ofHalves (halves : Nat) : Binary32 := nearest false halves 2

/-! ### Comparison -/

/-- Numeric order: nothing is less than, or greater than, a number that is not one. -/
def lt (x y : Binary32) : Bool :=
  let sign : Bool → Int → Int := fun negative n => if negative then -n else n
  match x.value, y.value with
  | .nan, _ | _, .nan => false
  | .infinite a, .infinite b => a && !b
  | .infinite a, .finite .. => a
  | .finite .., .infinite b => !b
  | .finite a m, .finite b n => sign a m < sign b n

/-- Numeric equality: the two zeros are equal, and `nan` differs from itself. -/
def numEq (x y : Binary32) : Bool :=
  match x.value, y.value with
  | .nan, _ | _, .nan => false
  | .finite a m, .finite b n => (m == 0 && n == 0) || (a == b && m == n)
  | v, w => v == w

/-! ### Text with one decimal -/

/-- The sign in front of a text. -/
def signed (negative : Bool) (t : Text) : Text := if negative then '-' :: t else t

/-- The value rounded to one decimal, a half going to the even digit. -/
def tenths (x : Binary32) : Text :=
  match x.value with
  | .nan => "NaN"
  | .infinite negative => signed negative "inf"
  | .finite negative units =>
    let n := roundHalfEven (units * 10) unitsPerOne
    signed negative (Text.decimal (n / 10) ++ '.' :: Text.decimal (n % 10))

/-! ### Shortest text -/

/-- The decimal number `digits * 10 ^ exponent`. -/
structure Digits where
  digits : Nat
  exponent : Int
deriving DecidableEq, Repr

namespace Digits

/-- The closer of a value's neighbours on the grid of the multiples of `10 ^ exponent` that read
back as `x`, the upper one if they are equally close. -/
def onGrid? (x : Binary32) (units : Nat) (exponent : Int) : Option Digits :=
  let num := units * powerOfTen (-exponent).toNat
  let den := unitsPerOne * powerOfTen exponent.toNat
  let low := num / den
  let rest := num % den
  let candidates := if 2 * rest < den then [low, low + 1] else [low + 1, low]
  (candidates.map fun n => ⟨n, exponent⟩).find? fun d =>
    nearestDecimal x.isNegative d.digits d.exponent = x

/-- The digits on the coarsest decimal grid that has a point which reads back as `x`. -/
def shortest? (x : Binary32) (units : Nat) : Option Digits :=
  (List.range 100).findSome? fun (i : Nat) => onGrid? x units (40 - (i : Int))

/-- The shortest digits read back as the number they were found for. -/
theorem nearest_of_shortest? {x : Binary32} {units : Nat} {d : Digits}
    (h : shortest? x units = some d) :
    nearestDecimal x.isNegative d.digits d.exponent = x := by
  obtain ⟨i, _, hi⟩ := List.exists_of_findSome?_eq_some h
  simpa using List.find?_some hi

/-- The digits in positional notation, without an exponent. -/
def text (d : Digits) : Text :=
  match d.exponent with
  | .ofNat e => Text.decimal (d.digits * powerOfTen e)
  | .negSucc e =>
    let places := e + 1
    let ds := Text.decimal d.digits
    let padded := List.replicate (places + 1 - ds.length) '0' ++ ds
    padded.take (padded.length - places) ++ '.' :: padded.drop (padded.length - places)

end Digits

/-- The shortest positional text, with `.0` behind a whole number. -/
def text (x : Binary32) : Text :=
  match x.value with
  | .nan => "NaN"
  | .infinite negative => signed negative "inf"
  | .finite negative units =>
    let shortest :=
      if units = 0 then ['0'] else ((Digits.shortest? x units).map Digits.text).getD []
    signed negative (shortest ++ if units % unitsPerOne = 0 then ".0".toList else [])

end Binary32

end Cardwright
