import Cardwright.Number.Binary32

/-!
# Decimal numerals

A decimal numeral is an optional sign, digits with at most one point between or beside them, and an
optional power of ten. `Binary32.ofText?` reads one as the nearest binary32 number, next to the
names of infinity and of `NaN`.
-/

namespace Cardwright

/-- A decimal numeral: `digits * 10 ^ exponent`, up to sign. -/
structure Decimal where
  negative : Bool
  digits : Nat
  exponent : Int
deriving DecidableEq, Repr

namespace Decimal

/-- The value of a digit in a base up to sixteen, letters of either case being digits from ten on.
-/
def digit? (base : Nat) (c : Char) : Option Nat :=
  let value :=
    if c.isDigit then some (c.toNat - '0'.toNat)
    else if 'a' ≤ c ∧ c ≤ 'f' then some (c.toNat - 'a'.toNat + 10)
    else if 'A' ≤ c ∧ c ≤ 'F' then some (c.toNat - 'A'.toNat + 10)
    else none
  value.filter (· < base)

/-- The number that some digits stand for; it takes at least one. -/
def natOfDigits? (base : Nat) : Text → Option Nat
  | [] => none
  | cs => cs.foldlM (fun n c => (digit? base c).map (base * n + ·)) 0

/-- Take the sign off the front. -/
def sign : Text → Bool × Text
  | '-' :: t => (true, t)
  | '+' :: t => (false, t)
  | t => (false, t)

/-- Read the power of ten behind the digits: nothing, or `e` and a whole number. -/
def power? : Text → Option Int
  | [] => some 0
  | c :: t =>
    if c = 'e' ∨ c = 'E' then
      let (negative, ds) := sign t
      (natOfDigits? 10 ds).map fun n => if negative then -(n : Int) else n
    else none

/-- Read a whole text as a decimal numeral. -/
def ofText? (t : Text) : Option Decimal := do
  let (negative, t) := sign t
  let whole := t.takeWhile Char.isDigit
  let (places, t) := match t.dropWhile Char.isDigit with
    | '.' :: t => (t.takeWhile Char.isDigit, t.dropWhile Char.isDigit)
    | t => ([], t)
  let digits ← natOfDigits? 10 (whole ++ places)
  let power ← power? t
  pure ⟨negative, digits, power - places.length⟩

end Decimal

/-- Read a whole text as a binary32 number. -/
def Binary32.ofText? (t : Text) : Option Binary32 :=
  let (negative, magnitude) := Decimal.sign t
  if magnitude = ("inf" : Text) then some (infinity negative)
  else if magnitude = ("NaN" : Text) then some nan
  else (Decimal.ofText? t).map fun d => nearestDecimal d.negative d.digits d.exponent

end Cardwright
