import SearchQuery.Number.Binary64

/-!
# Shortest decimals

A binary number is written with the fewest decimal digits that read back to it, and of the numbers
with so few digits with the nearest, a tie going to the even last digit.
-/

set_option autoImplicit false

namespace SearchQuery

/-- The number `significand * 10 ^ exponent`. -/
structure Decimal where
  significand : Nat
  exponent : Int
deriving DecidableEq

namespace Decimal

open SearchQuery.Text

/-- The exponents of ten whose numbers are written without an exponent. -/
def isPositional (exponent : Int) : Bool :=
  -4 ≤ exponent && exponent < 16

def layoutPositional (digits : Text) (point : Int) : Text :=
  if point ≤ 0 then "0." ++ List.replicate (-point).toNat '0' ++ digits
  else if (digits.length : Int) ≤ point then
    digits ++ List.replicate (point.toNat - digits.length) '0' ++ ".0"
  else digits.take point.toNat ++ '.' :: digits.drop point.toNat

def layoutScientific (digits : Text) (exponent : Int) : Text :=
  let fraction := if digits.length ≤ 1 then [] else '.' :: digits.drop 1
  let mark : Char := if exponent < 0 then '-' else '+'
  digits.take 1 ++ fraction ++ 'e' :: mark :: padStart '0' 2 (decimal exponent.natAbs)

/-- Positional with a point and at least one digit after it, or scientific with a signed exponent of
at least two digits. -/
def layout (d : Decimal) : Text :=
  let digits := decimal d.significand
  let point := (digits.length : Int) + d.exponent
  if isPositional (point - 1) then layoutPositional digits point
  else layoutScientific digits (point - 1)

end Decimal

namespace Binary64

/-- Four times a number and the ends of the interval that rounds to it, over a common unit.  The
interval is lopsided above a power of two, where the numbers below are closer together. -/
structure Neighbourhood where
  low : Nat
  center : Nat
  high : Nat
  unit : Nat
  closed : Bool

/-- The interval of `mantissa * 2 ^ exponent`, measured in steps of `10 ^ grid`. -/
def neighbourhood (mantissa : Nat) (exponent grid : Int) : Neighbourhood :=
  let lopsided := mantissa == 1 <<< 52 && decide (minExponent < exponent)
  let grow := Nat.pow 10 (-grid).toNat <<< (exponent - 2).toNat
  { low := (4 * mantissa - (if lopsided then 1 else 2)) * grow
    center := 4 * mantissa * grow
    high := (4 * mantissa + 2) * grow
    unit := Nat.pow 10 grid.toNat <<< (2 - exponent).toNat
    closed := mantissa % 2 == 0 }

def Neighbourhood.holds (n : Neighbourhood) (point : Nat) : Bool :=
  let position := point * n.unit
  if n.closed then n.low ≤ position && position ≤ n.high
  else n.low < position && position < n.high

/-- The grid point nearest to the center inside the interval, if there is one. -/
def Neighbourhood.nearest? (n : Neighbourhood) : Option Nat :=
  let below := n.center / n.unit
  let above := below + 1
  match n.holds below, n.holds above with
  | false, false => none
  | true, false => some below
  | false, true => some above
  | true, true =>
    let twice := 2 * (n.center % n.unit)
    some (if twice < n.unit then below
      else if n.unit < twice then above
      else if below % 2 = 0 then below else above)

/-- The decimal exponents on whose grids a number can fall, the coarsest first. -/
def grids : List Int :=
  (List.range 660).map fun (step : Nat) => 309 - (step : Int)

/-- The shortest decimal of a positive number. -/
def shortest (mantissa : Nat) (exponent : Int) : Decimal :=
  let hit := grids.findSome? fun grid =>
    (neighbourhood mantissa exponent grid).nearest?.map fun point => Decimal.mk point grid
  hit.getD ⟨0, 0⟩

def writeMagnitude (mantissa : Nat) (exponent : Int) : Text :=
  if mantissa = 0 then "0.0" else (shortest mantissa exponent).layout

def write : Binary64 → Text
  | .nan => "nan"
  | .infinite negative => (if negative then "-inf" else "inf" : String).toList
  | .finite negative mantissa exponent =>
    let magnitude := writeMagnitude mantissa exponent
    if negative then '-' :: magnitude else magnitude

end Binary64

end SearchQuery
