/-!
# The shortest decimal of a binary number

A finite positive double is `mantissa * 2 ^ exponent`.  Among the decimals that read back as it,
`shortest` takes those with the fewest digits and of these the nearest one.  All arithmetic is
exact, in natural numbers.  How a decimal is then laid out is said by a `Layout`.
-/

namespace Remedy.Decimal

/-- A positive double, taken apart: its value is `mantissa * 2 ^ exponent`. -/
structure Binary where
  mantissa : Nat
  exponent : Int
deriving DecidableEq

/-- The absolute value of the double with the given bits, if it is finite. -/
def Binary.ofBits? (bits : UInt64) : Option Binary :=
  let fraction : Nat := bits.toNat % Nat.pow 2 52
  let scale : Nat := bits.toNat / Nat.pow 2 52 % Nat.pow 2 11
  if scale = 2047 then none
  else if scale = 0 then some ⟨fraction, -1074⟩
  else some ⟨Nat.pow 2 52 + fraction, (scale : Int) - 1075⟩

/-- The number `digits * 10 ^ exponent`. -/
structure Scientific where
  digits : Nat
  exponent : Int
deriving DecidableEq

/-- The points of a decimal grid that round to a double, seen from the double. -/
structure Grid where
  /-- The largest grid point that is not above the value. -/
  floor : Nat
  /-- Whether that point reads back as the value. -/
  floorFits : Bool
  /-- Whether the next point reads back as the value. -/
  nextFits : Bool
  /-- How the next point compares with that point in nearness; less means nearer. -/
  nextNearer : Ordering

/-- The grid of the multiples of `10 ^ step` around a double. -/
def Binary.grid (value : Binary) (step : Int) : Grid :=
  let quarter := value.exponent - 2
  let up := Nat.pow 2 quarter.toNat * Nat.pow 10 (-step).toNat
  let down := Nat.pow 10 step.toNat * Nat.pow 2 (-quarter).toNat
  let isLowest := value.mantissa = Nat.pow 2 52 ∧ value.exponent ≠ -1074
  let low := (4 * value.mantissa - if isLowest then 1 else 2) * up
  let high := (4 * value.mantissa + 2) * up
  let middle := 4 * value.mantissa * up
  let closed := value.mantissa % 2 = 0
  let fits (point : Nat) : Bool :=
    (low < point && point < high) || (closed && (point == low || point == high))
  let floor := middle / down
  let next := floor + 1
  { floor
    floorFits := fits (floor * down)
    nextFits := fits (next * down)
    nextNearer := compare (next * down - middle) (middle - floor * down) }

/-- The power of ten of the first digit of a positive double. -/
def Binary.magnitude (value : Binary) : Int :=
  let above := value.mantissa * Nat.pow 10 400 * Nat.pow 2 value.exponent.toNat
  let lifted := above / Nat.pow 2 (-value.exponent).toNat
  ((Nat.toDigits 10 lifted).length : Int) - 401

/-- The point of the grid that reads back as the value, the nearer one if both neighbours do. -/
def Grid.hit? (grid : Grid) : Option Nat :=
  match grid.floorFits, grid.nextFits with
  | false, false => none
  | true, false => some grid.floor
  | false, true => some (grid.floor + 1)
  | true, true =>
      match grid.nextNearer with
      | .lt => some (grid.floor + 1)
      | .gt => some grid.floor
      | .eq => some (if grid.floor % 2 = 0 then grid.floor else grid.floor + 1)

/-- Tries grids of more and more digits until a point of one reads back. -/
def Binary.search (value : Binary) : Nat → Int → Scientific
  | 0, step => ⟨(value.grid step).floor, step⟩
  | tries + 1, step =>
      match (value.grid step).hit? with
      | some point => ⟨point, step⟩
      | none => value.search tries (step - 1)

/-- The decimal with the fewest digits that reads back as the double. -/
def Binary.shortest (value : Binary) : Scientific :=
  if value.mantissa = 0 then ⟨0, 0⟩ else value.search 17 value.magnitude

/-- Which decimals are written out in full. -/
structure Layout where
  /-- The smallest power of ten of a first digit that is written in full. -/
  lowest : Int
  /-- The largest one. -/
  highest : Int

/-- The sign and the digits of a power of ten behind its mark. -/
def exponentText (exponent : Int) : List Char :=
  (if exponent < 0 then '-' else '+') :: Nat.toDigits 10 exponent.natAbs

/-- Removes the zeros at the end of a list of digits, all but one digit at the most. -/
def dropZeros (digits : List Char) : List Char :=
  match (digits.reverse.dropWhile (· == '0')).reverse with
  | [] => ['0']
  | kept => kept

/--
Writes a decimal: in full with at least one digit on either side of the point, or with one digit
in front of the point and a power of ten with its sign.
-/
def Layout.write (layout : Layout) (value : Scientific) : List Char :=
  let all := Nat.toDigits 10 value.digits
  let first := value.exponent + all.length - 1
  let digits := dropZeros all
  if value.digits = 0 then ['0', '.', '0']
  else if layout.lowest ≤ first ∧ first < 0 then
    '0' :: '.' :: List.replicate (-first - 1).toNat '0' ++ digits
  else if 0 ≤ first ∧ first ≤ layout.highest then
    let whole := first.toNat + 1
    let padded := digits ++ List.replicate (whole - digits.length) '0'
    let fraction := padded.drop whole
    padded.take whole ++ '.' :: (if fraction = [] then ['0'] else fraction)
  else
    match digits with
    | [] => []
    | [d] => d :: 'e' :: exponentText first
    | d :: more => d :: '.' :: more ++ 'e' :: exponentText first

end Remedy.Decimal
