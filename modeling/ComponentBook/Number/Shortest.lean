import ComponentBook.Number.Double

/-! # The shortest decimal of a double

A double is written with the fewest digits that no other double is nearer to. **`Double.shortest`**
looks for them on the decimal grids of one, two, … digits: of the two neighbours of the number on a
grid it takes the nearer one that reads back. **`Double.text`** writes them, with a point when the
number is at least 10⁻⁴ and below 10¹⁶, and with a power of ten otherwise. -/

namespace ComponentBook.Double

/-- The power of ten of the first digit of the fraction `n / d`. -/
def leadingPower (n d : Nat) : Int :=
  let guess := Int.fdiv (((n.log2 : Int) - d.log2 - 1) * 30103) 100000
  let atLeast (power : Int) : Bool :=
    match power with
    | .ofNat k => d * Nat.pow 10 k ≤ n
    | .negSucc k => d ≤ n * Nat.pow 10 (k + 1)
  if atLeast (guess + 1) then guess + 1 else if atLeast guess then guess else guess - 1

/-- A fraction divided by a power of ten. -/
def scaleDecimal (n d : Nat) (power : Int) : Nat × Nat :=
  match power with
  | .ofNat k => (n, d * Nat.pow 10 k)
  | .negSucc k => (n * Nat.pow 10 (k + 1), d)

/-- The digits of a number on the grid of multiples of `10 ^ power` that reads back, if one of the two
around the number does. The number is `4 · m` and the numbers that read back as it lie between `low`
and `high`, ends included when `m` is even, all in units of `n / d` over four. -/
def onGrid? (m low high n d : Nat) (power : Int) : Option Nat :=
  let (a, b) := scaleDecimal n d power
  let below := 4 * m * a / b
  let readsBack (digits : Nat) : Bool :=
    if m % 2 = 0 then low * a ≤ digits * b ∧ digits * b ≤ high * a
    else low * a < digits * b ∧ digits * b < high * a
  let undershoot := 4 * m * a - below * b
  let overshoot := (below + 1) * b - 4 * m * a
  let lowerFirst : Bool := undershoot < overshoot || (undershoot = overshoot && below % 2 = 0)
  let candidates := if lowerFirst then [below, below + 1] else [below + 1, below]
  candidates.find? readsBack

/-- The digits of a number on the first grid that has some, with the power of ten of the last
digit. -/
def searchGrids (m low high n d : Nat) : (grids : Nat) → Int → Nat × Int
  | 0, power => (4 * m * n / d, power)
  | grids + 1, power =>
    match onGrid? m low high n d power with
    | some digits => (digits, power)
    | none => searchGrids m low high n d grids (power - 1)

/-- The fewest digits that read back as `m · 2 ^ exponent`, and the power of ten of the last one. -/
def shortest (m : Nat) (exponent : Int) : Nat × Int :=
  let (n, d) := scaleDown 1 4 (-exponent)
  -- below a power of two the doubles lie twice as close
  let low := if m = Nat.pow 2 52 ∧ leastExponent < exponent then 4 * m - 1 else 4 * m - 2
  searchGrids m low (4 * m + 2) n d 17 (leadingPower (4 * m * n) d)

/-- Digits without the zeros at their end. -/
def withoutZeros (digits : Text) (power : Int) : Text × Int :=
  let kept := digits.dropRightWhile (· = '0')
  (kept, power + (digits.length - kept.length : Nat))

/-- The text of digits with a point, or with a power of ten when there would be many zeros. -/
def layout (digits : Text) (power : Int) : Text :=
  let leading := power + digits.length - 1
  if -4 ≤ leading ∧ leading < 16 then
    if 0 ≤ power then digits ++ List.replicate power.toNat '0' ++ ['.', '0']
    else if 0 ≤ leading then
      digits.take (leading + 1).toNat ++ '.' :: digits.drop (leading + 1).toNat
    else '0' :: '.' :: List.replicate (-leading - 1).toNat '0' ++ digits
  else
    let size := Text.decimal leading.natAbs
    let padded := if size.length < 2 then '0' :: size else size
    digits.take 1 ++ (if digits.length = 1 then [] else '.' :: digits.drop 1) ++
      ['e', if leading < 0 then '-' else '+'] ++ padded

/-- The text of a double. -/
def text : Double → Text
  | .undefined => "nan".toList
  | .infinite negative => (if negative then ['-'] else []) ++ "inf".toList
  | .finite negative m exponent =>
    (if negative then ['-'] else []) ++
      if m = 0 then "0.0".toList else
      let (digits, power) := shortest m exponent
      let (digits, power) := withoutZeros (Text.decimal digits) power
      layout digits power

end ComponentBook.Double
