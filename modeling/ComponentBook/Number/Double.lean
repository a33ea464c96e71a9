import ComponentBook.Text.Basic

/-! # Binary numbers of double precision

A **`Double`** is a whole number below 2⁵³ times a power of two that is at least 2⁻¹⁰⁷⁴, or infinite,
or no number at all. A fraction becomes the nearest double, and of two that are equally near the one
with the even whole number (**`Double.ofFraction`**); decimals, whole numbers, sums and products are
rounded that way. -/

namespace ComponentBook

/-- A binary number of double precision. -/
inductive Double where
  /-- The number `mantissa · 2 ^ exponent`, negative or not. -/
  | finite (negative : Bool) (mantissa : Nat) (exponent : Int)
  /-- A number larger than every finite one, or its negative. -/
  | infinite (negative : Bool)
  /-- No number. -/
  | undefined
  deriving DecidableEq, Repr

namespace Double

/-- The quotient of two numbers as the nearest whole number; a half goes to the even neighbour. -/
def roundDiv (n d : Nat) : Nat :=
  if d < 2 * (n % d) ∨ d = 2 * (n % d) ∧ n / d % 2 = 1 then n / d + 1 else n / d

/-- The smallest power of two that a double has. -/
def leastExponent : Int := -1074

/-- The largest power of two that a double has. -/
def greatestExponent : Int := 971

/-- Zero. -/
def zero (negative : Bool) : Double := .finite negative 0 leastExponent

/-- `n / d` with the denominator, or else the numerator, multiplied by a power of two. -/
def scaleDown (n d : Nat) (exponent : Int) : Nat × Nat :=
  match exponent with
  | .ofNat k => (n, d * Nat.pow 2 k)
  | .negSucc k => (n * Nat.pow 2 (k + 1), d)

/-- The double nearest to `n / d`. -/
def ofFraction (negative : Bool) (n d : Nat) : Double :=
  if n = 0 then zero negative else
  let guess : Int := (n.log2 : Int) - d.log2 - 52
  let (a, b) := scaleDown n d guess
  -- the guess is too large by one at most
  let exponent := max (if a < b * Nat.pow 2 52 then guess - 1 else guess) leastExponent
  let (a, b) := scaleDown n d exponent
  let m := roundDiv a b
  -- rounding up may have carried over
  let (m, exponent) := if m = Nat.pow 2 53 then (Nat.pow 2 52, exponent + 1) else (m, exponent)
  if greatestExponent < exponent then .infinite negative else .finite negative m exponent

/-- The double nearest to `m · 2 ^ exponent`. -/
def ofBinary (negative : Bool) (m : Nat) (exponent : Int) : Double :=
  match exponent with
  | .ofNat k => ofFraction negative (m * Nat.pow 2 k) 1
  | .negSucc k => ofFraction negative m (Nat.pow 2 (k + 1))

/-- The double nearest to `digits · 10 ^ exponent`. Numbers far outside the range of doubles are
settled by their size. -/
def ofDecimal (negative : Bool) (digits : Nat) (exponent : Int) : Double :=
  if digits = 0 then zero negative else
  let size : Int := (Text.decimal digits).length + exponent
  if 400 < size then .infinite negative
  else if size < -400 then zero negative
  else match exponent with
    | .ofNat k => ofFraction negative (digits * Nat.pow 10 k) 1
    | .negSucc k => ofFraction negative digits (Nat.pow 10 (k + 1))

/-- The double nearest to a whole number; none when that is too large for a finite one. -/
def ofInt? (n : Int) : Option Double :=
  match ofFraction (n < 0) n.natAbs 1 with
  | .infinite _ => none
  | x => some x

/-- The number with the other sign. -/
def neg : Double → Double
  | .finite s m e => .finite (!s) m e
  | .infinite s => .infinite (!s)
  | .undefined => .undefined

/-- The sum of two numbers. -/
def add : Double → Double → Double
  | .finite s m e, .finite t n f =>
    let least := min e f
    let signed (s : Bool) (m : Nat) (e : Int) : Int :=
      (if s then -1 else 1) * (m * Nat.pow 2 (e - least).toNat : Nat)
    let total := signed s m e + signed t n f
    if total = 0 then zero (s && t) else ofBinary (total < 0) total.natAbs least
  | .infinite s, .infinite t => if s = t then .infinite s else .undefined
  | .infinite s, .finite .. | .finite .., .infinite s => .infinite s
  | .undefined, _ | _, .undefined => .undefined

/-- The product of two numbers. -/
def mul : Double → Double → Double
  | .finite s m e, .finite t n f => ofBinary (s != t) (m * n) (e + f)
  | .infinite s, .finite t m _ | .finite t m _, .infinite s =>
    if m = 0 then .undefined else .infinite (s != t)
  | .infinite s, .infinite t => .infinite (s != t)
  | .undefined, _ | _, .undefined => .undefined

/-- The whole number that a double is. -/
def toInt? : Double → Option Int
  | .finite s m e =>
    let (n, d) := scaleDown m 1 (-e)
    if n % d = 0 then some ((if s then -1 else 1) * (n / d : Nat)) else none
  | .infinite _ | .undefined => none

/-- The number is greater than zero. -/
def isPositive : Double → Bool
  | .finite s m _ => !s && m ≠ 0
  | .infinite s => !s
  | .undefined => false

/-- The number is zero, with either sign. -/
def isZero : Double → Bool
  | .finite _ m _ => m = 0
  | _ => false

end Double

end ComponentBook
