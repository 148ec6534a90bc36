/-
# Numbers of 53 significant bits

The metrics are kept in binary floating point. The amounts that come up are neither negative nor
beyond the range of the exponent, so a number here is a mantissa and an exponent of two, and zero
has the mantissa zero. Every operation is exact arithmetic on natural numbers followed by one
rounding: to the nearest number, and of two equally near to the one with the even mantissa.

A number is written with the fewest decimal digits that are nearer to it than to any other number,
and of those with the nearest; a half goes up. There is no exponent in writing: the digits stand
where their places are.
-/

namespace StatusRelay

/-- The number `mantissa * 2 ^ exponent`. -/
structure Binary64 where
  mantissa : Nat
  exponent : Int
  deriving DecidableEq, Repr, Inhabited

namespace Binary64

/-- The number zero. -/
def zero : Binary64 := ⟨0, 0⟩

/-- The numerator and the denominator of a fraction times a power of a base. -/
def scaled (base num den : Nat) (exponent : Int) : Nat × Nat :=
  if 0 ≤ exponent then (num * Nat.pow base exponent.toNat, den)
  else (num, den * Nat.pow base (-exponent).toNat)

/-- A fraction rounded to a natural number, a half to the even neighbour. -/
def roundHalfEven (num den : Nat) : Nat :=
  let q := num / den
  let r := num % den
  if den < 2 * r ∨ 2 * r = den ∧ q % 2 = 1 then q + 1 else q

/-- The number nearest to a fraction. -/
def ofFraction (num den : Nat) : Binary64 :=
  if num = 0 then zero
  else
    let guess : Int := (Nat.log2 num : Int) - Nat.log2 den - 52
    let exponent :=
      let (n, d) := scaled 2 num den (-guess)
      if Nat.pow 2 52 ≤ n / d then guess else guess - 1
    let (n, d) := scaled 2 num den (-exponent)
    let mantissa := roundHalfEven n d
    if mantissa = Nat.pow 2 53 then ⟨Nat.pow 2 52, exponent + 1⟩ else ⟨mantissa, exponent⟩

/-- The number nearest to a natural number. -/
def ofNat (n : Nat) : Binary64 := ofFraction n 1

/-- The fraction that a number is. -/
def toFraction (x : Binary64) : Nat × Nat := scaled 2 x.mantissa 1 x.exponent

/-- The sum of two numbers. -/
def add (x y : Binary64) : Binary64 :=
  let (a, b) := x.toFraction
  let (c, d) := y.toFraction
  ofFraction (a * d + c * b) (b * d)

instance : Add Binary64 := ⟨add⟩

/-! ### In writing -/

/-- The place of the first digit of a positive fraction: the exponent of the largest power of ten
that is not above it, searched from a place that is not below it. -/
def leadingPlace (num den : Nat) (place : Int) : Nat → Int
  | 0 => place
  | steps + 1 =>
    let (n, d) := scaled 10 num den (-place)
    if d ≤ n then place else leadingPlace num den (place - 1) steps

/-- Whether a fraction is nearer to a number than to any other. The ends of the interval, which
are as near to a neighbour, belong to it if the mantissa is even. -/
def isNearest (x : Binary64) (num den : Nat) : Bool :=
  let below : Nat := if x.mantissa = Nat.pow 2 52 then 1 else 2
  let (lowNum, lowDen) := scaled 2 (4 * x.mantissa - below) 1 (x.exponent - 2)
  let (highNum, highDen) := scaled 2 (4 * x.mantissa + 2) 1 (x.exponent - 2)
  if x.mantissa % 2 = 0 then lowNum * den ≤ num * lowDen && num * highDen ≤ highNum * den
  else decide (lowNum * den < num * lowDen) && decide (num * highDen < highNum * den)

/-- The digits and the place of the last one: the first number of digits, from `count` on, that
has a hit. -/
def shortest (x : Binary64) (place : Int) (count : Nat) : Nat → Nat × Int
  | 0 => (0, 0)
  | more + 1 =>
    let (num, den) := x.toFraction
    let last := place - count + 1
    let (n, d) := scaled 10 num den (-last)
    let hits (digits : Nat) : Bool :=
      let (a, b) := scaled 10 digits 1 last
      x.isNearest a b
    let low := n / d
    let near := if d ≤ 2 * (n % d) then low + 1 else low
    let other := if near = low then low + 1 else low
    if hits near then (near, last)
    else if hits other then (other, last)
    else shortest x place (count + 1) more

/-- The digits of a number with a point before the place zero. -/
def positional (digits : Nat) (last : Int) : String :=
  if 0 ≤ last then toString digits ++ String.ofList (List.replicate last.toNat '0')
  else
    let places := (-last).toNat
    let text := (toString digits).toList
    let text := List.replicate (places + 1 - text.length) '0' ++ text
    let (whole, part) := text.splitAt (text.length - places)
    String.ofList (whole ++ '.' :: part)

/-- A number in writing. -/
def write (x : Binary64) : String :=
  if x.mantissa = 0 then "0"
  else
    let (num, den) := x.toFraction
    let start : Int := (toString (num / den)).length - 1
    let place := leadingPlace num den start (Nat.log2 den + 1)
    let (digits, last) := x.shortest place 1 17
    positional digits last

end Binary64
end StatusRelay
