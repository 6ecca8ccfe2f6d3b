/-!
# Binary floating point

Numbers of the form `± m · 2 ^ e` as the two interchange formats of 32 and 64 bits hold them. One
definition carries all arithmetic: `Layout.round` takes an exact quotient to the nearest number of a
layout, a tie going to the even mantissa. Reading a decimal, multiplying, dividing and narrowing
are that rounding applied to the exact result.
-/

namespace ToolAgent

/-- A binary floating point number; a finite one is `± mantissa · 2 ^ exponent`. -/
inductive Binary
  | nan
  | infinite (negative : Bool)
  | finite (negative : Bool) (mantissa : Nat) (exponent : Int)
deriving DecidableEq, Repr, Inhabited

namespace Binary

/-- Which numbers a storage format holds: mantissas below `2 ^ precision`, with exponents from
`lowest` to `highest`. -/
structure Layout where
  precision : Nat
  lowest : Int
  highest : Int

/-- The 64-bit format. -/
def double : Layout := ⟨53, -1074, 971⟩

/-- The 32-bit format. -/
def single : Layout := ⟨24, -149, 104⟩

/-- The integer nearest to `num / den`; a half goes to the even neighbour. -/
def roundHalfEven (num den : Nat) : Nat :=
  let q := num / den
  let r := num % den
  if 2 * r < den then q
  else if 2 * r = den then (if q % 2 = 0 then q else q + 1)
  else q + 1

/-- The quotient `num / (den · 2 ^ e)` as a numerator and a denominator. -/
def scale (num den : Nat) (e : Int) : Nat × Nat :=
  if 0 ≤ e then (num, den * Nat.pow 2 e.toNat) else (num * Nat.pow 2 (-e).toNat, den)

/-- The number of the layout nearest to `± num / den`, for a positive `den`. -/
def Layout.round (L : Layout) (negative : Bool) (num den : Nat) : Binary :=
  if num = 0 then .finite negative 0 L.lowest
  else
    let e₀ : Int := (num.log2 : Int) - den.log2 - L.precision
    let s₀ := scale num den e₀
    let e₁ := if s₀.1 / s₀.2 < Nat.pow 2 L.precision then e₀ else e₀ + 1
    let e := max e₁ L.lowest
    let s := scale num den e
    let m := roundHalfEven s.1 s.2
    let (m, e) := if m = Nat.pow 2 L.precision then (Nat.pow 2 (L.precision - 1), e + 1) else (m, e)
    if L.highest < e then .infinite negative else .finite negative m e

/-- The number of the layout nearest to `± mantissa · 2 ^ exponent`. -/
def Layout.roundBinary (L : Layout) (negative : Bool) (mantissa : Nat) (exponent : Int) : Binary :=
  if 0 ≤ exponent then L.round negative (mantissa * Nat.pow 2 exponent.toNat) 1
  else L.round negative mantissa (Nat.pow 2 (-exponent).toNat)

/-- The number of the layout nearest to `± digits · 10 ^ power`. -/
def Layout.roundDecimal (L : Layout) (negative : Bool) (digits : Nat) (power : Int) : Binary :=
  if digits = 0 then .finite negative 0 L.lowest
  else if 400 < power then .infinite negative
  else if power < -400 - (digits.log2 : Int) then .finite negative 0 L.lowest
  else if 0 ≤ power then L.round negative (digits * Nat.pow 10 power.toNat) 1
  else L.round negative digits (Nat.pow 10 (-power).toNat)

/-- The same number, as the layout holds it. -/
def Layout.fit (L : Layout) : Binary → Binary
  | .finite negative m e => L.roundBinary negative m e
  | x => x

/-- The product, rounded to the layout. -/
def Layout.mul (L : Layout) : Binary → Binary → Binary
  | .finite s m e, .finite t n f => L.roundBinary (s != t) (m * n) (e + f)
  | _, _ => .nan

/-- The quotient of two finite numbers, rounded to the layout. -/
def Layout.div (L : Layout) : Binary → Binary → Binary
  | .finite s m e, .finite t n f =>
    if n = 0 then .nan
    else
      let d := e - f
      if 0 ≤ d then L.round (s != t) (m * Nat.pow 2 d.toNat) n
      else L.round (s != t) m (n * Nat.pow 2 (-d).toNat)
  | _, _ => .nan

/-- Whether two numbers compare as equal: zeros do whatever their signs, and NaN does not even
compare as equal to itself. -/
def sameValue : Binary → Binary → Bool
  | .finite _ 0 _, .finite _ 0 _ => true
  | .nan, _ => false
  | x, y => x == y

end Binary

end ToolAgent
