import ToolAgent.Number.Binary

/-!
# Shortest decimals

The decimal text of a floating point number is made of the fewest digits that read back as the same
number; of the decimals with that many digits it is the nearest. `shortest` finds the digits by
trying one digit, two digits, and so on: at each count only the two neighbours of the number on that
decimal grid can do.

A decimal is then written in one of two ways: positionally, or as one digit, a point, the others and
a power of ten.
-/

namespace ToolAgent

/-- The decimal `digits · 10 ^ power`. -/
structure Decimal where
  digits : Nat
  power : Int
deriving DecidableEq, Repr, Inhabited

namespace Binary

/-- The decimal digits of a number. -/
def digitsOf (n : Nat) : List Char := Nat.toDigits 10 n

/-- The power of ten of the first digit of `mantissa · 2 ^ exponent`. -/
def leadingPower (mantissa : Nat) (exponent : Int) : Int :=
  let lift : Nat := 400
  let s := scale (mantissa * Nat.pow 10 lift) 1 (-exponent)
  ((digitsOf (s.1 / s.2)).length : Int) - 1 - lift

/-- The neighbours of `num / den` among the multiples of `10 ^ power`: the lower one, and whether
the upper one is nearer. -/
def gridNeighbour (num den : Nat) (power : Int) : Nat × Bool :=
  let (n, d) := if 0 ≤ power then (num, den * Nat.pow 10 power.toNat)
    else (num * Nat.pow 10 (-power).toNat, den)
  (n / d, d < 2 * (n % d))

/-- The shortest decimal that rounds to `mantissa · 2 ^ exponent` in the layout `L`, both positive.
-/
def Layout.shortest (L : Layout) (mantissa : Nat) (exponent : Int) : Decimal :=
  let lead := leadingPower mantissa exponent
  let (num, den) := scale mantissa 1 (-exponent)
  let readsBack (d : Nat) (p : Int) := L.roundDecimal false d p == .finite false mantissa exponent
  let atCount (count : Nat) : Option Decimal :=
    let p := lead - count
    let (low, upperNearer) := gridNeighbour num den p
    let lowFits := readsBack low p
    let highFits := readsBack (low + 1) p
    if lowFits && highFits then some ⟨if upperNearer then low + 1 else low, p⟩
    else if lowFits then some ⟨low, p⟩
    else if highFits then some ⟨low + 1, p⟩
    else none
  ((List.range 20).findSome? atCount).getD ⟨mantissa, exponent⟩

end Binary

namespace Decimal

/-- The same decimal with no zeros at the end of its digits; `fuel` bounds their number. -/
def normal (fuel : Nat) (d : Decimal) : Decimal :=
  match fuel with
  | 0 => d
  | fuel + 1 =>
    if d.digits ≠ 0 && d.digits % 10 = 0 then normal fuel ⟨d.digits / 10, d.power + 1⟩ else d

/-- The power of ten of the first digit. -/
def lead (d : Decimal) : Int := (Binary.digitsOf d.digits).length - 1 + d.power

/-- Positional text; a number without a fraction gets `whole` at its end. -/
def positional (whole : String) (d : Decimal) : String :=
  let ds := Binary.digitsOf d.digits
  if 0 ≤ d.power then String.ofList (ds ++ List.replicate d.power.toNat '0') ++ whole
  else
    let places := (-d.power).toNat
    if places < ds.length then
      String.ofList (ds.take (ds.length - places) ++ '.' :: ds.drop (ds.length - places))
    else "0." ++ String.ofList (List.replicate (places - ds.length) '0' ++ ds)

/-- One digit, a point and the other digits if there are any, and the power of ten with its sign. -/
def scientific (d : Decimal) : String :=
  let ds := Binary.digitsOf d.digits
  let head := ds.take 1
  let rest := ds.drop 1
  let body := if rest.isEmpty then head else head ++ '.' :: rest
  let sign := if d.lead < 0 then "-" else "+"
  String.ofList body ++ "e" ++ sign ++ toString d.lead.natAbs

end Decimal

namespace Binary

/-- The sign of a number's text. -/
def signText (negative : Bool) : String := if negative then "-" else ""

/-- The shortest text in which decimal exponents from -5 to 15 are written positionally, always with
a point or an exponent. Numbers that are not finite have the text `null`. -/
def Layout.exponentText (L : Layout) : Binary → String
  | .finite negative 0 _ => signText negative ++ "0.0"
  | .finite negative m e =>
    let d := (L.shortest m e).normal 20
    signText negative ++
      (if -5 ≤ d.lead && d.lead ≤ 15 then d.positional ".0" else d.scientific)
  | _ => "null"

/-- The shortest positional text. -/
def Layout.plainText (L : Layout) : Binary → String
  | .nan => "NaN"
  | .infinite negative => signText negative ++ "inf"
  | .finite negative 0 _ => signText negative ++ "0"
  | .finite negative m e => signText negative ++ ((L.shortest m e).normal 20).positional ""

end Binary

end ToolAgent
