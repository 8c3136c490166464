/-!
Non-negative binary64 numbers as exact data, with rounding, products and quotients in natural numbers.

A magnitude is `mant * 2 ^ exp`. Rounding goes to the nearest magnitude, and of two equally near ones to
the one whose mantissa is even; what is too large for the format has no magnitude.
-/

set_option autoImplicit false
set_option relaxedAutoImplicit false

namespace LintBridge.Decimal

/-- The number `mant * 2 ^ exp`. Rounding makes only such pairs as binary64 holds: a mantissa below
`2 ^ 53`, an exponent from `-1074` to `971`, and the exponent as small as the mantissa allows. -/
structure Magnitude where
  mant : Nat
  exp : Int
  deriving DecidableEq, Repr

/-- A binary64 number that is not infinite: a magnitude and whether a minus sign stands before it.
Zero has both signs. -/
structure Binary64 where
  negative : Bool
  magnitude : Magnitude
  deriving DecidableEq, Repr

namespace Magnitude

def minExp : Int := -1074

def maxExp : Int := 971

def zero : Magnitude := ⟨0, minExp⟩

def isZero (x : Magnitude) : Bool := x.mant == 0

/-- The quotient of `num` by `den`, to the nearest natural number, a half going to the even one. -/
def roundDiv (num den : Nat) : Nat :=
  let q := num / den
  let twice := 2 * (num % den)
  if twice < den then q
  else if den < twice then q + 1
  else if q % 2 = 0 then q else q + 1

def scaledDiv (num den : Nat) (exp : Int) : Nat :=
  match exp with
  | .ofNat e => roundDiv num (den * Nat.pow 2 e)
  | .negSucc e => roundDiv (num * Nat.pow 2 (e + 1)) den

/-- The exponent that gives `num / den` a mantissa of 53 bits, but at least the smallest exponent. -/
def exponentFor (num den : Nat) : Int :=
  let guess : Int := (Nat.log2 num : Int) - (Nat.log2 den : Int) - 52
  let reached : Bool :=
    match guess with
    | .ofNat e => decide (den * Nat.pow 2 e * Nat.pow 2 52 ≤ num)
    | .negSucc e => decide (den * Nat.pow 2 52 ≤ num * Nat.pow 2 (e + 1))
  max minExp (if reached then guess else guess - 1)

/-- The magnitude nearest to `num / den`, if binary64 reaches that far; `den` is not zero. -/
def ofRatio? (num den : Nat) : Option Magnitude :=
  if num = 0 then some zero
  else
    let e := exponentFor num den
    let m := scaledDiv num den e
    let x : Magnitude := if m = Nat.pow 2 53 then ⟨Nat.pow 2 52, e + 1⟩ else ⟨m, e⟩
    if maxExp < x.exp then none else some x

/-- A magnitude as a ratio of natural numbers. -/
def ratio (x : Magnitude) : Nat × Nat :=
  match x.exp with
  | .ofNat e => (x.mant * Nat.pow 2 e, 1)
  | .negSucc e => (x.mant, Nat.pow 2 (e + 1))

def ofNat? (n : Nat) : Option Magnitude := ofRatio? n 1

def mul? (x y : Magnitude) : Option Magnitude :=
  ofRatio? (x.ratio.1 * y.ratio.1) (x.ratio.2 * y.ratio.2)

def div? (x y : Magnitude) : Option Magnitude :=
  ofRatio? (x.ratio.1 * y.ratio.2) (x.ratio.2 * y.ratio.1)

/-- `x` times a power of ten, rounded once for the power and once for the product or quotient. A power
beyond `10 ^ 308` is taken off in steps, each with a rounding of its own. Nothing is answered where the
result is out of range; `fuel` bounds the steps and is enough when it exceeds `|e| / 308`. -/
def scaleTen? : Nat → Magnitude → Int → Option Magnitude
  | 0, _, _ => none
  | fuel + 1, x, e =>
    if e.natAbs ≤ 308 then
      (ofNat? (Nat.pow 10 e.natAbs)).bind fun p => if 0 ≤ e then x.mul? p else x.div? p
    else if x.isZero then some x
    else if 0 ≤ e then none
    else
      ((ofNat? (Nat.pow 10 308)).bind x.div?).bind fun y => scaleTen? fuel y (e + 308)

end Magnitude
end LintBridge.Decimal
