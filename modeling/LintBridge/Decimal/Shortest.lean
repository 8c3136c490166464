import LintBridge.Decimal.Binary64

/-!
The shortest decimal text that reads back as a given binary64 number.

`Magnitude.shortest` finds the digits: on the decimal grid with one significant digit, then two, and so
on, it tests the two grid points around the value, and takes the nearer one that rounds to the value.
`Binary64.text` lays the digits out.
-/

set_option autoImplicit false
set_option relaxedAutoImplicit false

namespace LintBridge.Decimal

/-- The number `digits * 10 ^ exp`. -/
structure Digits where
  digits : Nat
  exp : Int
  deriving DecidableEq, Repr

namespace Digits

/-- A decimal number as a ratio of natural numbers. -/
def ratio (d : Digits) : Nat × Nat :=
  match d.exp with
  | .ofNat e => (d.digits * Nat.pow 10 e, 1)
  | .negSucc e => (d.digits, Nat.pow 10 (e + 1))

/-- The same number without trailing zeros among its digits; `fuel` bounds how many go. -/
def strip : Nat → Digits → Digits
  | 0, d => d
  | fuel + 1, d =>
    if d.digits ≠ 0 ∧ d.digits % 10 = 0 then strip fuel ⟨d.digits / 10, d.exp + 1⟩ else d

end Digits

namespace Magnitude

/-- The largest `e` with `10 ^ e ≤ num / den`, searched downwards from `top`; `fuel` bounds the search. -/
def leadingExponent (num den : Nat) : Nat → Int → Int
  | 0, top => top
  | fuel + 1, top =>
    let reached : Bool :=
      match top with
      | .ofNat e => decide (den * Nat.pow 10 e ≤ num)
      | .negSucc e => decide (den ≤ num * Nat.pow 10 (e + 1))
    if reached then top else leadingExponent num den fuel (top - 1)

def distance (a b : Nat × Nat) : Nat × Nat :=
  let l := a.1 * b.2
  let r := b.1 * a.2
  ((l - r) + (r - l), a.2 * b.2)

def ratioLt (a b : Nat × Nat) : Bool := decide (a.1 * b.2 < b.1 * a.2)

def roundsFrom (x : Magnitude) (d : Digits) : Bool :=
  ofRatio? d.ratio.1 d.ratio.2 == some x

/-- The point of the grid `10 ^ e` that is nearest to `x` among its two neighbours there and rounds to
`x`; of two equally near ones, the one with the even last digit. -/
def onGrid? (x : Magnitude) (e : Int) : Option Digits :=
  let v := x.ratio
  let below : Nat :=
    match e with
    | .ofNat k => v.1 / (v.2 * Nat.pow 10 k)
    | .negSucc k => v.1 * Nat.pow 10 (k + 1) / v.2
  let low : Digits := ⟨below, e⟩
  let high : Digits := ⟨below + 1, e⟩
  match x.roundsFrom low, x.roundsFrom high with
  | true, true =>
    let toLow := distance low.ratio v
    let toHigh := distance high.ratio v
    if ratioLt toHigh toLow ∨ (ratioLt toLow toHigh = false ∧ below % 2 = 1) then some high else some low
  | true, false => some low
  | false, true => some high
  | false, false => none

/-- The first hit on the grids from `count` significant digits on; seventeen digits always hit. -/
def searchGrids (x : Magnitude) (lead : Int) : Nat → Nat → Digits
  | 0, _ => ⟨x.mant, 0⟩
  | fuel + 1, count =>
    match x.onGrid? (lead - count + 1) with
    | some d => d
    | none => searchGrids x lead fuel (count + 1)

/-- The shortest digits that round to a magnitude that is not zero, the nearest of them to its value. -/
def shortest (x : Magnitude) : Digits :=
  let v := x.ratio
  let top : Int := ((Nat.log2 v.1 : Int) - (Nat.log2 v.2 : Int) + 1) * 30103 / 100000 + 1
  let lead := leadingExponent v.1 v.2 8 top
  (searchGrids x lead 18 1).strip 17

end Magnitude

def zeros (n : Nat) : String := String.ofList (List.replicate n '0')

namespace Binary64

/-- The digits `digits` with the first of them worth `10 ^ lead`, in positional notation with at least
one digit on both sides of the point. -/
def positional (digits : List Char) (lead : Int) : String :=
  match lead with
  | .negSucc k => "0." ++ zeros k ++ String.ofList digits
  | .ofNat k =>
    if digits.length ≤ k + 1 then String.ofList digits ++ zeros (k + 1 - digits.length) ++ ".0"
    else String.ofList (digits.take (k + 1)) ++ "." ++ String.ofList (digits.drop (k + 1))

/-- The digits `digits` with the first of them worth `10 ^ lead`, in scientific notation: the exponent
has a sign. -/
def scientific (digits : List Char) (lead : Int) : String :=
  let mantissa :=
    match digits with
    | [] => ""
    | [d] => String.singleton d
    | d :: ds => String.singleton d ++ "." ++ String.ofList ds
  mantissa ++ "e" ++ (if lead < 0 then "-" else "+") ++ toString lead.natAbs

/-- The text of a number: its shortest digits, positional from `10 ^ -5` up to `10 ^ 15`. -/
def text (x : Binary64) : String :=
  let sign := if x.negative then "-" else ""
  if x.magnitude.isZero then sign ++ "0.0"
  else
    let d := x.magnitude.shortest
    let digits := Nat.toDigits 10 d.digits
    let lead := d.exp + (digits.length : Int) - 1
    sign ++ if -5 ≤ lead ∧ lead ≤ 15 then positional digits lead else scientific digits lead

end Binary64
end LintBridge.Decimal
