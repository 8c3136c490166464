import LintBridge.Url.Basic
import LintBridge.Url.HostName.Label

/-!
Reading the host of an address: a name, or a number in one of several forms.
-/

set_option autoImplicit false
set_option relaxedAutoImplicit false

namespace LintBridge.Host

/-! ### Numbers -/

def ofDigits (base : Nat) (ds : List Char) : Option Nat :=
  ds.foldlM (fun n d => (Percent.hexValue? d).bind fun v => if v < base then some (n * base + v) else none) 0

/-- A part of an address: decimal, or octal after a zero, or hexadecimal after a zero and an x. -/
def part? (cs : List Char) : Option Nat :=
  match cs with
  | [] => none
  | '0' :: 'x' :: ds => ofDigits 16 ds
  | '0' :: 'X' :: ds => ofDigits 16 ds
  | '0' :: d :: ds => ofDigits 8 (d :: ds)
  | ds => ofDigits 10 ds

def parts (name : List Char) : List (List Char) :=
  let ps := Text.splitWhere (· == '.') name
  if ps.length > 1 ∧ ps.getLast? = some [] then ps.dropLast else ps

/-- Whether a name is to be read as an address: its last part is a number. -/
def endsInNumber (name : List Char) : Bool :=
  match (parts name).getLast? with
  | none => false
  | some [] => false
  | some p => p.all Char.isDigit || (part? p).isSome

/-- An address of up to four parts, the last one filling what is left. -/
def ipv4? (name : List Char) : Option Nat := do
  let ps := parts name
  if ps.length > 4 then none
  let ns ← ps.mapM part?
  let last ← ns.getLast?
  let front := ns.dropLast
  if front.any (· > 255) || last ≥ Nat.pow 256 (4 - front.length) then none
  else some (front.zipIdx.foldl (fun sum (n, i) => sum + n * Nat.pow 256 (3 - i)) last)

def byte? (cs : List Char) : Option Nat :=
  if cs.length > 1 ∧ cs.head? = some '0' then none
  else if cs.isEmpty then none
  else (ofDigits 10 cs).filter (· < 256)

/-- The pieces at the end of an address that are written as bytes with dots between them. -/
def bytePieces? (cs : List Char) : Option (List Nat) :=
  match (Text.splitWhere (· == '.') cs).mapM byte? with
  | some [a, b, c, d] => some [a * 256 + b, c * 256 + d]
  | _ => none

def piece? (cs : List Char) : Option Nat :=
  if cs.isEmpty ∨ cs.length > 4 then none else ofDigits 16 cs

/-- Pieces with colons between them; the last ones may be written as bytes. -/
def pieces? (cs : List Char) : Option (List Nat) :=
  if cs.isEmpty then some []
  else
    let ps := Text.splitWhere (· == ':') cs
    match ps.reverse with
    | [] => none
    | last :: front => do
      let head ← front.reverse.mapM piece?
      let tail ← if last.contains '.' then bytePieces? last else (piece? last).map fun n => [n]
      pure (head ++ tail)

def cutAtGap : List Char → Option (List Char × List Char)
  | ':' :: ':' :: rest => some ([], rest)
  | c :: rest => (cutAtGap rest).map fun (l, r) => (c :: l, r)
  | [] => none

/-- An address of eight pieces, of which a run of zeros may be left out. -/
def ipv6? (cs : List Char) : Option (List Nat) :=
  match cutAtGap cs with
  | none => (pieces? cs).filter fun ps => ps.length == 8
  | some (left, right) => do
    let l ← if left.contains '.' then none else pieces? left
    let r ← pieces? right
    if l.length + r.length < 8 then
      some (l ++ List.replicate (8 - l.length - r.length) 0 ++ r)
    else none

/-! ### Hosts -/

def bracketed? (cs : List Char) : Option (List Char) :=
  if cs.getLast? = some ']' then some cs.dropLast else none

/-- An address between brackets, of which the first is gone. -/
def parseBracketed (cs : List Char) : Except UrlFault Host :=
  match (bracketed? cs).bind ipv6? with
  | some ps => .ok (.ipv6 ps)
  | none => .error .badIpv6

def parse (cs : List Char) : Except UrlFault Host :=
  match cs with
  | '[' :: rest => parseBracketed rest
  | cs =>
    match (Text.decode? (Percent.decode cs)).bind HostName.toAscii? with
    | none => .error .badDomain
    | some [] => .error .emptyHost
    | some name =>
      if endsInNumber name then
        match ipv4? name with
        | some a => .ok (.ipv4 a)
        | none => .error .badIpv4
      else .ok (.domain (String.ofList name))

def parseOpaque (cs : List Char) : Except UrlFault Host :=
  match cs with
  | '[' :: rest => parseBracketed rest
  | cs =>
    if cs.any fun c => HostName.forbidden.contains c || c.toNat == 0 then .error .badHostCharacter
    else .ok (.domain (String.ofList (Percent.encode [] cs)))

end LintBridge.Host
