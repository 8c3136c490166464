import LintBridge.Text.Utf8

/-!
Addresses: a scheme, and what the scheme is followed by.

An address is kept in its normal form, so that two addresses are the same if their texts are.
-/

set_option autoImplicit false
set_option relaxedAutoImplicit false

namespace LintBridge

inductive Host
  /-- A name, as it is written. -/
  | domain (name : String)
  | ipv4 (address : Nat)
  /-- Eight numbers of sixteen bits. -/
  | ipv6 (pieces : List Nat)
  deriving DecidableEq, Repr

inductive UrlPath
  /-- A text without steps. -/
  | plain (text : String)
  | steps (names : List String)
  deriving DecidableEq, Repr

structure Url where
  scheme : String
  username : String
  password : String
  host : Option Host
  port : Option Nat
  path : UrlPath
  query : Option String
  fragment : Option String
  deriving DecidableEq, Repr

inductive UrlFault
  | relative
  | emptyHost
  | badDomain
  | badHostCharacter
  | badIpv4
  | badIpv6
  | badPort
  deriving DecidableEq, Repr

def UrlFault.message : UrlFault → String
  | relative => "relative URL without a base"
  | emptyHost => "empty host"
  | badDomain => "invalid international domain name"
  | badHostCharacter => "invalid domain character"
  | badIpv4 => "invalid IPv4 address"
  | badIpv6 => "invalid IPv6 address"
  | badPort => "invalid port number"

def ipv4Text (a : Nat) : String :=
  String.intercalate "." ([a / 16777216, a / 65536 % 256, a / 256 % 256, a % 256].map toString)

/-- The start and the length of the first longest run of zeros that has more than one. -/
def longestZeros (pieces : List Nat) : Option (Nat × Nat) :=
  let runs := (List.range pieces.length).map fun i => (i, ((pieces.drop i).takeWhile (· == 0)).length)
  runs.foldl
    (fun best r =>
      if r.2 < 2 then best
      else match best with
        | none => some r
        | some b => if b.2 < r.2 then some r else best)
    none

/-- Eight numbers in hexadecimal digits, the longest run of zeros left out. -/
def ipv6Text (pieces : List Nat) : String :=
  let digits := fun (ns : List Nat) =>
    String.intercalate ":" (ns.map fun n => String.ofList (Nat.toDigits 16 n))
  match longestZeros pieces with
  | none => digits pieces
  | some (start, length) =>
    digits (pieces.take start) ++ "::" ++ digits (pieces.drop (start + length))

def Host.text : Host → String
  | domain name => name
  | ipv4 a => ipv4Text a
  | ipv6 ps => "[" ++ ipv6Text ps ++ "]"

namespace UrlPath

def text : UrlPath → String
  | plain t => t
  | steps names => String.join (names.map fun n => "/" ++ n)

end UrlPath

namespace Url

/-- The user and the password, with what divides them from the host. -/
def userText (u : Url) : String :=
  if u.username.isEmpty && u.password.isEmpty then ""
  else u.username ++ (if u.password.isEmpty then "" else ":" ++ u.password) ++ "@"

/-- What stands between the scheme and the path. An empty first step must not look like a host. -/
def authorityText (u : Url) : String :=
  match u.host with
  | some h => "//" ++ u.userText ++ h.text ++ u.port.elim "" fun p => ":" ++ toString p
  | none =>
    if u.scheme == "file" then "//"
    else
      match u.path with
      | .steps ("" :: _ :: _) => "/."
      | _ => ""

def text (u : Url) : String :=
  u.scheme ++ ":" ++ u.authorityText ++ u.path.text ++ (u.query.elim "" fun q => "?" ++ q) ++
    u.fragment.elim "" fun f => "#" ++ f

end Url
end LintBridge
