import LintBridge.Url.Host

/-!
Reading addresses.

Some schemes are special: their addresses have a host, backslashes count as slashes, and hosts are names or
numbers. Files have a host too, but may leave it empty.
-/

set_option autoImplicit false
set_option relaxedAutoImplicit false

namespace LintBridge.Url

/-- What a scheme has to do with hosts. -/
inductive SchemeKind
  | file
  /-- The usual port goes without saying. -/
  | special (port : Nat)
  | other
  deriving DecidableEq, Repr

def specialPorts : List (String × Nat) :=
  [("http", 80), ("https", 443), ("ws", 80), ("wss", 443), ("ftp", 21)]

namespace SchemeKind

def ofScheme (s : String) : SchemeKind :=
  if s = "file" then .file
  else
    match specialPorts.lookup s with
    | some p => .special p
    | none => .other

def isSpecial : SchemeKind → Bool
  | .other => false
  | _ => true

def usualPort? : SchemeKind → Option Nat
  | .special p => some p
  | _ => none

def isSlash (k : SchemeKind) (c : Char) : Bool := c == '/' || (k.isSpecial && c == '\\')

/-- Whether a character ends the part of an address that names the host. -/
def endsAuthority (k : SchemeKind) (c : Char) : Bool := k.isSlash c || c == '?' || c == '#'

end SchemeKind

/-! ### Paths -/

def isPathEnd (c : Char) : Bool := c == '?' || c == '#'

def isSingleDot (step : List Char) : Bool :=
  [".", "%2e"].contains (String.ofList (step.map Char.toLower))

def isDoubleDot (step : List Char) : Bool :=
  ["..", "%2e.", ".%2e", "%2e%2e"].contains (String.ofList (step.map Char.toLower))

def isDrive : List Char → Bool
  | [a, b] => a.isAlpha && (b == ':' || b == '|')
  | _ => false

/-- Whether a text begins with the letter of a drive, up to where a step may end. -/
def startsWithDrive (cs : List Char) : Bool :=
  isDrive (cs.take 2) && (cs.drop 2).head?.all fun c => ['/', '\\', '?', '#'].contains c

/-- A path as far as it is read: its text, and whether the address keeps its host. -/
structure PathText where
  text : List Char
  keepsHost : Bool

namespace PathText

def endsWithSlash (text : List Char) : Bool := text.getLast? == some '/'

def cutLast (text : List Char) : List Char × List Char :=
  ((text.reverse.dropWhile (· != '/')).reverse, (text.reverse.takeWhile (· != '/')).reverse)

/-- The text without the slash at its end, if it has another one, and no drive stands between the two. -/
def dropSlash (text : List Char) : List Char :=
  if endsWithSlash text && text.dropLast.contains '/' &&
      !startsWithDrive ((cutLast text.dropLast).2 ++ ['/']) then text.dropLast
  else text

/-- The text without its last step. The path of a file keeps a drive. -/
def dropStep (k : SchemeKind) (text : List Char) : List Char :=
  let (before, step) := cutLast text
  if k == .file && isDrive step && step.getLast? == some ':' then text else before

/-- The path with one step more, behind which a slash stands unless the step is the last one. Dots lead to
where the path was before; the first step of a file may be a drive, which leaves no room for a host. -/
def add (k : SchemeKind) (p : PathText) (step : List Char) (closed : Bool) : PathText :=
  let slash := if closed then ['/'] else []
  if isDoubleDot step then
    let text := dropStep k (dropSlash p.text)
    { p with text := if closed && !endsWithSlash text then text ++ slash else text }
  else if isSingleDot step then
    { p with text := if endsWithSlash p.text then p.text else p.text ++ ['/'] }
  else if k == .file && p.text == ['/'] && isDrive step then
    ⟨p.text ++ step.take 1 ++ [':'] ++ slash, false⟩
  else { p with text := p.text ++ step ++ slash }

def addAll (k : SchemeKind) : PathText → List (List Char) → PathText
  | p, [] => p
  | p, [piece] => p.add k (Percent.encode Percent.pathSet piece) false
  | p, piece :: rest => addAll k (p.add k (Percent.encode Percent.pathSet piece) true) rest

end PathText

/-- Reads a path behind the text `start`: what there is of it, and what comes after it. The path of a file
begins with one slash. -/
def readPath (k : SchemeKind) (start : List Char) (cs : List Char) : PathText × List Char :=
  let p := PathText.addAll k ⟨start, true⟩ (Text.splitWhere k.isSlash (cs.takeWhile fun c => !isPathEnd c))
  let text := if k == .file then '/' :: p.text.dropWhile (· == '/') else p.text
  ({ p with text := text }, cs.dropWhile fun c => !isPathEnd c)

/-- Reads the path after a host. Where the scheme is special, it has at least a slash. -/
def readPathAfterHost (k : SchemeKind) (cs : List Char) : PathText × List Char :=
  match cs with
  | [] => if k.isSpecial then (⟨['/'], true⟩, []) else (⟨[], true⟩, [])
  | c :: rest =>
    if k.isSpecial then readPath k ['/'] (if k.isSlash c then rest else cs)
    else if isPathEnd c then (⟨[], true⟩, cs)
    else readPath k (if c = '/' then [] else ['/']) cs

def PathText.path (p : PathText) : UrlPath :=
  match p.text with
  | [] => .steps []
  | _ :: steps => .steps ((Text.splitWhere (· == '/') steps).map String.ofList)

/-! ### The parts after the path -/

def readTail (k : SchemeKind) (cs : List Char) : Option String × Option String :=
  let fragment := fun (cs : List Char) =>
    match cs with
    | '#' :: rest => some (String.ofList (Percent.encode Percent.fragmentSet rest))
    | _ => none
  match cs with
  | '?' :: rest =>
    let set := if k.isSpecial then Percent.specialQuerySet else Percent.querySet
    (some (String.ofList (Percent.encode set (rest.takeWhile (· != '#')))),
      fragment (rest.dropWhile (· != '#')))
  | cs => (none, fragment cs)

/-! ### Hosts -/

structure Login where
  name : List Char
  password : List Char
  deriving DecidableEq, Repr

def Login.isEmpty (l : Login) : Bool := l.name.isEmpty && l.password.isEmpty

/-- The user and the password before the last at sign, if there is one, and what comes after it. -/
def readLogin (cs : List Char) : Option Login × List Char :=
  match cs.reverse.dropWhile (· != '@') with
  | [] => (none, cs)
  | _ :: before =>
    let user := before.reverse
    let name := user.takeWhile (· != ':')
    let password := (user.dropWhile (· != ':')).drop 1
    (some ⟨Percent.encode Percent.userSet name, Percent.encode Percent.userSet password⟩,
      (cs.reverse.takeWhile (· != '@')).reverse)

/-- A port that is not the usual one, and what comes after it. A backslash ends it with every scheme. -/
def readPort (k : SchemeKind) (cs : List Char) : Except UrlFault (Option Nat × List Char) :=
  let digits := cs.takeWhile Char.isDigit
  let rest := cs.dropWhile Char.isDigit
  let n := digits.foldl (fun n d => n * 10 + (d.toNat - '0'.toNat)) 0
  if n ≥ 65536 || rest.head?.any (· != '\\') then .error .badPort
  else .ok (if digits.isEmpty || k.usualPort? == some n then none else some n, rest)

/-- The host before the first colon that is not between brackets, and the text after that colon. -/
def cutPort : Bool → List Char → List Char × Option (List Char)
  | _, [] => ([], none)
  | inside, c :: cs =>
    if c = ':' ∧ inside = false then ([], some cs)
    else
      let (host, port) := cutPort (if c = '[' then true else if c = ']' then false else inside) cs
      (c :: host, port)

/-- The host and the port of an address that is no file, and what comes after them. -/
def readHost (k : SchemeKind) (cs : List Char) : Except UrlFault (Host × Option Nat × List Char) := do
  let (name, port) := cutPort false cs
  if k.isSpecial && name.isEmpty then throw .emptyHost
  let host ← if k.isSpecial then Host.parse name else Host.parseOpaque name
  if name.isEmpty && port.isSome then throw .emptyHost
  let (port, extra) ← readPort k (port.getD [])
  pure (host, port, extra)

/-! ### Addresses -/

/-- An address with a host, which `cs` begins with. Where nobody is to be at it and nothing follows, a host may
be missing. -/
def readAuthority (scheme : String) (k : SchemeKind) (cs : List Char) : Except UrlFault Url := do
  let authority := cs.takeWhile fun c => !k.endsAuthority c
  let after := cs.dropWhile fun c => !k.endsAuthority c
  let (login?, hostText) := readLogin authority
  let login := login?.getD ⟨[], []⟩
  if login? == some ⟨[], []⟩ && authority.length == 1 && !after.isEmpty then throw .emptyHost
  let (host, port, extra) ← readHost k hostText
  if host == .domain "" && !login.isEmpty then throw .emptyHost
  let (path, tail) := readPathAfterHost k (extra ++ after)
  let (query, fragment) := readTail k tail
  pure ⟨scheme, String.ofList login.name, String.ofList login.password, some host, port, path.path, query,
    fragment⟩

/-- The address of a file, from the path on, which comes behind the text `start`. A drive has no host. -/
def fileAt (host : Option Host) (start cs : List Char) : Url :=
  let (path, tail) := readPath .file start cs
  let (query, fragment) := readTail .file tail
  ⟨"file", "", "", if path.keepsHost then host else none, none, path.path, query, fragment⟩

def readFile (cs : List Char) : Except UrlFault Url :=
  match cs with
  | a :: b :: rest =>
    if SchemeKind.file.isSlash a && SchemeKind.file.isSlash b then
      let name := rest.takeWhile fun c => !SchemeKind.file.endsAuthority c
      let after := rest.dropWhile fun c => !SchemeKind.file.endsAuthority c
      if isDrive name then .ok (fileAt none ['/'] rest)
      else if name.isEmpty then .ok (fileAt none ['/'] after)
      else (Host.parse name).map fun host =>
        if host = .domain "localhost" then fileAt none ['/'] after
        else
          fileAt (some host) ['/'] (if after.head?.any SchemeKind.file.isSlash then after.drop 1 else after)
    else .ok (fileAt none (if SchemeKind.file.isSlash a then [] else ['/']) cs)
  | [a] => .ok (fileAt none (if SchemeKind.file.isSlash a then [] else ['/']) cs)
  | [] => .ok (fileAt none ['/'] [])

def readOther (scheme : String) (cs : List Char) : Except UrlFault Url :=
  match cs with
  | '/' :: '/' :: rest => readAuthority scheme .other rest
  | '/' :: rest =>
    let (path, tail) := readPath .other ['/'] rest
    let (query, fragment) := readTail .other tail
    .ok ⟨scheme, "", "", none, none, path.path, query, fragment⟩
  | cs =>
    let path := Percent.encode [] (cs.takeWhile fun c => !isPathEnd c)
    let (query, fragment) := readTail .other (cs.dropWhile fun c => !isPathEnd c)
    .ok ⟨scheme, "", "", none, none, .plain (String.ofList path), query, fragment⟩

def isSchemeChar (c : Char) : Bool := c.isAlphanum || c == '+' || c == '-' || c == '.'

/-- The scheme in front of an address, in small letters, and what follows its colon. -/
def cutScheme? (cs : List Char) : Option (String × List Char) :=
  let name := cs.takeWhile isSchemeChar
  match cs.dropWhile isSchemeChar with
  | ':' :: rest =>
    if name.head?.any Char.isAlpha then some (String.ofList (name.map Char.toLower), rest) else none
  | _ => none

def isOuter (c : Char) : Bool := c.toNat ≤ 0x20

/-- A text without what surrounds an address, and without the breaks in it. -/
def clean (cs : List Char) : List Char :=
  let cs := ((cs.dropWhile isOuter).reverse.dropWhile isOuter).reverse
  cs.filter fun c => !(c == '\t' || c == '\n' || c == '\r')

def parse (s : String) : Except UrlFault Url :=
  match cutScheme? (clean s.toList) with
  | none => .error .relative
  | some (scheme, rest) =>
    match SchemeKind.ofScheme scheme with
    | .file => readFile rest
    | .special port => readAuthority scheme (.special port) (rest.dropWhile fun c => c == '/' || c == '\\')
    | .other => readOther scheme rest

end LintBridge.Url
