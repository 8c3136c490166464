import LintBridge.Json.Form
import LintBridge.Json.Writer
import LintBridge.Server.Message
import LintBridge.Text.Utf8

/-!
Messages on a stream of bytes.

A frame is a head, which says how many bytes follow it, and a body, which is one message as JSON. Reading
stops at the first frame that is broken. A frame without a body makes the reader look for more bytes: the
first one of a stream is passed over so, and the second one must be the last of all.
-/

set_option autoImplicit false
set_option relaxedAutoImplicit false

namespace LintBridge.Server

open Json (Cursor Form Mismatch Part Record Shape Value)

/-! ### Heads -/

/-- A field of a head: its name, and its value without the padding. -/
structure HeadField where
  name : String
  value : List UInt8
  deriving DecidableEq, Repr

def isNameByte (b : UInt8) : Bool :=
  let c := Char.ofNat b.toNat
  b < 128 && (c.isAlphanum || "!#$%&'*+-.^_|~".toList.contains c || c == '\x60')

def isPadding (b : UInt8) : Bool := b == 32 || b == 9

/-- Whether a value may have this byte: a tab, or any but the controls. -/
def isValueByte (b : UInt8) : Bool := b == 9 || (32 ≤ b && b != 127)

/-- What follows the end of a line: a line feed, perhaps with a carriage return before it. -/
def afterBreak? : List UInt8 → Option (List UInt8)
  | 10 :: rest => some rest
  | 13 :: 10 :: rest => some rest
  | _ => none

def headField? (bytes : List UInt8) : Option (HeadField × List UInt8) :=
  let name := bytes.takeWhile isNameByte
  match name, bytes.dropWhile isNameByte with
  | _ :: _, 58 :: rest =>
    let rest := rest.dropWhile isPadding
    let value := ((rest.takeWhile isValueByte).reverse.dropWhile isPadding).reverse
    (afterBreak? (rest.dropWhile isValueByte)).map fun rest =>
      (⟨String.ofList (name.map fun b => Char.ofNat b.toNat), value⟩, rest)
  | _, _ => none

def headLimit : Nat := 2

/-- The fields of a head, of which `left` may come, and what follows it. -/
def headFields? : Nat → List UInt8 → Option (List HeadField × List UInt8)
  | left, bytes =>
    match afterBreak? bytes, left with
    | some rest, _ => some ([], rest)
    | none, 0 => none
    | none, left + 1 =>
      (headField? bytes).bind fun (f, rest) =>
        (headFields? left rest).map fun (fs, rest) => (f :: fs, rest)

/-- A number of 64 bits in decimal digits, perhaps with a plus before it. -/
def lengthOf? (bytes : List UInt8) : Option Nat :=
  let digits := match bytes with
    | 43 :: ds => ds
    | ds => ds
  let n := digits.foldl (fun n d => n * 10 + (d.toNat - 48)) 0
  let isWhole := !digits.isEmpty && digits.all fun d => 48 ≤ d && d ≤ 57
  if isWhole && n < 18446744073709551616 then some n else none

/-- Whether the kind of a body names the only encoding there is. -/
def isUtf8Kind (value : List UInt8) : Bool :=
  match Text.decode? value with
  | none => false
  | some cs =>
    let parts := (Text.splitWhere (· == ';') cs).drop 1
    let names := parts.filterMap fun p =>
      let p := Text.trim (String.ofList p)
      if p.startsWith "charset=" then some (p.toList.drop "charset=".length) else none
    match names with
    | name :: _ => name == "utf-8".toList || name == "utf8".toList
    | [] => false

/-- The length that a head gives; of two lengths the second counts. -/
def bodyLength? : Option Nat → List HeadField → Option Nat
  | length, [] => length
  | length, f :: rest =>
    if f.name = "Content-Length" then (lengthOf? f.value).bind fun n => bodyLength? (some n) rest
    else if f.name = "Content-Type" then if isUtf8Kind f.value then bodyLength? length rest else none
    else bodyLength? length rest

/-! ### Frames -/

/-- The start of what is left of a stream. -/
inductive Frame
  /-- A body, and what follows it. -/
  | body (bytes rest : List UInt8)
  | broken
  | nothing
  deriving DecidableEq, Repr

/-- The start of a stream. A head with nothing behind it is no frame, and breaks nothing. -/
def Frame.read (bytes : List UInt8) : Frame :=
  if bytes.isEmpty then .nothing
  else
    match headFields? headLimit bytes with
    | none => .broken
    | some (fields, rest) =>
      match bodyLength? none fields with
      | none => .broken
      | some n =>
        if n ≤ rest.length then .body (rest.take n) (rest.drop n)
        else if rest.isEmpty then .nothing
        else .broken

/-! ### Messages in frames -/

/-- A message and the name that the client has given it, if it waits for an answer. -/
structure Letter where
  id : Option Value
  message : Message

/-- What a body comes to: a message, or nothing where it answers a question that nobody has asked. -/
abbrev Incoming := Except Refusal (Option Letter)

def protocolVersion : String := "2.0"

def versionShape : Shape Unit :=
  .ofValue fun
    | .text s => if s = protocolVersion then .ok () else .error (.other "another version")
    | v => .error (.kind v.seen "a version")

def signed64 : Shape Int := .integer (-9223372036854775808) 9223372036854775807 "i64"

def idShape : Shape Value :=
  .ofValue fun v => do
    Form.optional (.anyOf "Id" [.of signed64, .text]) v
    pure v

/-- A message, as far as it is there. -/
structure LetterFields where
  version : Option Unit
  method : String
  params : Option Value
  id : Option Value

/-- A message, as an object or as a list that may end anywhere after the version. -/
def letter : Record LetterFields Letter where
  name := "a message"
  fields :=
    [.filling "jsonrpc" versionShape fun v s => { s with version := some v },
     .filling "method" .text fun v s => { s with method := v },
     .filling "params" .value fun v s => { s with params := some v },
     .filling "id" idShape fun v s => { s with id := some v }]
  start := ⟨none, "", none, none⟩
  finish s := do
    let _ ← Record.required "jsonrpc" s.version
    pure ⟨s.id, ⟨s.method, s.id.isSome, s.params⟩⟩

/-- What an error in an answer looks like. It has nothing else in it. -/
def errorForm : Form := fun v => do
  let parts : List Part := [.must "code" (.of signed64), .must "message" .text, .may "data" .any]
  match v with
  | .object found =>
    if found.all fun m => parts.any fun p => p.key == m.1 then .ok () else .error (.other "another field")
  | _ => .ok ()
  Form.record "an error" parts v

/-- An answer, as far as it is there: the version, the name of the request, and what is answered. -/
def answer (key : String) (form : Form) : Record (Option Unit × Option Value × Option Unit) Unit where
  name := "an answer"
  fields :=
    [.of "jsonrpc" versionShape fun v s => (some v, s.2),
     .of "id" idShape fun v s => (s.1, some v, s.2.2),
     .of key form.shape fun v s => (s.1, s.2.1, some v)]
  start := (none, none, none)
  finish s := do
    let _ ← Record.required "jsonrpc" s.1
    let _ ← Record.required "id" s.2.1
    Record.required key s.2.2

/-- Whether an answer stands at the cursor: an object with a result or with an error. -/
def isAnswer (c : Cursor) : Bool :=
  c.skipSpace.rest.head? == some '\x7b' &&
    (((answer "result" Form.any).ofText c).toBool || ((answer "error" errorForm).ofText c).toBool)

/-- What the body of a frame comes to. It must be JSON up to the end of its first value; then that must be a
message or an answer; and then nothing else may follow. -/
def incoming (body : List UInt8) : Incoming :=
  match Text.decode? body with
  | none => .error .parseError
  | some cs =>
    let start := Cursor.start cs
    match start.readValue Json.maxDepth with
    | .error _ => .error .parseError
    | .ok (_, done) =>
      let found : Incoming :=
        if isAnswer start then .ok none
        else
          match letter.ofText start with
          | .ok (l, _) => .ok (some l)
          | .error _ => .error .invalidRequest
      match found, done.readEnd with
      | .ok _, .error _ => .error .parseError
      | found, _ => found

/-- What stands in a stream, up to its end or the first break. `looked` says that the reader has looked for
more bytes already; `fuel` bounds the number of frames. -/
def readStream : Nat → Bool → List UInt8 → List Incoming
  | 0, _, _ => []
  | fuel + 1, looked, bytes =>
    match Frame.read bytes with
    | .nothing => []
    | .broken => [.error .parseError]
    | .body [] rest =>
      if looked then if rest.isEmpty then [] else [.error .parseError]
      else readStream fuel true rest
    | .body body rest =>
      match incoming body with
      | .error r => [.error r]
      | .ok m => .ok m :: readStream fuel looked rest

/-- The messages in a stream. Each frame has at least one byte. -/
def messagesIn (bytes : List UInt8) : List Incoming := readStream bytes.length false bytes

/-! ### Writing -/

/-- An object with members in this order; their values are written already. -/
def writeMembers (members : List (String × String)) : String :=
  "\x7b" ++ String.intercalate "," (members.map fun m => (Value.text m.1).compact ++ ":" ++ m.2) ++ "\x7d"

def frameText (body : String) : String :=
  "Content-Length: " ++ toString body.utf8ByteSize ++ "\r\n\r\n" ++ body

def Refusal.written (r : Refusal) : String :=
  writeMembers
    ([("code", toString r.code), ("message", (Value.text r.message).compact)] ++
      match r.data with
      | some d => [("data", d.compact)]
      | none => [])

def answerFrame (id : Value) (reply : Reply) : String :=
  let outcome := match reply with
    | .ok v => ("result", v.compact)
    | .error r => ("error", Refusal.written r)
  frameText (writeMembers [("jsonrpc", (Value.text protocolVersion).compact), outcome, ("id", id.compact)])

end LintBridge.Server
