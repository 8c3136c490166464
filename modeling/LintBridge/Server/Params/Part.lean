import LintBridge.Diagnostic.Basic
import LintBridge.Json.Record
import LintBridge.Url.Reader

/-!
The parts that parameters are made of, as far as the server reads them: addresses, places, documents.
-/

set_option autoImplicit false
set_option relaxedAutoImplicit false

namespace LintBridge.Server

open Json (Record Shape)

def url : Shape Url :=
  .ofValue fun v => do
    let s ← (Shape.textNamed "a string representing an URL").fromValue v
    match Url.parse s with
    | .ok u => .ok u
    | .error f => .error (.other (f.message ++ ": " ++ Text.quoted s))

def version : Shape Int := .integer (-2147483648) 2147483647 "i32"

def position : Record (Option UInt32 × Option UInt32) Position where
  name := "struct Position"
  fields :=
    [.of "line" .word32 fun v s => (some v, s.2),
     .of "character" .word32 fun v s => (s.1, some v)]
  start := (none, none)
  finish s := do
    let line ← Record.required "line" s.1
    let column ← Record.required "character" s.2
    pure ⟨line, column⟩

def range : Record (Option Position × Option Position) Range where
  name := "struct Range"
  fields :=
    [.of "start" position.shape fun v s => (some v, s.2),
     .of "end" position.shape fun v s => (s.1, some v)]
  start := (none, none)
  finish s := do
    let start ← Record.required "start" s.1
    let stop ← Record.required "end" s.2
    pure ⟨start, stop⟩

def documentName : Record (Option Url) Url where
  name := "struct TextDocumentIdentifier"
  fields := [.of "uri" url fun v _ => some v]
  start := none
  finish s := Record.required "uri" s

def placeIn : Record (Option Url × Option Position) (Url × Position) where
  name := "struct TextDocumentPositionParams"
  fields :=
    [.of "textDocument" documentName.shape fun v s => (some v, s.2),
     .of "position" position.shape fun v s => (s.1, some v)]
  start := (none, none)
  finish s := do
    let u ← Record.required "textDocument" s.1
    let p ← Record.required "position" s.2
    pure (u, p)

def folder : Record (Option Url × Option String) Url where
  name := "struct WorkspaceFolder"
  fields :=
    [.of "uri" url fun v s => (some v, s.2),
     .of "name" .text fun v s => (s.1, some v)]
  start := (none, none)
  finish s := do
    let u ← Record.required "uri" s.1
    let _ ← Record.required "name" s.2
    pure u

end LintBridge.Server
