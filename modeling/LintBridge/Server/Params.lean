import LintBridge.Server.Params.Capabilities

/-!
The parameters of the messages that the server serves.

Requests about code have their parameters as an object only, with tokens for progress and results inside;
the other messages may have a list.
-/

set_option autoImplicit false
set_option relaxedAutoImplicit false

namespace LintBridge.Server

open Json (Form Mismatch Part Record Shape Value)

/-! ### Parts -/

def documentVersion : Record (Option Url × Option Int) (Url × Int) where
  name := "struct VersionedTextDocumentIdentifier"
  fields :=
    [.of "uri" url fun v s => (some v, s.2),
     .of "version" version fun v s => (s.1, some v)]
  start := (none, none)
  finish s := do
    let u ← Record.required "uri" s.1
    let n ← Record.required "version" s.2
    pure (u, n)

/-- A whole document, as far as it is there. -/
structure DocumentFields where
  url : Option Url
  language : Option String
  version : Option Int
  text : Option String

structure NewDocument where
  url : Url
  version : Int
  text : String

def newDocument : Record DocumentFields NewDocument where
  name := "struct TextDocumentItem"
  fields :=
    [.of "uri" url fun v s => { s with url := some v },
     .of "languageId" .text fun v s => { s with language := some v },
     .of "version" version fun v s => { s with version := some v },
     .of "text" .text fun v s => { s with text := some v }]
  start := ⟨none, none, none, none⟩
  finish s := do
    let u ← Record.required "uri" s.url
    let _ ← Record.required "languageId" s.language
    let n ← Record.required "version" s.version
    let text ← Record.required "text" s.text
    pure ⟨u, n, text⟩

def change : Record (Option String) String where
  name := "struct TextDocumentContentChangeEvent"
  fields :=
    [.of "range" (.optional range.shape) fun _ s => s,
     .of "rangeLength" (.optional .word32) fun _ s => s,
     .of "text" .text fun v _ => some v]
  start := none
  finish s := Record.required "text" s

/-! ### Messages -/

def opening : Record (Option NewDocument) NewDocument where
  name := "struct DidOpenTextDocumentParams"
  fields := [.of "textDocument" newDocument.shape fun v _ => some v]
  start := none
  finish s := Record.required "textDocument" s

/-- What a change of a document tells. -/
structure Edit where
  url : Url
  version : Int
  texts : List String

def editing : Record (Option (Url × Int) × Option (List String)) Edit where
  name := "struct DidChangeTextDocumentParams"
  fields :=
    [.of "textDocument" documentVersion.shape fun v s => (some v, s.2),
     .of "contentChanges" (.list change.shape) fun v s => (s.1, some v)]
  start := (none, none)
  finish s := do
    let d ← Record.required "textDocument" s.1
    let texts ← Record.required "contentChanges" s.2
    pure ⟨d.1, d.2, texts⟩

def saving : Record (Option Url × Option String) (Url × Option String) where
  name := "struct DidSaveTextDocumentParams"
  fields :=
    [.of "textDocument" documentName.shape fun v s => (some v, s.2),
     .of "text" (.optional .text) fun v s => (s.1, v)]
  start := (none, none)
  finish s := do
    let u ← Record.required "textDocument" s.1
    pure (u, s.2)

def closing : Record (Option Url) Url where
  name := "struct DidCloseTextDocumentParams"
  fields := [.of "textDocument" documentName.shape fun v _ => some v]
  start := none
  finish s := Record.required "textDocument" s

def configuring : Record (Option Value) Value where
  name := "struct DidChangeConfigurationParams"
  fields := [.of "settings" .value fun v _ => some v]
  start := none
  finish s := Record.required "settings" s

/-- A record with other records inside, which come after its own members. -/
def nested {σ α : Type} (own : Record σ α) (inside : List (List Part)) : Shape α :=
  .ofValue fun v => do
    let found ← Form.membersOf own.name v
    let a ← own.ofMembers found
    inside.forM fun parts => Form.inner parts found
    pure a

/-- A record that is inside of another one without members of its own, and other records beside it. -/
def wrapped {σ α : Type} (name : String) (r : Record σ α) (inside : List (List Part)) : Shape α :=
  .ofValue fun v => do
    let found ← Form.membersOf name v
    match r.ofMembers found with
    | .error m => .error m.ofInner
    | .ok a =>
      inside.forM fun parts => Form.inner parts found
      pure a

def hovering : Shape (Url × Position) := wrapped "struct HoverParams" placeIn [progressParts]

/-- What code actions are asked for: if kinds are named, only those. -/
def actionContext : Record (Option Unit × Option (List String)) (Option (List String)) where
  name := "struct CodeActionContext"
  fields :=
    [.of "diagnostics" (Form.list diagnosticForm).shape fun v s => (some v, s.2),
     .of "only" (.optional (.list .text)) fun v s => (s.1, v),
     .of "triggerKind" Form.signed32.optional.shape fun _ s => s]
  start := (none, none)
  finish s := do
    let _ ← Record.required "diagnostics" s.1
    pure s.2

/-- A question for code actions, as far as it is there. -/
structure ActionFields where
  url : Option Url
  range : Option Range
  only : Option (Option (List String))

structure ActionQuery where
  url : Url
  only : Option (List String)

def actionRecord : Record ActionFields ActionQuery where
  name := "struct CodeActionParams"
  fields :=
    [.of "textDocument" documentName.shape fun v s => { s with url := some v },
     .of "range" range.shape fun v s => { s with range := some v },
     .of "context" actionContext.shape fun v s => { s with only := some v }]
  start := ⟨none, none, none⟩
  finish s := do
    let u ← Record.required "textDocument" s.url
    let _ ← Record.required "range" s.range
    let only ← Record.required "context" s.only
    pure ⟨u, only⟩

def actionQuery : Shape ActionQuery := nested actionRecord [progressParts, partialParts]

def commandRecord : Record (Option String × List Value) (String × List Value) where
  name := "struct ExecuteCommandParams"
  fields :=
    [.of "command" .text fun v s => (some v, s.2),
     .of "arguments" (.list .value) fun v s => (s.1, v)]
  start := (none, [])
  finish s := do
    let c ← Record.required "command" s.1
    pure (c, s.2)

def command : Shape (String × List Value) := nested commandRecord [progressParts]

/-- A greeting, as far as it is there. -/
structure GreetingFields where
  root : Option Url
  options : Option Value
  capabilities : Option Unit
  folders : Option (List Url)

/-- What the client tells when it greets the server. -/
structure Greeting where
  root : Option Url
  options : Option Value
  folders : Option (List Url)

def clientForm : Form := .record "struct ClientInfo" [.must "name" .text, .may "version" .text]

/-- How much the client wants to hear of what the server does. -/
def traceForm : Form := .oneOf ["off", "messages", "verbose"]

def greeting : Record GreetingFields Greeting where
  name := "struct InitializeParams"
  fields :=
    [.of "processId" (.optional .word32) fun _ s => s,
     .of "rootPath" (.optional .text) fun _ s => s,
     .filling "rootUri" (.optional url) fun v s => { s with root := v },
     .of "initializationOptions" (.optional .value) fun v s => { s with options := v },
     .of "capabilities" capabilities.shape fun v s => { s with capabilities := some v },
     .filling "trace" traceForm.optional.shape fun _ s => s,
     .of "workspaceFolders" (.optional (.list folder.shape)) fun v s => { s with folders := v },
     .of "clientInfo" clientForm.optional.shape fun _ s => s,
     .of "locale" (.optional .text) fun _ s => s]
  start := ⟨none, none, none, none⟩
  finish s := do
    let _ ← Record.required "capabilities" s.capabilities
    pure ⟨s.root, s.options, s.folders⟩

def nothing : Shape Unit := (Form.record "struct InitializedParams" []).shape

end LintBridge.Server
