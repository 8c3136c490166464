import LintBridge.Diagnostic.Basic
import LintBridge.Notice
import LintBridge.Server.Message
import LintBridge.Url.FilePath

/-!
What the server shows the client: diagnostics, hovers, code actions, notices, and what it can do.
-/

set_option autoImplicit false
set_option relaxedAutoImplicit false

namespace LintBridge.Server

open Json (Value)

def number (n : Nat) : Value := .number (.integer n)

/-! ### Diagnostics -/

def positionJson (p : Position) : Value :=
  .ofMembers [("line", number p.line.toNat), ("character", number p.column.toNat)]

def rangeJson (r : Range) : Value :=
  .ofMembers [("start", positionJson r.start), ("end", positionJson r.stop)]

def severityNumber : Severity → Nat
  | .error => 1
  | .warning => 2
  | .info => 3

def source : String := "rubocop"

def link? (d : Diagnostic) : Option Url := d.url.bind fun s => (Url.parse s).toOption

def diagnosticJson (d : Diagnostic) : Value :=
  .ofMembers
    ([("range", rangeJson d.range), ("severity", number (severityNumber d.severity)),
      ("source", .text source), ("message", .text d.excerpt)] ++
    (match d.cop with
      | some cop => [("code", .text cop)]
      | none => []) ++
    match link? d with
    | some u => [("codeDescription", .ofMembers [("href", .text u.text)])]
    | none => [])

/-- The diagnostics of a document, with the version that they are for if that is known. -/
def publicationJson (u : Url) (ds : List Diagnostic) (version : Option Int) : Value :=
  .ofMembers
    ([("uri", .text u.text), ("diagnostics", .array (ds.map diagnosticJson))] ++
      match version with
      | some v => [("version", .number (.integer v))]
      | none => [])

/-! ### Notices -/

/-- The number of a kind of notice; there is none for success, which is shown as information. -/
def noticeNumber : NoticeKind → Nat
  | .error => 1
  | .info => 3
  | .success => 3

def noticeText (n : Notice) : String :=
  match n.description with
  | some d => n.message ++ "\n" ++ d
  | none => n.message

def noticeJson (n : Notice) : Value :=
  .ofMembers [("type", number (noticeNumber n.kind)), ("message", .text (noticeText n))]

def welcomeJson : Value :=
  .ofMembers [("type", number 3), ("message", .text "rubolint LSP server initialized!")]

/-! ### Hovers -/

def hoverTitle (d : Diagnostic) : String :=
  match d.cop, d.url with
  | some cop, some url => "**[" ++ cop ++ "](" ++ url ++ ")**\n\n"
  | some cop, none => "**" ++ cop ++ "**\n\n"
  | none, _ => ""

def hoverText (d : Diagnostic) (description : Option String) : String :=
  hoverTitle d ++ d.excerpt ++
    match description with
    | some t => if t.isEmpty then "" else "\n\n" ++ t
    | none => ""

def hoverJson (d : Diagnostic) (description : Option String) : Value :=
  .ofMembers
    [("contents", .ofMembers [("kind", .text "markdown"), ("value", .text (hoverText d description))]),
     ("range", rangeJson d.range)]

/-! ### Code actions -/

def fixCommand : String := "rubolint.fixFile"

def fixTitle : String := "Fix file with RuboCop"

def fixKind : String := "source.fixAll"

/-- Whether the kinds that are asked for include the correction of a file. -/
def wantsFix (only : Option (List String)) : Bool :=
  only.all fun kinds => kinds.any fun k => k == "source" || k == fixKind

/-- The code actions for a document; there are none for what is no file. -/
def codeActions (u : Url) (only : Option (List String)) : Value :=
  match u.filePath? with
  | none => .null
  | some _ =>
    if wantsFix only then
      .array
        [.ofMembers
          [("title", .text fixTitle), ("kind", .text fixKind),
           ("command",
            .ofMembers
              [("title", .text fixTitle), ("command", .text fixCommand),
               ("arguments", .array [.text u.text])])]]
    else .array []

def fixTarget? (command : String) (arguments : List Value) : Option Url :=
  if command = fixCommand then
    arguments.head?.bind Value.asText? |>.bind fun s => (Url.parse s).toOption
  else none

/-! ### What the server can do -/

def introduction : Value :=
  .ofMembers
    [("capabilities",
      .ofMembers
        [("textDocumentSync",
          .ofMembers
            [("openClose", .bool true), ("change", number 1),
             ("save", .ofMembers [("includeText", .bool false)])]),
         ("hoverProvider", .bool true),
         ("codeActionProvider",
          .ofMembers
            [("codeActionKinds", .array [.text fixKind]), ("resolveProvider", .bool false)]),
         ("executeCommandProvider", .ofMembers [("commands", .array [.text fixCommand])])]),
     ("serverInfo", .ofMembers [("name", .text "rubolint-lsp"), ("version", .text "0.1.0")])]

end LintBridge.Server

namespace LintBridge.Announcement

open Server

def method : Announcement → String
  | diagnostics _ _ _ => "textDocument/publishDiagnostics"
  | notice _ => "window/showMessage"
  | welcome => "window/logMessage"

def params : Announcement → Json.Value
  | diagnostics u ds version => publicationJson u ds version
  | notice n => noticeJson n
  | welcome => welcomeJson

def toJson (a : Announcement) : Json.Value :=
  .ofMembers [("method", .text a.method), ("params", a.params)]

end LintBridge.Announcement
