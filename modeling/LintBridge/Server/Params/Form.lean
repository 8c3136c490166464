import LintBridge.Json.Form
import LintBridge.Server.Params.Part

/-!
The parts that parameters are made of, as far as the server only looks whether they are right.
-/

set_option autoImplicit false
set_option relaxedAutoImplicit false

namespace LintBridge.Server

open Json (Form Part)

def clientData : Part := .may "data" .any

/-! ### Places and documents -/

def urlForm : Form := .of url

def positionForm : Form := .of position.shape

def rangeForm : Form := .of range.shape

def documentForm : Form := .of documentName.shape

def documentPart : Part := .must "textDocument" documentForm

def placeParts : List Part := [documentPart, .must "position" positionForm]

def locationForm : Form := .record "struct Location" [.must "uri" urlForm, .must "range" rangeForm]

/-! ### Tokens -/

def numberOrText : Form := .anyOf "NumberOrString" [.signed32, .text]

/-- The token under which the client wants to hear of progress. -/
def progressParts : List Part := [.may "workDoneToken" numberOrText]

/-- The token under which the client wants to have partial results. -/
def partialParts : List Part := [.may "partialResultToken" numberOrText]

/-! ### Texts -/

def markupKind : Form := .oneOf ["plaintext", "markdown"]

def markupForm : Form := .record "struct MarkupContent" [.must "kind" markupKind, .must "value" .text]

def documentation (name : String) : Form := .anyOf name [.text, markupForm]

/-! ### Commands and edits -/

def commandForm : Form :=
  .record "struct Command"
    [.must "title" .text, .must "command" .text, .may "arguments" (.list .any)]

def editParts : List Part := [.must "range" rangeForm, .must "newText" .text]

def editForm : Form := .record "struct TextEdit" editParts

def annotatedEditForm : Form :=
  .nested "struct AnnotatedTextEdit" [.must "annotationId" .text] [editParts]

def documentEditForm : Form :=
  .record "struct TextDocumentEdit"
    [.must "textDocument"
      (.record "struct OptionalVersionedTextDocumentIdentifier"
        [.must "uri" urlForm, .may "version" .signed32]),
     .must "edits" (.list (.anyOf "OneOf" [editForm, annotatedEditForm]))]

/-- What happens to a file: its kind, and the parts of each kind. -/
def fileOperations : List (String × List Part) :=
  let options (name : String) (keys : List String) := Form.record name (Part.flags keys)
  [("create",
    [.must "uri" urlForm,
     .may "options" (options "struct CreateFileOptions" ["overwrite", "ignoreIfExists"]),
     .may "annotationId" .text]),
   ("rename",
    [.must "oldUri" urlForm, .must "newUri" urlForm,
     .may "options" (options "struct RenameFileOptions" ["overwrite", "ignoreIfExists"]),
     .may "annotationId" .text]),
   ("delete",
    [.must "uri" urlForm,
     .may "options"
      (.record "struct DeleteFileOptions"
        (Part.flags ["recursive", "ignoreIfNotExists"] ++ [.may "annotationId" .text]))])]

/-- An operation on a file: the member or the item that names its kind says which parts there are. -/
def fileOperationForm : Form
  | .object found =>
    match Json.lookupMember "kind" found with
    | some (.text kind) =>
      match fileOperations.lookup kind with
      | some parts => Form.members parts (found.filter fun m => m.1 != "kind")
      | none => .error (.unknownVariant kind (fileOperations.map Prod.fst))
    | some v => .error (.kind v.seen "variant identifier")
    | none => .error (.missingField "kind")
  | .array (.text kind :: rest) =>
    match fileOperations.lookup kind with
    | some parts => Form.items kind parts.length rest.length 0 parts rest
    | none => .error (.unknownVariant kind (fileOperations.map Prod.fst))
  | v => .error (.kind v.seen "internally tagged enum ResourceOp")

def workspaceEditForm : Form :=
  .record "struct WorkspaceEdit"
    [.spare "changes" (.mapOf "map" urlForm (.list editForm)),
     .may "documentChanges"
      (.anyOf "DocumentChanges"
        [.list documentEditForm,
         .list (.anyOf "DocumentChangeOperation" [fileOperationForm, documentEditForm])]),
     .may "changeAnnotations"
      (.mapOf "a map" .text
        (.record "struct ChangeAnnotation"
          [.must "label" .text, .may "needsConfirmation" .bool, .may "description" .text]))]

/-! ### Diagnostics -/

def diagnosticForm : Form :=
  .record "struct Diagnostic"
    [.must "range" rangeForm, .may "severity" .signed32, .may "code" numberOrText,
     .may "codeDescription" (.record "struct CodeDescription" [.must "href" urlForm]),
     .may "source" .text, .must "message" .text,
     .may "relatedInformation"
      (.list
        (.record "struct DiagnosticRelatedInformation"
          [.must "location" locationForm, .must "message" .text])),
     .may "tags" (.list .signed32), clientData]

end LintBridge.Server
