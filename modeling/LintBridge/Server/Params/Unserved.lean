import LintBridge.Server.Params.Form

/-!
The parameters of the requests that the server knows of and does not serve. They are looked at all the same:
a request with wrong parameters is refused for those.
-/

set_option autoImplicit false
set_option relaxedAutoImplicit false

namespace LintBridge.Server

open Json (Form Part)

/-! ### Shared forms -/

/-- Parameters that are a place in a document, with some more. -/
def atPlace (name : String) (own : List Part) (inside : List (List Part)) : Form :=
  .nested name own (placeParts :: inside)

def inDocument (name : String) (own : List Part) (inside : List (List Part)) : Form :=
  .nested name (documentPart :: own) inside

def bothTokens : List (List Part) := [progressParts, partialParts]

def goingForm : Form := atPlace "struct GotoDefinitionParams" [] bothTokens

def hierarchyParts (tags : Form) : List Part :=
  [.must "name" .text, .must "kind" .signed32, .may "tags" tags, .may "detail" .text,
   .must "uri" urlForm, .must "range" rangeForm, .must "selectionRange" rangeForm, clientData]

/-- Parameters that go on from a symbol which is the caller or the called of others. -/
def fromCall (name : String) : Form :=
  .nested name
    [.must "item" (.record "struct CallHierarchyItem" (hierarchyParts (.list .signed32)))] bothTokens

/-- Parameters that go on from a type. It has one tag and not a list of them. -/
def fromType (name : String) : Form :=
  .nested name [.must "item" (.record "struct TypeHierarchyItem" (hierarchyParts .signed32))] bothTokens

/-- How a text is to be laid out: besides the settings that are known there may be any others that are a yes
or a no, a number, or a text. -/
def layoutForm : Form := fun v => do
  let name := "struct FormattingOptions"
  let own : List Part :=
    [.must "tabSize" .word32, .must "insertSpaces" .bool] ++
      Part.flags ["trimTrailingWhitespace", "insertFinalNewline", "trimFinalNewlines"]
  let found ← Form.membersOf name v
  Form.members own found
  let others := found.filter fun m => !own.any fun p => p.key == m.1
  Form.mapOf "a map" .text (.anyOf "FormattingProperty" [.bool, .signed32, .text]) (.object others)

def layoutPart : Part := .must "options" layoutForm

/-- Parameters that name files by their addresses, which are not looked into. -/
def filesForm (name item : String) (keys : List String) : Form :=
  .record name [.must "files" (.list (.record item (keys.map fun k => Part.must k .text)))]

/-! ### Things that are asked for again -/

def signatureForm : Form :=
  .record "struct SignatureInformation"
    [.must "label" .text, .may "documentation" (documentation "Documentation"),
     .may "parameters"
      (.list
        (.record "struct ParameterInformation"
          [.must "label" (.anyOf "ParameterLabel" [.text, .of (.pair .word32)]),
           .may "documentation" (documentation "Documentation")])),
     .may "activeParameter" .word32]

def signatureContext : Form :=
  .record "struct SignatureHelpContext"
    [.must "triggerKind" .signed32, .may "triggerCharacter" .text, .must "isRetrigger" .bool,
     .may "activeSignatureHelp"
      (.record "struct SignatureHelp"
        [.must "signatures" (.list signatureForm), .may "activeSignature" .word32,
         .may "activeParameter" .word32])]

def completionItemForm : Form :=
  .record "struct CompletionItem"
    [.must "label" .text,
     .may "labelDetails"
      (.record "struct CompletionItemLabelDetails" [.may "detail" .text, .may "description" .text]),
     .may "kind" .signed32, .may "detail" .text, .may "documentation" (documentation "Documentation"),
     .may "deprecated" .bool, .may "preselect" .bool, .may "sortText" .text, .may "filterText" .text,
     .may "insertText" .text, .may "insertTextFormat" .signed32, .may "insertTextMode" .signed32,
     .may "textEdit"
      (.anyOf "CompletionTextEdit"
        [editForm,
         .record "struct InsertReplaceEdit"
          [.must "newText" .text, .must "insert" rangeForm, .must "replace" rangeForm]]),
     .may "additionalTextEdits" (.list editForm), .may "command" commandForm,
     .may "commitCharacters" (.list .text), clientData, .may "tags" (.list .signed32)]

def inlayHintForm : Form :=
  .record "struct InlayHint"
    [.must "position" positionForm,
     .must "label"
      (.anyOf "InlayHintLabel"
        [.text,
         .list
          (.record "struct InlayHintLabelPart"
            [.must "value" .text, .may "tooltip" (documentation "InlayHintLabelPartTooltip"),
             .may "location" locationForm, .may "command" commandForm])]),
     .may "kind" .signed32, .may "textEdits" (.list editForm),
     .may "tooltip" (documentation "InlayHintTooltip"), .may "paddingLeft" .bool,
     .may "paddingRight" .bool, clientData]

def codeActionForm : Form :=
  .record "struct CodeAction"
    [.must "title" .text, .may "kind" .text, .may "diagnostics" (.list diagnosticForm),
     .may "edit" workspaceEditForm, .may "command" commandForm, .may "isPreferred" .bool,
     .may "disabled" (.record "struct CodeActionDisabled" [.must "reason" .text]), clientData]

def workspaceSymbolForm : Form :=
  .record "struct WorkspaceSymbol"
    [.must "name" .text, .must "kind" .signed32, .may "tags" (.list .signed32),
     .may "containerName" .text,
     .must "location"
      (.anyOf "OneOf" [locationForm, .record "struct WorkspaceLocation" [.must "uri" urlForm]]),
     clientData]

def colorForm : Form :=
  .record "struct Color"
    (["red", "green", "blue", "alpha"].map fun k => Part.must k (.number "f32"))

/-! ### The requests -/

def placeRequests : List (String × Form) :=
  [("textDocument/declaration", goingForm), ("textDocument/definition", goingForm),
   ("textDocument/typeDefinition", goingForm), ("textDocument/implementation", goingForm),
   ("textDocument/references",
    atPlace "struct ReferenceParams"
      [.must "context" (.record "struct ReferenceContext" [.must "includeDeclaration" .bool])]
      bothTokens),
   ("textDocument/documentHighlight", atPlace "struct DocumentHighlightParams" [] bothTokens),
   ("textDocument/completion",
    atPlace "struct CompletionParams"
      [.may "context"
        (.record "struct CompletionContext"
          [.must "triggerKind" .signed32, .may "triggerCharacter" .text])]
      bothTokens),
   ("textDocument/signatureHelp",
    atPlace "struct SignatureHelpParams" [.may "context" signatureContext] [progressParts]),
   ("textDocument/moniker", atPlace "struct MonikerParams" [] bothTokens),
   ("textDocument/prepareCallHierarchy", atPlace "struct CallHierarchyPrepareParams" [] [progressParts]),
   ("textDocument/prepareTypeHierarchy", atPlace "struct TypeHierarchyPrepareParams" [] [progressParts]),
   ("textDocument/linkedEditingRange", atPlace "struct LinkedEditingRangeParams" [] [progressParts]),
   ("textDocument/rename", atPlace "struct RenameParams" [.must "newName" .text] [progressParts]),
   ("textDocument/prepareRename", .record "struct TextDocumentPositionParams" placeParts),
   ("textDocument/onTypeFormatting",
    atPlace "struct DocumentOnTypeFormattingParams" [.must "ch" .text, layoutPart] [])]

def documentRequests : List (String × Form) :=
  [("textDocument/documentSymbol", inDocument "struct DocumentSymbolParams" [] bothTokens),
   ("textDocument/documentLink", inDocument "struct DocumentLinkParams" [] bothTokens),
   ("textDocument/codeLens", inDocument "struct CodeLensParams" [] bothTokens),
   ("textDocument/foldingRange", inDocument "struct FoldingRangeParams" [] bothTokens),
   ("textDocument/documentColor", inDocument "struct DocumentColorParams" [] bothTokens),
   ("textDocument/semanticTokens/full", inDocument "struct SemanticTokensParams" [] bothTokens),
   ("textDocument/semanticTokens/full/delta",
    inDocument "struct SemanticTokensDeltaParams" [.must "previousResultId" .text] bothTokens),
   ("textDocument/semanticTokens/range",
    inDocument "struct SemanticTokensRangeParams" [.must "range" rangeForm] bothTokens),
   ("textDocument/selectionRange",
    inDocument "struct SelectionRangeParams" [.must "positions" (.list positionForm)] bothTokens),
   ("textDocument/inlineValue",
    inDocument "struct InlineValueParams"
      [.must "range" rangeForm,
       .must "context"
        (.record "struct InlineValueContext"
          [.must "frameId" .signed32, .must "stoppedLocation" rangeForm])]
      [progressParts]),
   ("textDocument/inlayHint",
    inDocument "struct InlayHintParams" [.must "range" rangeForm] [progressParts]),
   ("textDocument/diagnostic",
    inDocument "struct DocumentDiagnosticParams"
      [.may "identifier" .text, .may "previousResultId" .text] bothTokens),
   ("textDocument/colorPresentation",
    inDocument "struct ColorPresentationParams" [.must "color" colorForm, .must "range" rangeForm]
      bothTokens),
   ("textDocument/formatting",
    inDocument "struct DocumentFormattingParams" [layoutPart] [progressParts]),
   ("textDocument/rangeFormatting",
    inDocument "struct DocumentRangeFormattingParams" [.must "range" rangeForm, layoutPart]
      [progressParts]),
   ("textDocument/willSaveWaitUntil",
    .record "struct WillSaveTextDocumentParams" [documentPart, .must "reason" .signed32])]

/-- The requests for more about something that the server has answered before. -/
def resolveRequests : List (String × Form) :=
  [("documentLink/resolve",
    .record "struct DocumentLink"
      [.must "range" rangeForm, .may "target" urlForm, .may "tooltip" .text, clientData]),
   ("codeLens/resolve",
    .record "struct CodeLens" [.must "range" rangeForm, .may "command" commandForm, clientData]),
   ("inlayHint/resolve", inlayHintForm), ("completionItem/resolve", completionItemForm),
   ("codeAction/resolve", codeActionForm), ("workspaceSymbol/resolve", workspaceSymbolForm),
   ("callHierarchy/incomingCalls", fromCall "struct CallHierarchyIncomingCallsParams"),
   ("callHierarchy/outgoingCalls", fromCall "struct CallHierarchyOutgoingCallsParams"),
   ("typeHierarchy/supertypes", fromType "struct TypeHierarchySupertypesParams"),
   ("typeHierarchy/subtypes", fromType "struct TypeHierarchySubtypesParams")]

def workspaceRequests : List (String × Form) :=
  [("workspace/symbol",
    .nested "struct WorkspaceSymbolParams" [.must "query" .text] [partialParts, progressParts]),
   ("workspace/diagnostic",
    .nested "struct WorkspaceDiagnosticParams"
      [.may "identifier" .text,
       .must "previousResultIds"
        (.list (.record "struct PreviousResultId" [.must "uri" urlForm, .must "value" .text]))]
      bothTokens),
   ("workspace/willCreateFiles", filesForm "struct CreateFilesParams" "struct FileCreate" ["uri"]),
   ("workspace/willRenameFiles",
    filesForm "struct RenameFilesParams" "struct FileRename" ["oldUri", "newUri"]),
   ("workspace/willDeleteFiles", filesForm "struct DeleteFilesParams" "struct FileDelete" ["uri"])]

/-- The requests that the server does not serve, with what their parameters have to look like. -/
def unservedRequests : List (String × Form) :=
  placeRequests ++ documentRequests ++ resolveRequests ++ workspaceRequests

end LintBridge.Server
