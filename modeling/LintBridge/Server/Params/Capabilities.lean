import LintBridge.Server.Params.Form

/-!
What a client says that it can do. The server uses none of it, but takes no greeting in which it is wrong.
-/

set_option autoImplicit false
set_option relaxedAutoImplicit false

namespace LintBridge.Server

open Json (Form Part Value)

def nameList : Form := .list .text

def kindList : Form := .list .signed32

def formatList : Form := .list markupKind

def registers : Part := .may "dynamicRegistration" .bool

def registration : Form := .record "struct DynamicRegistrationClientCapabilities" [registers]

def properties (name : String) : Form := .record name [.must "properties" nameList]

/-- An ability to show new results when the server asks for it. -/
def refreshing (name : String) : Form := .record name (Part.flags ["refreshSupport"])

def kindSet (name : String) : Form := .record name [.may "valueSet" kindList]

/-- Tags: a yes or a no, or the set of those that are known. -/
def tagSupport : Part :=
  .spare "tagSupport" fun
    | .bool _ => .ok ()
    | v => Form.record "struct TagSupport" [.must "valueSet" kindList] v

/-! ### Abilities for documents -/

def completionItemAbility : Form :=
  .record "struct CompletionItemCapability"
    [.may "snippetSupport" .bool, .may "commitCharactersSupport" .bool,
     .may "documentationFormat" formatList, .may "deprecatedSupport" .bool, .may "preselectSupport" .bool,
     tagSupport, .may "insertReplaceSupport" .bool,
     .may "resolveSupport" (properties "struct CompletionItemCapabilityResolveSupport"),
     .may "insertTextModeSupport" (.record "struct InsertTextModeSupport" [.must "valueSet" kindList]),
     .may "labelDetailsSupport" .bool]

def completionAbility : Form :=
  .record "struct CompletionClientCapabilities"
    [registers, .may "completionItem" completionItemAbility,
     .may "completionItemKind" (kindSet "struct CompletionItemKindCapability"),
     .may "contextSupport" .bool, .may "insertTextMode" .signed32,
     .may "completionList" (.record "struct CompletionListCapability" [.may "itemDefaults" nameList])]

def signatureAbility : Form :=
  .record "struct SignatureHelpClientCapabilities"
    [registers,
     .may "signatureInformation"
      (.record "struct SignatureInformationSettings"
        [.may "documentationFormat" formatList,
         .may "parameterInformation"
          (.record "struct ParameterInformationSettings" (Part.flags ["labelOffsetSupport"])),
         .may "activeParameterSupport" .bool]),
     .may "contextSupport" .bool]

def symbolKinds : Part := .may "symbolKind" (kindSet "struct SymbolKindCapability")

def documentSymbolAbility : Form :=
  .record "struct DocumentSymbolClientCapabilities"
    [registers, symbolKinds, .may "hierarchicalDocumentSymbolSupport" .bool, tagSupport]

def goingAbility : Form := .record "struct GotoCapability" [registers, .may "linkSupport" .bool]

def actionAbility : Form :=
  .record "struct CodeActionClientCapabilities"
    [registers,
     .may "codeActionLiteralSupport"
      (.record "struct CodeActionLiteralSupport"
        [.must "codeActionKind"
          (.record "struct CodeActionKindLiteralSupport" [.must "valueSet" nameList])]),
     .may "isPreferredSupport" .bool, .may "disabledSupport" .bool, .may "dataSupport" .bool,
     .may "resolveSupport" (properties "struct CodeActionCapabilityResolveSupport"),
     .may "honorsChangeAnnotations" .bool]

def renameAbility : Form :=
  .record "struct RenameClientCapabilities"
    [registers, .may "prepareSupport" .bool, .may "prepareSupportDefaultBehavior" .signed32,
     .may "honorsChangeAnnotations" .bool]

def diagnosticsAbility : Form :=
  .record "struct PublishDiagnosticsClientCapabilities"
    ([.may "relatedInformation" .bool, tagSupport] ++
      Part.flags ["versionSupport", "codeDescriptionSupport", "dataSupport"])

def foldingAbility : Form :=
  .record "struct FoldingRangeClientCapabilities"
    [registers, .may "rangeLimit" .word32, .may "lineFoldingOnly" .bool,
     .may "foldingRangeKind"
      (.record "struct FoldingRangeKindCapability"
        [.may "valueSet" (.list (.oneOf ["comment", "imports", "region"]))]),
     .may "foldingRange" (.record "struct FoldingRangeCapability" (Part.flags ["collapsedText"]))]

def tokensAbility : Form :=
  .record "struct SemanticTokensClientCapabilities"
    ([registers,
      .must "requests"
        (.record "struct SemanticTokensClientCapabilitiesRequests"
          [.may "range" .bool,
           .may "full"
            (.anyOf "SemanticTokensFullOptions"
              [.bool, .record "struct variant SemanticTokensFullOptions::Delta" (Part.flags ["delta"])])]),
      .must "tokenTypes" nameList, .must "tokenModifiers" nameList, .must "formats" nameList] ++
      Part.flags
        ["overlappingTokenSupport", "multilineTokenSupport", "serverCancelSupport", "augmentsSyntaxTokens"])

def documentAbilities : Form :=
  .record "struct TextDocumentClientCapabilities"
    [.may "synchronization"
      (.record "struct TextDocumentSyncClientCapabilities"
        (Part.flags ["dynamicRegistration", "willSave", "willSaveWaitUntil", "didSave"])),
     .may "completion" completionAbility,
     .may "hover" (.record "struct HoverClientCapabilities" [registers, .may "contentFormat" formatList]),
     .may "signatureHelp" signatureAbility,
     .may "references" registration, .may "documentHighlight" registration,
     .may "documentSymbol" documentSymbolAbility,
     .may "formatting" registration, .may "rangeFormatting" registration,
     .may "onTypeFormatting" registration,
     .may "declaration" goingAbility, .may "definition" goingAbility, .may "typeDefinition" goingAbility,
     .may "implementation" goingAbility,
     .may "codeAction" actionAbility, .may "codeLens" registration,
     .may "documentLink"
      (.record "struct DocumentLinkClientCapabilities" [registers, .may "tooltipSupport" .bool]),
     .may "colorProvider" registration, .may "rename" renameAbility,
     .may "publishDiagnostics" diagnosticsAbility, .may "foldingRange" foldingAbility,
     .may "selectionRange" (.record "struct SelectionRangeClientCapabilities" [registers]),
     .may "linkedEditingRange" registration, .may "callHierarchy" registration,
     .may "semanticTokens" tokensAbility, .may "moniker" registration,
     .may "typeHierarchy" registration, .may "inlineValue" registration,
     .may "inlayHint"
      (.record "struct InlayHintClientCapabilities"
        [registers, .may "resolveSupport" (properties "struct InlayHintResolveClientCapabilities")]),
     .may "diagnostic"
      (.record "struct DiagnosticClientCapabilities" [registers, .may "relatedDocumentSupport" .bool])]

/-! ### Abilities for the rest -/

def workspaceEditAbility : Form :=
  .record "struct WorkspaceEditClientCapabilities"
    [.may "documentChanges" .bool,
     .may "resourceOperations" (.list (.oneOf ["create", "rename", "delete"])),
     .may "failureHandling" (.oneOf ["abort", "transactional", "textOnlyTransactional", "undo"]),
     .may "normalizesLineEndings" .bool,
     .may "changeAnnotationSupport"
      (.record "struct ChangeAnnotationWorkspaceEditClientCapabilities" (Part.flags ["groupsOnLabel"]))]

def workspaceAbilities : Form :=
  .record "struct WorkspaceClientCapabilities"
    [.may "applyEdit" .bool, .may "workspaceEdit" workspaceEditAbility,
     .may "didChangeConfiguration" registration,
     .may "didChangeWatchedFiles"
      (.record "struct DidChangeWatchedFilesClientCapabilities"
        (Part.flags ["dynamicRegistration", "relativePatternSupport"])),
     .may "symbol"
      (.record "struct WorkspaceSymbolClientCapabilities"
        [registers, symbolKinds, tagSupport,
         .may "resolveSupport" (properties "struct WorkspaceSymbolResolveSupportCapability")]),
     .may "executeCommand" registration, .may "workspaceFolders" .bool, .may "configuration" .bool,
     .may "semanticTokens" (refreshing "struct SemanticTokensWorkspaceClientCapabilities"),
     .may "codeLens" (refreshing "struct CodeLensWorkspaceClientCapabilities"),
     .may "fileOperations"
      (.record "struct WorkspaceFileOperationsClientCapabilities"
        (Part.flags
          ["dynamicRegistration", "didCreate", "willCreate", "didRename", "willRename", "didDelete",
           "willDelete"])),
     .may "inlineValue" (refreshing "struct InlineValueWorkspaceClientCapabilities"),
     .may "inlayHint" (refreshing "struct InlayHintWorkspaceClientCapabilities"),
     .may "diagnostic" (refreshing "struct DiagnosticWorkspaceClientCapabilities")]

def windowAbilities : Form :=
  .record "struct WindowClientCapabilities"
    [.may "workDoneProgress" .bool,
     .may "showMessage"
      (.record "struct ShowMessageRequestClientCapabilities"
        [.may "messageActionItem"
          (.record "struct MessageActionItemCapabilities" (Part.flags ["additionalPropertiesSupport"]))]),
     .may "showDocument" (.record "struct ShowDocumentClientCapabilities" [.must "support" .bool])]

def generalAbilities : Form :=
  .record "struct GeneralClientCapabilities"
    [.may "regularExpressions"
      (.record "struct RegularExpressionsClientCapabilities"
        [.must "engine" .text, .may "version" .text]),
     .may "markdown"
      (.record "struct MarkdownClientCapabilities"
        [.must "parser" .text, .may "version" .text, .may "allowedTags" nameList]),
     .may "staleRequestSupport"
      (.record "struct StaleRequestSupportClientCapabilities"
        [.must "cancel" .bool, .must "retryOnContentModified" nameList]),
     .may "positionEncodings" nameList]

def capabilities : Form :=
  .record "struct ClientCapabilities"
    [.may "workspace" workspaceAbilities, .may "textDocument" documentAbilities,
     .may "window" windowAbilities, .may "general" generalAbilities, .may "experimental" .any]

end LintBridge.Server
