/-
Module: HttpScript.Server.Capability
Purpose: What an editor says it can do.  The server adapts to none of it, but a description that
  cannot be read keeps a connection from being opened.
Main exports: Capability.all
-/
import HttpScript.Server.Elements

namespace HttpScript.Server.Capability

open Json Shape Elements

/-- Whether the editor can be told of a feature after the start. -/
def late : Member := may "dynamicRegistration" boolean

/-- A feature of which only that is said. -/
def registration : Shape := record "DynamicRegistrationClientCapabilities" [late]

/-- Tags that the editor knows.  Some editors only say whether they know any. -/
def tagSupport : Member :=
  .withDefault "tagSupport" (fun v => match v with
    | .null => .ok ()
    | .bool _ => .ok ()
    | other => record "TagSupport" [has "valueSet" (listOf integer)] other) ()

/-- The properties that the editor may ask for later. -/
def resolvable (name : String) : Shape := record name [has "properties" (listOf text)]

/-- Whether the editor can be asked to look again. -/
def refreshable (name : String) : Shape := record name [may "refreshSupport" boolean]

def symbolKinds : Shape := record "SymbolKindCapability" [may "valueSet" (listOf integer)]

/-! ### The workspace -/

def workspaceEdit : Shape :=
  record "WorkspaceEditClientCapabilities" [
    may "documentChanges" boolean,
    may "resourceOperations" (listOf (name ["create", "rename", "delete"])),
    may "failureHandling" (name ["abort", "transactional", "textOnlyTransactional", "undo"]),
    may "normalizesLineEndings" boolean,
    may "changeAnnotationSupport"
      (record "ChangeAnnotationWorkspaceEditClientCapabilities" [may "groupsOnLabel" boolean])]

def workspace : Shape :=
  record "WorkspaceClientCapabilities" [
    may "applyEdit" boolean,
    may "workspaceEdit" workspaceEdit,
    may "didChangeConfiguration" registration,
    may "didChangeWatchedFiles"
      (record "DidChangeWatchedFilesClientCapabilities"
        [late, may "relativePatternSupport" boolean]),
    may "symbol"
      (record "WorkspaceSymbolClientCapabilities" [
        late,
        may "symbolKind" symbolKinds,
        tagSupport,
        may "resolveSupport" (resolvable "WorkspaceSymbolResolveSupportCapability")]),
    may "executeCommand" registration,
    may "workspaceFolders" boolean,
    may "configuration" boolean,
    may "semanticTokens" (refreshable "SemanticTokensWorkspaceClientCapabilities"),
    may "codeLens" (refreshable "CodeLensWorkspaceClientCapabilities"),
    may "fileOperations"
      (record "WorkspaceFileOperationsClientCapabilities" (late :: mayFlags
        ["didCreate", "willCreate", "didRename", "willRename", "didDelete", "willDelete"])),
    may "inlineValue" (refreshable "InlineValueWorkspaceClientCapabilities"),
    may "inlayHint" (refreshable "InlayHintWorkspaceClientCapabilities"),
    may "diagnostic" (refreshable "DiagnosticWorkspaceClientCapabilities")]

/-! ### Documents -/

def completionItem : Shape :=
  record "CompletionItemCapability" [
    may "snippetSupport" boolean,
    may "commitCharactersSupport" boolean,
    may "documentationFormat" (listOf markupKind),
    may "deprecatedSupport" boolean,
    may "preselectSupport" boolean,
    tagSupport,
    may "insertReplaceSupport" boolean,
    may "resolveSupport" (resolvable "CompletionItemCapabilityResolveSupport"),
    may "insertTextModeSupport" (record "InsertTextModeSupport" [has "valueSet" (listOf integer)]),
    may "labelDetailsSupport" boolean]

def completion : Shape :=
  record "CompletionClientCapabilities" [
    late,
    may "completionItem" completionItem,
    may "completionItemKind"
      (record "CompletionItemKindCapability" [may "valueSet" (listOf integer)]),
    may "contextSupport" boolean,
    may "insertTextMode" integer,
    may "completionList" (record "CompletionListCapability" [may "itemDefaults" (listOf text)])]

def signatureHelp : Shape :=
  record "SignatureHelpClientCapabilities" [
    late,
    may "signatureInformation"
      (record "SignatureInformationSettings" [
        may "documentationFormat" (listOf markupKind),
        may "parameterInformation"
          (record "ParameterInformationSettings" [may "labelOffsetSupport" boolean]),
        may "activeParameterSupport" boolean]),
    may "contextSupport" boolean]

def goto : Shape := record "GotoCapability" [late, may "linkSupport" boolean]

def codeAction : Shape :=
  let kinds := record "CodeActionKindLiteralSupport" [has "valueSet" (listOf text)]
  record "CodeActionClientCapabilities" [
    late,
    may "codeActionLiteralSupport" (record "CodeActionLiteralSupport" [has "codeActionKind" kinds]),
    may "isPreferredSupport" boolean,
    may "disabledSupport" boolean,
    may "dataSupport" boolean,
    may "resolveSupport" (resolvable "CodeActionCapabilityResolveSupport"),
    may "honorsChangeAnnotations" boolean]

def foldingRange : Shape :=
  record "FoldingRangeClientCapabilities" [
    late,
    may "rangeLimit" natural,
    may "lineFoldingOnly" boolean,
    may "foldingRangeKind"
      (record "FoldingRangeKindCapability"
        [may "valueSet" (listOf (name ["comment", "imports", "region"]))]),
    may "foldingRange" (record "FoldingRangeCapability" [may "collapsedText" boolean])]

def semanticTokens : Shape :=
  let delta : Shape := fun v => match v with
    | .object _ => record "Delta" [may "delta" boolean] v
    | _ => Decode.wrongType v "struct variant SemanticTokensFullOptions::Delta"
  record "SemanticTokensClientCapabilities" ([
      late,
      has "requests"
        (record "SemanticTokensClientCapabilitiesRequests" [
          may "range" boolean,
          may "full" (union "SemanticTokensFullOptions" [boolean, delta])]),
      has "tokenTypes" (listOf text),
      has "tokenModifiers" (listOf text),
      has "formats" (listOf (name ["relative"]))]
    ++ mayFlags ["overlappingTokenSupport", "multilineTokenSupport", "serverCancelSupport",
      "augmentsSyntaxTokens"])

def textDocument : Shape :=
  record "TextDocumentClientCapabilities" [
    may "synchronization"
      (record "TextDocumentSyncClientCapabilities"
        (late :: mayFlags ["willSave", "willSaveWaitUntil", "didSave"])),
    may "completion" completion,
    may "hover"
      (record "HoverClientCapabilities" [late, may "contentFormat" (listOf markupKind)]),
    may "signatureHelp" signatureHelp,
    may "references" registration,
    may "documentHighlight" registration,
    may "documentSymbol"
      (record "DocumentSymbolClientCapabilities" [
        late,
        may "symbolKind" symbolKinds,
        may "hierarchicalDocumentSymbolSupport" boolean,
        tagSupport]),
    may "formatting" registration,
    may "rangeFormatting" registration,
    may "onTypeFormatting" registration,
    may "declaration" goto,
    may "definition" goto,
    may "typeDefinition" goto,
    may "implementation" goto,
    may "codeAction" codeAction,
    may "codeLens" registration,
    may "documentLink"
      (record "DocumentLinkClientCapabilities" [late, may "tooltipSupport" boolean]),
    may "colorProvider" registration,
    may "rename"
      (record "RenameClientCapabilities" [
        late,
        may "prepareSupport" boolean,
        may "prepareSupportDefaultBehavior" integer,
        may "honorsChangeAnnotations" boolean]),
    may "publishDiagnostics"
      (record "PublishDiagnosticsClientCapabilities" [
        may "relatedInformation" boolean,
        tagSupport,
        may "versionSupport" boolean,
        may "codeDescriptionSupport" boolean,
        may "dataSupport" boolean]),
    may "foldingRange" foldingRange,
    may "selectionRange" (record "SelectionRangeClientCapabilities" [late]),
    may "linkedEditingRange" registration,
    may "callHierarchy" registration,
    may "semanticTokens" semanticTokens,
    may "moniker" registration,
    may "typeHierarchy" registration,
    may "inlineValue" registration,
    may "inlayHint"
      (record "InlayHintClientCapabilities"
        [late, may "resolveSupport" (resolvable "InlayHintResolveClientCapabilities")]),
    may "diagnostic"
      (record "DiagnosticClientCapabilities" [late, may "relatedDocumentSupport" boolean])]

/-! ### The editor itself -/

def window : Shape :=
  let item :=
    record "MessageActionItemCapabilities" [may "additionalPropertiesSupport" boolean]
  record "WindowClientCapabilities" [
    may "workDoneProgress" boolean,
    may "showMessage"
      (record "ShowMessageRequestClientCapabilities" [may "messageActionItem" item]),
    may "showDocument" (record "ShowDocumentClientCapabilities" [has "support" boolean])]

def general : Shape :=
  record "GeneralClientCapabilities" [
    may "regularExpressions"
      (record "RegularExpressionsClientCapabilities" [has "engine" text, may "version" text]),
    may "markdown"
      (record "MarkdownClientCapabilities"
        [has "parser" text, may "version" text, may "allowedTags" (listOf text)]),
    may "staleRequestSupport"
      (record "StaleRequestSupportClientCapabilities"
        [has "cancel" boolean, has "retryOnContentModified" (listOf text)]),
    may "positionEncodings" (listOf text)]

/-- Everything an editor can say. -/
def all : Shape :=
  record "ClientCapabilities" [
    may "workspace" workspace,
    may "textDocument" textDocument,
    may "window" window,
    may "general" general,
    may "experimental" any]

end HttpScript.Server.Capability
