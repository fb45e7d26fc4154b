/-
Module: HttpScript.Server.Unserved
Purpose: Messages of the protocol that this server leaves to others.  A request among them is
  refused, and its content is looked at first.
Main exports: Unserved.requests, Unserved.notifications
-/
import HttpScript.Server.Elements

namespace HttpScript.Server.Unserved

open Json Shape Elements

/-! ### Contents -/

/-- A position in a document, and where to send the results. -/
def positionQuery (name : String) : Shape := recordWith name [] [atPosition, withProgress, inPieces]

/-- A position in a document, about which there is one result. -/
def positionLookup (name : String) : Shape := recordWith name [] [atPosition, withProgress]

/-- A document, further fields, and where to send the results. -/
def documentQuery (name : String) (more : List (Member)) : Shape :=
  recordWith name (has "textDocument" document :: more) [withProgress, inPieces]

/-- An item of a hierarchy whose neighbours are asked for. -/
def hierarchyQuery (name : String) (item : Shape) : Shape :=
  recordWith name [has "item" item] [withProgress, inPieces]

def callItem : Shape :=
  record "CallHierarchyItem" [
    has "name" text,
    has "kind" integer,
    may "tags" (listOf integer),
    may "detail" text,
    has "uri" link,
    has "range" span,
    has "selectionRange" span,
    may "data" any]

def typeItem : Shape :=
  record "TypeHierarchyItem" [
    has "name" text,
    has "kind" integer,
    may "tags" integer,
    may "detail" text,
    has "uri" link,
    has "range" span,
    has "selectionRange" span,
    may "data" any]

def documentLink : Shape :=
  record "DocumentLink"
    [has "range" span, may "target" link, may "tooltip" text, may "data" any]

def codeLens : Shape :=
  record "CodeLens" [has "range" span, may "command" command, may "data" any]

def inlayHint : Shape :=
  let part := record "InlayHintLabelPart" [
    has "value" text,
    may "tooltip" (union "InlayHintLabelPartTooltip" [text, markup]),
    may "location" location,
    may "command" command]
  record "InlayHint" [
    has "position" place,
    has "label" (union "InlayHintLabel" [text, listOf part]),
    may "kind" integer,
    may "textEdits" (listOf textEdit),
    may "tooltip" (union "InlayHintTooltip" [text, markup]),
    may "paddingLeft" boolean,
    may "paddingRight" boolean,
    may "data" any]

def completionItem : Shape :=
  let insertReplace := record "InsertReplaceEdit"
    [has "newText" text, has "insert" span, has "replace" span]
  record "CompletionItem" [
    has "label" text,
    may "labelDetails"
      (record "CompletionItemLabelDetails" [may "detail" text, may "description" text]),
    may "kind" integer,
    may "detail" text,
    may "documentation" documentation,
    may "deprecated" boolean,
    may "preselect" boolean,
    may "sortText" text,
    may "filterText" text,
    may "insertText" text,
    may "insertTextFormat" integer,
    may "insertTextMode" integer,
    may "textEdit" (union "CompletionTextEdit" [textEdit, insertReplace]),
    may "additionalTextEdits" (listOf textEdit),
    may "command" command,
    may "commitCharacters" (listOf text),
    may "data" any,
    may "tags" (listOf integer)]

def signatureHelp : Shape :=
  let twoNumbers : Shape := fun v => match v with
    | .array [a, b] => do natural a; natural b
    | _ => Decode.wrongType v "an array of length 2"
  let parameter := record "ParameterInformation"
    [has "label" (union "ParameterLabel" [text, twoNumbers]), may "documentation" documentation]
  let signature := record "SignatureInformation" [
    has "label" text,
    may "documentation" documentation,
    may "parameters" (listOf parameter),
    may "activeParameter" natural]
  record "SignatureHelp" [
    has "signatures" (listOf signature),
    may "activeSignature" natural,
    may "activeParameter" natural]

/-- An edit of one version of a document.  An edit with an annotation has all that a plain one has.
-/
def documentEdit : Shape :=
  let versioned := record "OptionalVersionedTextDocumentIdentifier"
    [has "uri" link, may "version" integer]
  record "TextDocumentEdit" [
    has "textDocument" versioned,
    has "edits" (listOf (union "OneOf" [textEdit]))]

/-- The creation, renaming or deletion of a file, told apart by its `kind`. -/
def fileOperation : Shape :=
  let create := record "CreateFile" [
    has "uri" link,
    may "options" (record "CreateFileOptions" (mayFlags ["overwrite", "ignoreIfExists"])),
    may "annotationId" text]
  let rename := record "RenameFile" [
    has "oldUri" link,
    has "newUri" link,
    may "options" (record "RenameFileOptions" (mayFlags ["overwrite", "ignoreIfExists"])),
    may "annotationId" text]
  let delete := record "DeleteFile" [
    has "uri" link,
    may "options" (record "DeleteFileOptions"
      (mayFlags ["recursive", "ignoreIfNotExists"] ++ [may "annotationId" text]))]
  fun v => match v.member? "kind" with
    | some (.string "create") => create v
    | some (.string "rename") => rename v
    | some (.string "delete") => delete v
    | _ => Decode.wrongType v "internally tagged enum ResourceOp"

def workspaceEdit : Shape :=
  let annotation := record "ChangeAnnotation"
    [has "label" text, may "needsConfirmation" boolean, may "description" text]
  let operation := union "DocumentChangeOperation" [fileOperation, documentEdit]
  let changes := mapOf "map" (fun key => link (.string key)) (listOf textEdit)
  record "WorkspaceEdit" [
    mayOmit "changes" (readable (Decode.optional changes)),
    may "documentChanges" (union "DocumentChanges" [listOf documentEdit, listOf operation]),
    may "changeAnnotations" (mapOf "a map" (fun _ => .ok ()) annotation)]

def codeAction : Shape :=
  record "CodeAction" [
    has "title" text,
    may "kind" text,
    may "diagnostics" (listOf diagnostic),
    may "edit" workspaceEdit,
    may "command" command,
    may "isPreferred" boolean,
    may "disabled" (record "CodeActionDisabled" [has "reason" text]),
    may "data" any]

def color : Shape :=
  record "Color" [has "red" number, has "green" number, has "blue" number, has "alpha" number]

/-- How documents are to be formatted.  All members that have no meaning of their own are properties
for formatters. -/
def formattingOptions (v : Value) : Except DecodeError Unit :=
  let own := [has "tabSize" natural, has "insertSpaces" boolean]
    ++ mayFlags ["trimTrailingWhitespace", "insertFinalNewline", "trimFinalNewlines"]
  let property := union "FormattingProperty" [boolean, integer, text]
  let properties (members : List (String × Value)) : Except DecodeError Unit :=
    members.forM (fun m => if own.any (·.name == m.1) then .ok () else property m.2)
  (fields own).decodeWith "FormattingOptions" [properties] v

def workspaceSymbol : Shape :=
  record "WorkspaceSymbol" [
    has "name" text,
    has "kind" integer,
    may "tags" (listOf integer),
    may "containerName" text,
    has "location"
      (union "OneOf" [location, record "WorkspaceLocation" [has "uri" link]]),
    may "data" any]

/-- Files that are about to change. -/
def files (name item : String) (members : List String) : Shape :=
  record name [has "files" (listOf (record item (members.map (has · text))))]

/-! ### Messages -/

/-- Requests about whole documents. -/
def documentRequests : List (String × Shape) := [
  ("textDocument/willSaveWaitUntil",
    record "WillSaveTextDocumentParams" [has "textDocument" document, has "reason" integer]),
  ("textDocument/documentLink", documentQuery "DocumentLinkParams" []),
  ("documentLink/resolve", documentLink),
  ("codeLens/resolve", codeLens),
  ("textDocument/foldingRange", documentQuery "FoldingRangeParams" []),
  ("textDocument/selectionRange",
    documentQuery "SelectionRangeParams" [has "positions" (listOf place)]),
  ("textDocument/documentSymbol", documentQuery "DocumentSymbolParams" []),
  ("textDocument/semanticTokens/full", documentQuery "SemanticTokensParams" []),
  ("textDocument/semanticTokens/full/delta",
    documentQuery "SemanticTokensDeltaParams" [has "previousResultId" text]),
  ("textDocument/semanticTokens/range",
    documentQuery "SemanticTokensRangeParams" [has "range" span]),
  ("textDocument/inlineValue",
    recordWith "InlineValueParams" [
        has "textDocument" document,
        has "range" span,
        has "context" (record "InlineValueContext"
          [has "frameId" integer, has "stoppedLocation" span])]
      [withProgress]),
  ("textDocument/inlayHint",
    recordWith "InlayHintParams" [has "textDocument" document, has "range" span] [withProgress]),
  ("inlayHint/resolve", inlayHint),
  ("textDocument/diagnostic",
    documentQuery "DocumentDiagnosticParams" [may "identifier" text, may "previousResultId" text]),
  ("textDocument/codeAction",
    documentQuery "CodeActionParams" [
      has "range" span,
      has "context" (record "CodeActionContext" [
        has "diagnostics" (listOf diagnostic),
        may "only" (listOf text),
        may "triggerKind" integer])]),
  ("codeAction/resolve", codeAction),
  ("textDocument/documentColor", documentQuery "DocumentColorParams" []),
  ("textDocument/colorPresentation",
    documentQuery "ColorPresentationParams" [has "color" color, has "range" span]),
  ("textDocument/formatting",
    recordWith "DocumentFormattingParams"
      [has "textDocument" document, has "options" formattingOptions] [withProgress]),
  ("textDocument/rangeFormatting",
    recordWith "DocumentRangeFormattingParams"
      [has "textDocument" document, has "range" span, has "options" formattingOptions]
      [withProgress])]

/-- Requests about a position in a document, and about what was found there. -/
def positionRequests : List (String × Shape) := [
  ("textDocument/declaration", positionQuery "GotoDefinitionParams"),
  ("textDocument/definition", positionQuery "GotoDefinitionParams"),
  ("textDocument/typeDefinition", positionQuery "GotoDefinitionParams"),
  ("textDocument/implementation", positionQuery "GotoDefinitionParams"),
  ("textDocument/references",
    recordWith "ReferenceParams"
      [has "context" (record "ReferenceContext" [has "includeDeclaration" boolean])]
      [atPosition, withProgress, inPieces]),
  ("textDocument/prepareCallHierarchy", positionLookup "CallHierarchyPrepareParams"),
  ("callHierarchy/incomingCalls", hierarchyQuery "CallHierarchyIncomingCallsParams" callItem),
  ("callHierarchy/outgoingCalls", hierarchyQuery "CallHierarchyOutgoingCallsParams" callItem),
  ("textDocument/prepareTypeHierarchy", positionLookup "TypeHierarchyPrepareParams"),
  ("typeHierarchy/supertypes", hierarchyQuery "TypeHierarchySupertypesParams" typeItem),
  ("typeHierarchy/subtypes", hierarchyQuery "TypeHierarchySubtypesParams" typeItem),
  ("textDocument/documentHighlight", positionQuery "DocumentHighlightParams"),
  ("textDocument/hover", positionLookup "HoverParams"),
  ("textDocument/moniker", positionQuery "MonikerParams"),
  ("textDocument/completion",
    recordWith "CompletionParams"
      [may "context" (record "CompletionContext"
        [has "triggerKind" integer, may "triggerCharacter" text])]
      [atPosition, withProgress, inPieces]),
  ("completionItem/resolve", completionItem),
  ("textDocument/signatureHelp",
    recordWith "SignatureHelpParams"
      [may "context" (record "SignatureHelpContext" [
        has "triggerKind" integer,
        may "triggerCharacter" text,
        has "isRetrigger" boolean,
        may "activeSignatureHelp" signatureHelp])]
      [atPosition, withProgress]),
  ("textDocument/onTypeFormatting",
    recordWith "DocumentOnTypeFormattingParams"
      [has "ch" text, has "options" formattingOptions] [atPosition]),
  ("textDocument/rename",
    recordWith "RenameParams" [has "newName" text] [atPosition, withProgress]),
  ("textDocument/prepareRename", record "TextDocumentPositionParams" atPosition),
  ("textDocument/linkedEditingRange", positionLookup "LinkedEditingRangeParams")]

/-- Requests about the workspace. -/
def workspaceRequests : List (String × Shape) := [
  ("workspace/diagnostic",
    recordWith "WorkspaceDiagnosticParams" [
        may "identifier" text,
        has "previousResultIds"
          (listOf (record "PreviousResultId" [has "uri" link, has "value" text]))]
      [withProgress, inPieces]),
  ("workspace/symbol",
    recordWith "WorkspaceSymbolParams" [has "query" text] [inPieces, withProgress]),
  ("workspaceSymbol/resolve", workspaceSymbol),
  ("workspace/executeCommand",
    recordWith "ExecuteCommandParams"
      [has "command" text, mayOmit "arguments" (listOf any)] [withProgress]),
  ("workspace/willCreateFiles", files "CreateFilesParams" "FileCreate" ["uri"]),
  ("workspace/willRenameFiles", files "RenameFilesParams" "FileRename" ["oldUri", "newUri"]),
  ("workspace/willDeleteFiles", files "DeleteFilesParams" "FileDelete" ["uri"])]

/-- Requests, and what their contents have to be. -/
def requests : List (String × Shape) :=
  documentRequests ++ positionRequests ++ workspaceRequests

/-- Notices of events that do not matter to this server. -/
def notifications : List String := [
  "textDocument/willSave", "textDocument/didSave", "workspace/didChangeWorkspaceFolders",
  "workspace/didCreateFiles", "workspace/didRenameFiles", "workspace/didDeleteFiles",
  "workspace/didChangeWatchedFiles"]

end HttpScript.Server.Unserved
