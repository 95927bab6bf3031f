import MetricQuery.Server.Handshake
import MetricQuery.Server.Session

/-!
The methods that an editor may call, and their parameters. A method that the server knows but does
not offer still has its parameters read.
-/

set_option autoImplicit false

namespace MetricQuery

/-- What a method is to the server. -/
inductive Method where
  /-- Opens the session. -/
  | handshake
  /-- Closes the session. -/
  | shutdown
  | exit
  /-- Takes back a call. -/
  | cancel
  /-- Asks for something that the server may not offer. -/
  | request (read : Decoder (Option Request))
  /-- Tells something that may be of no interest. -/
  | notification (read : Decoder (Option Message))

namespace Params

/-- A document, by its address. -/
def document : Decoder String := fun value => do
  let r ← Decoder.record "TextDocumentIdentifier" [.required "uri" .address] value
  r.field "uri" .address

/-- A document, by its address and version. -/
def versionedDocument : Decoder String := fun value => do
  let r ← Decoder.record "VersionedTextDocumentIdentifier"
    [.required "uri" .address, .required "version" .int32] value
  r.field "uri" .address

/-- A document with its text. -/
def documentItem : Decoder (String × Text) := fun value => do
  let r ← Decoder.record "TextDocumentItem"
    [.required "uri" .address, .required "languageId" .string, .required "version" .int32,
      .required "text" .string] value
  return (← r.field "uri" .address, (← r.field "text" .string).toList)

/-- A position. -/
def position : Decoder Position := fun value => do
  let r ← Decoder.record "Position" [.required "line" .nat32, .required "character" .nat32] value
  return ⟨← r.field "line" .nat32, ← r.field "character" .nat32⟩

/-- A range. -/
def range : Decoder Json.Record :=
  .record "Range" [.required "start" position, .required "end" position]

/-- The text of a change. -/
def change : Decoder Text := fun value => do
  let r ← Decoder.record "TextDocumentContentChangeEvent"
    [.optional "range" range, .optional "rangeLength" .nat32, .required "text" .string] value
  return (← r.field "text" .string).toList

/-- A token: a small integer or a string. -/
def token : Decoder Json := fun value =>
  match Decoder.int32 value, Decoder.string value with
  | .error _, .error _ => .error (.noForm "NumberOrString")
  | _, _ => .ok value

/-- The fields that name a document. -/
def documentFields : List Field := [.required "textDocument" document]

/-- The fields that name a place in a document. -/
def placeFields : List Field := documentFields ++ [.required "position" position]

/-- The field under which progress is reported. -/
def progressFields : List Field := [.optional "workDoneToken" token]

/-- The field under which a part of the results is sent ahead. -/
def partFields : List Field := [.optional "partialResultToken" token]

/-- Parameters with a place in a document, and fields of their own. -/
def place (title : String) (own : List Field) (more : List Field) : Decoder (String × Position) :=
  fun value => do
    let r ← Decoder.merged title [own, placeFields, progressFields, more] value
    return (← r.field "textDocument" document, ← r.field "position" position)

/-- Parameters of a request that the server does not offer. -/
def unoffered {α : Type} (read : Decoder α) : Method :=
  .request fun value => (read value).map fun _ => none

/-- What led to a completion. -/
def completionContext : Decoder Json.Record :=
  .record "CompletionContext" [.required "triggerKind" .int32, .optional "triggerCharacter" .string]

/-- What references are asked for. -/
def referenceContext : Decoder Json.Record :=
  .record "ReferenceContext" [.required "includeDeclaration" .bool]

/-- A jump to another place. -/
def jump : Method := unoffered (place "GotoDefinitionParams" [] partFields)

/-- Parameters that name a document, and nothing else of their own. -/
def wholeDocument (title : String) : Method :=
  unoffered (.merged title [documentFields, progressFields, partFields])

/-- A whole document, with fields of its own. -/
def ownDocument (title : String) (own : List Field) (more : List Field) : Method :=
  unoffered (.merged title [documentFields ++ own, progressFields, more])

/-- A setting of formatting: a truth value, a small integer or a string. -/
def formattingSetting : Decoder Unit := fun value =>
  match Decoder.bool value, token value with
  | .error _, .error _ => .error (.noForm "FormattingProperty")
  | _, _ => .ok ()

/-- The settings of formatting that have names. -/
def formattingFields : List Field :=
  [.required "tabSize" .nat32, .required "insertSpaces" .bool,
    .optional "trimTrailingWhitespace" .bool, .optional "insertFinalNewline" .bool,
    .optional "trimFinalNewlines" .bool]

/-- The settings of formatting. -/
def formattingOptions : Decoder Unit := fun value => do
  let _ ← Decoder.merged "FormattingOptions" [formattingFields] value
  (value.members?.getD []).forM fun m =>
    if formattingFields.any (·.name == m.1) then .ok () else formattingSetting m.2

/-- Where a debugger has stopped. -/
def stop : Decoder Json.Record :=
  .record "InlineValueContext" [.required "frameId" .int32, .required "stoppedLocation" range]

/-- Files that are about to change. -/
def files (title item : String) (names : List String) : Method :=
  unoffered (.record title
    [.required "files" (.list (.record item (names.map (Field.required · .string))))])

/-- An opened document. -/
def opened : Decoder Message := fun value => do
  let r ← Decoder.record "DidOpenTextDocumentParams" [.required "textDocument" documentItem] value
  let (uri, text) ← r.field "textDocument" documentItem
  return .document (.opened uri text)

/-- A changed document. -/
def changed : Decoder Message := fun value => do
  let r ← Decoder.record "DidChangeTextDocumentParams"
    [.required "textDocument" versionedDocument, .required "contentChanges" (.list change)] value
  return .document (.changed (← r.field "textDocument" versionedDocument)
    (← r.field "contentChanges" (.list change)))

/-- A saved document. -/
def saved : Decoder Message := fun value => do
  let r ← Decoder.record "DidSaveTextDocumentParams"
    (documentFields ++ [.optional "text" .string]) value
  let text ← r.field? "text" .string
  return .document (.saved (← r.field "textDocument" document) (text.map String.toList))

/-- A closed document. -/
def closed : Decoder Message := fun value => do
  let r ← Decoder.record "DidCloseTextDocumentParams" documentFields value
  return .document (.closed (← r.field "textDocument" document))

/-- The end of the handshake. -/
def initialized : Decoder Message := fun value =>
  (Decoder.record "InitializedParams" [] value).map fun _ => .initialized

end Params

namespace Method

open Params

/-- A notification that is of interest. -/
def ofNotice (read : Decoder Message) : Method := .notification fun value => (read value).map some

/-- A notification that is of no interest. -/
def ignored : Method := .notification fun _ => .ok none

/-- A request that the server does not offer, with any parameters. -/
def unofferedAny : Method := unoffered .any

/-- The methods that begin with `textDocument/` and tell something. -/
def documentNotices : List (String × Method) :=
  [("didOpen", ofNotice opened), ("didChange", ofNotice changed), ("didSave", ofNotice saved),
    ("didClose", ofNotice closed), ("willSave", ignored)]

/-- The methods that begin with `textDocument/` and that the server offers. -/
def documentRequests : List (String × Method) :=
  [("hover", .request fun value => do
      let (uri, p) ← place "HoverParams" [] [] value
      return some (.hover uri p)),
    ("completion", .request fun value => do
      let own := [.optional "context" completionContext]
      let (uri, p) ← place "CompletionParams" own partFields value
      return some (.completion uri p))]

/-- The methods that begin with `textDocument/`, ask about a place, and are not offered. -/
def unofferedPlaces : List (String × Method) :=
  [("declaration", jump), ("definition", jump), ("typeDefinition", jump), ("implementation", jump),
    ("references", unoffered
      (place "ReferenceParams" [.required "context" referenceContext] partFields)),
    ("prepareCallHierarchy", unoffered (place "CallHierarchyPrepareParams" [] [])),
    ("prepareTypeHierarchy", unoffered (place "TypeHierarchyPrepareParams" [] [])),
    ("documentHighlight", unoffered (place "DocumentHighlightParams" [] partFields)),
    ("moniker", unoffered (place "MonikerParams" [] partFields)),
    ("signatureHelp", unoffered (place "SignatureHelpParams" [.optional "context" .any] [])),
    ("onTypeFormatting", unoffered (.merged "DocumentOnTypeFormattingParams"
      [[.required "ch" .string, .required "options" formattingOptions], placeFields])),
    ("rename", unoffered (place "RenameParams" [.required "newName" .string] [])),
    ("prepareRename", unoffered (.record "TextDocumentPositionParams" placeFields)),
    ("linkedEditingRange", unoffered (place "LinkedEditingRangeParams" [] []))]

/-- The methods that begin with `textDocument/`, ask about a document, and are not offered. -/
def unofferedDocuments : List (String × Method) :=
  [("willSaveWaitUntil", unoffered (.record "WillSaveTextDocumentParams"
      (documentFields ++ [.required "reason" .int32]))),
    ("documentLink", wholeDocument "DocumentLinkParams"),
    ("codeLens", wholeDocument "CodeLensParams"),
    ("foldingRange", wholeDocument "FoldingRangeParams"),
    ("documentSymbol", wholeDocument "DocumentSymbolParams"),
    ("documentColor", wholeDocument "DocumentColorParams"),
    ("semanticTokens/full", wholeDocument "SemanticTokensParams"),
    ("semanticTokens/full/delta", ownDocument "SemanticTokensDeltaParams"
      [.required "previousResultId" .string] partFields),
    ("semanticTokens/range", ownDocument "SemanticTokensRangeParams" [.required "range" range]
      partFields),
    ("selectionRange", ownDocument "SelectionRangeParams" [.required "positions" (.list position)]
      partFields),
    ("inlineValue", ownDocument "InlineValueParams"
      [.required "range" range, .required "context" stop] []),
    ("inlayHint", ownDocument "InlayHintParams" [.required "range" range] []),
    ("diagnostic", ownDocument "DocumentDiagnosticParams"
      [.optional "identifier" .string, .optional "previousResultId" .string] partFields),
    ("codeAction", ownDocument "CodeActionParams"
      [.required "range" range, .required "context" .any] partFields),
    ("colorPresentation", ownDocument "ColorPresentationParams"
      [.required "color" .any, .required "range" range] partFields),
    ("formatting", ownDocument "DocumentFormattingParams"
      [.required "options" formattingOptions] []),
    ("rangeFormatting", ownDocument "DocumentRangeFormattingParams"
      [.required "range" range, .required "options" formattingOptions] [])]

/-- The methods that begin with `workspace/`, ask for something, and are not offered. -/
def unofferedWorkspace : List (String × Method) :=
  [("diagnostic", unoffered (.merged "WorkspaceDiagnosticParams"
      [[.optional "identifier" .string, .required "previousResultIds" (.list
        (.record "PreviousResultId" [.required "uri" .address, .required "value" .string]))],
        progressFields, partFields])),
    ("symbol", unoffered (.merged "WorkspaceSymbolParams"
      [[.required "query" .string], partFields, progressFields])),
    ("willCreateFiles", files "CreateFilesParams" "FileCreate" ["uri"]),
    ("willRenameFiles", files "RenameFilesParams" "FileRename" ["oldUri", "newUri"]),
    ("willDeleteFiles", files "DeleteFilesParams" "FileDelete" ["uri"]),
    ("executeCommand", unoffered (.merged "ExecuteCommandParams"
      [[.required "command" .string, ⟨"arguments", .defaulted, fun value =>
        (Decoder.list .any value).map fun _ => ()⟩], progressFields]))]

/-- The other requests that the server does not offer. -/
def unofferedNames : List String :=
  ["callHierarchy/incomingCalls", "callHierarchy/outgoingCalls", "typeHierarchy/supertypes",
    "typeHierarchy/subtypes", "documentLink/resolve", "codeLens/resolve", "inlayHint/resolve",
    "completionItem/resolve", "codeAction/resolve", "workspaceSymbol/resolve"]

/-- The other notifications that are of no interest. -/
def ignoredNames : List String :=
  ["workspace/didChangeConfiguration", "workspace/didChangeWorkspaceFolders",
    "workspace/didCreateFiles", "workspace/didRenameFiles", "workspace/didDeleteFiles",
    "workspace/didChangeWatchedFiles"]

/-- All methods, by name. -/
def all : List (String × Method) :=
  [("initialize", .handshake), ("shutdown", .shutdown), ("exit", .exit),
    ("$/cancelRequest", .cancel), ("initialized", ofNotice Params.initialized)]
    ++ (documentNotices ++ documentRequests ++ unofferedPlaces ++ unofferedDocuments).map
      (fun m => ("textDocument/" ++ m.1, m.2))
    ++ unofferedWorkspace.map (fun m => ("workspace/" ++ m.1, m.2))
    ++ unofferedNames.map (·, unofferedAny)
    ++ ignoredNames.map (·, ignored)

/-- The method of a name. -/
def ofName? (name : String) : Option Method := (all.find? (·.1 == name)).map Prod.snd

/-- Whether a method of this name may be unknown without anybody being told. -/
def isOptional (name : String) : Bool := name.startsWith "$/"

end Method

end MetricQuery
