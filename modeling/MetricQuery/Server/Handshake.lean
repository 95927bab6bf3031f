import MetricQuery.Address.Basic

/-!
What an editor tells about itself when it opens a session: the process and the folders it works
for, its name, and what it is able to do. Nothing of it changes what the server does, but it must
be well-formed.
-/

set_option autoImplicit false

namespace MetricQuery.Handshake

/-- A record of truth values, each of which may be left out. -/
def flags (title : String) (names : List String) : Decoder Json.Record :=
  .record title (names.map (Field.optional · .bool))

/-- An ability that may be registered later. -/
def registrable : Decoder Json.Record :=
  flags "DynamicRegistrationClientCapabilities" ["dynamicRegistration"]

/-- An ability to jump to another place. -/
def jump : Decoder Json.Record := flags "GotoCapability" ["dynamicRegistration", "linkSupport"]

/-- An ability to ask for results once more. -/
def refreshable (title : String) : Decoder Json.Record := flags title ["refreshSupport"]

/-- A set of codes that may be left out. -/
def codeSet (title : String) : Decoder Json.Record :=
  .record title [.optional "valueSet" (.list .int32)]

/-- The tags that an editor knows; a truth value stands for none. -/
def tags : Decoder Unit
  | .bool _ => .ok ()
  | value => do
    let _ ← Decoder.record "TagSupport" [.required "valueSet" (.list .int32)] value

/-- What can be asked for later. -/
def resolvable (title : String) : Decoder Json.Record :=
  .record title [.required "properties" (.list .string)]

/-- The formats of documentation. -/
def formats : Decoder (List String) := .list (.name ["plaintext", "markdown"])

/-- What an editor can do about symbols. -/
def symbols (title : String) (own : List Field) : Decoder Json.Record :=
  .record title ([.optional "dynamicRegistration" .bool,
    .optional "symbolKind" (codeSet "SymbolKindCapability")] ++ own)

/-- What an editor can do about edits of several documents. -/
def edits : Decoder Json.Record :=
  .record "WorkspaceEditClientCapabilities" [
    .optional "documentChanges" .bool,
    .optional "resourceOperations" (.list (.name ["create", "rename", "delete"])),
    .optional "failureHandling"
      (.name ["abort", "transactional", "textOnlyTransactional", "undo"]),
    .optional "normalizesLineEndings" .bool,
    .optional "changeAnnotationSupport"
      (flags "ChangeAnnotationWorkspaceEditClientCapabilities" ["groupsOnLabel"])]

/-- What an editor can do with its folders. -/
def workspaceAbilities : Decoder Json.Record :=
  .record "WorkspaceClientCapabilities" [
    .optional "applyEdit" .bool,
    .optional "workspaceEdit" edits,
    .optional "didChangeConfiguration" registrable,
    .optional "didChangeWatchedFiles" (flags "DidChangeWatchedFilesClientCapabilities"
      ["dynamicRegistration", "relativePatternSupport"]),
    .optional "symbol" (symbols "WorkspaceSymbolClientCapabilities"
      [.defaulted "tagSupport" tags,
        .optional "resolveSupport" (resolvable "WorkspaceSymbolResolveSupportCapability")]),
    .optional "executeCommand" registrable,
    .optional "workspaceFolders" .bool,
    .optional "configuration" .bool,
    .optional "semanticTokens" (refreshable "SemanticTokensWorkspaceClientCapabilities"),
    .optional "codeLens" (refreshable "CodeLensWorkspaceClientCapabilities"),
    .optional "fileOperations" (flags "WorkspaceFileOperationsClientCapabilities"
      ["dynamicRegistration", "didCreate", "willCreate", "didRename", "willRename", "didDelete",
        "willDelete"]),
    .optional "inlineValue" (refreshable "InlineValueWorkspaceClientCapabilities"),
    .optional "inlayHint" (refreshable "InlayHintWorkspaceClientCapabilities"),
    .optional "diagnostic" (refreshable "DiagnosticWorkspaceClientCapabilities")]

/-- What an editor can do with an item of a completion. -/
def itemAbilities : Decoder Json.Record :=
  .record "CompletionItemCapability" [
    .optional "snippetSupport" .bool,
    .optional "commitCharactersSupport" .bool,
    .optional "documentationFormat" formats,
    .optional "deprecatedSupport" .bool,
    .optional "preselectSupport" .bool,
    .defaulted "tagSupport" tags,
    .optional "insertReplaceSupport" .bool,
    .optional "resolveSupport" (resolvable "CompletionItemCapabilityResolveSupport"),
    .optional "insertTextModeSupport" (.record "InsertTextModeSupport"
      [.required "valueSet" (.list .int32)]),
    .optional "labelDetailsSupport" .bool]

/-- What an editor can do with completions. -/
def completionAbilities : Decoder Json.Record :=
  .record "CompletionClientCapabilities" [
    .optional "dynamicRegistration" .bool,
    .optional "completionItem" itemAbilities,
    .optional "completionItemKind" (codeSet "CompletionItemKindCapability"),
    .optional "contextSupport" .bool,
    .optional "insertTextMode" .int32,
    .optional "completionList" (.record "CompletionListCapability"
      [.optional "itemDefaults" (.list .string)])]

/-- What an editor can do with signatures. -/
def signatureAbilities : Decoder Json.Record :=
  .record "SignatureHelpClientCapabilities" [
    .optional "dynamicRegistration" .bool,
    .optional "signatureInformation" (.record "SignatureInformationSettings" [
      .optional "documentationFormat" formats,
      .optional "parameterInformation"
        (flags "ParameterInformationSettings" ["labelOffsetSupport"]),
      .optional "activeParameterSupport" .bool]),
    .optional "contextSupport" .bool]

/-- What an editor can do with actions. -/
def actionAbilities : Decoder Json.Record :=
  .record "CodeActionClientCapabilities" [
    .optional "dynamicRegistration" .bool,
    .optional "codeActionLiteralSupport" (.record "CodeActionLiteralSupport"
      [.required "codeActionKind" (.record "CodeActionKindLiteralSupport"
        [.required "valueSet" (.list .string)])]),
    .optional "isPreferredSupport" .bool,
    .optional "disabledSupport" .bool,
    .optional "dataSupport" .bool,
    .optional "resolveSupport" (resolvable "CodeActionCapabilityResolveSupport"),
    .optional "honorsChangeAnnotations" .bool]

/-- What an editor can do with tokens. -/
def tokenAbilities : Decoder Json.Record :=
  let full : Decoder Unit := fun value =>
    match Decoder.bool value, flags "Delta" ["delta"] value with
    | .error _, .error _ => .error (.noForm "SemanticTokensFullOptions")
    | _, _ => .ok ()
  .record "SemanticTokensClientCapabilities" [
    .optional "dynamicRegistration" .bool,
    .required "requests" (.record "SemanticTokensClientCapabilitiesRequests"
      [.optional "range" .bool, .optional "full" full]),
    .required "tokenTypes" (.list .string),
    .required "tokenModifiers" (.list .string),
    .required "formats" (.list (.name ["relative"])),
    .optional "overlappingTokenSupport" .bool,
    .optional "multilineTokenSupport" .bool,
    .optional "serverCancelSupport" .bool,
    .optional "augmentsSyntaxTokens" .bool]

/-- What an editor can do with a document. -/
def documentAbilities : Decoder Json.Record :=
  .record "TextDocumentClientCapabilities" [
    .optional "synchronization" (flags "TextDocumentSyncClientCapabilities"
      ["dynamicRegistration", "willSave", "willSaveWaitUntil", "didSave"]),
    .optional "completion" completionAbilities,
    .optional "hover" (.record "HoverClientCapabilities"
      [.optional "dynamicRegistration" .bool, .optional "contentFormat" formats]),
    .optional "signatureHelp" signatureAbilities,
    .optional "references" registrable,
    .optional "documentHighlight" registrable,
    .optional "documentSymbol" (symbols "DocumentSymbolClientCapabilities"
      [.optional "hierarchicalDocumentSymbolSupport" .bool, .defaulted "tagSupport" tags]),
    .optional "formatting" registrable,
    .optional "rangeFormatting" registrable,
    .optional "onTypeFormatting" registrable,
    .optional "declaration" jump,
    .optional "definition" jump,
    .optional "typeDefinition" jump,
    .optional "implementation" jump,
    .optional "codeAction" actionAbilities,
    .optional "codeLens" registrable,
    .optional "documentLink" (flags "DocumentLinkClientCapabilities"
      ["dynamicRegistration", "tooltipSupport"]),
    .optional "colorProvider" registrable,
    .optional "rename" (.record "RenameClientCapabilities"
      [.optional "dynamicRegistration" .bool, .optional "prepareSupport" .bool,
        .optional "prepareSupportDefaultBehavior" .int32,
        .optional "honorsChangeAnnotations" .bool]),
    .optional "publishDiagnostics" (.record "PublishDiagnosticsClientCapabilities"
      [.optional "relatedInformation" .bool, .defaulted "tagSupport" tags,
        .optional "versionSupport" .bool, .optional "codeDescriptionSupport" .bool,
        .optional "dataSupport" .bool]),
    .optional "foldingRange" (.record "FoldingRangeClientCapabilities"
      [.optional "dynamicRegistration" .bool, .optional "rangeLimit" .nat32,
        .optional "lineFoldingOnly" .bool,
        .optional "foldingRangeKind" (.record "FoldingRangeKindCapability"
          [.optional "valueSet" (.list (.name ["comment", "imports", "region"]))]),
        .optional "foldingRange" (flags "FoldingRangeCapability" ["collapsedText"])]),
    .optional "selectionRange" (flags "SelectionRangeClientCapabilities" ["dynamicRegistration"]),
    .optional "linkedEditingRange" registrable,
    .optional "callHierarchy" registrable,
    .optional "semanticTokens" tokenAbilities,
    .optional "moniker" registrable,
    .optional "typeHierarchy" registrable,
    .optional "inlineValue" registrable,
    .optional "inlayHint" (.record "InlayHintClientCapabilities"
      [.optional "dynamicRegistration" .bool,
        .optional "resolveSupport" (resolvable "InlayHintResolveClientCapabilities")]),
    .optional "diagnostic" (flags "DiagnosticClientCapabilities"
      ["dynamicRegistration", "relatedDocumentSupport"])]

/-- What an editor can show. -/
def windowAbilities : Decoder Json.Record :=
  .record "WindowClientCapabilities" [
    .optional "workDoneProgress" .bool,
    .optional "showMessage" (.record "ShowMessageRequestClientCapabilities"
      [.optional "messageActionItem"
        (flags "MessageActionItemCapabilities" ["additionalPropertiesSupport"])]),
    .optional "showDocument" (.record "ShowDocumentClientCapabilities"
      [.required "support" .bool])]

/-- What an editor can do at large. -/
def generalAbilities : Decoder Json.Record :=
  .record "GeneralClientCapabilities" [
    .optional "regularExpressions" (.record "RegularExpressionsClientCapabilities"
      [.required "engine" .string, .optional "version" .string]),
    .optional "markdown" (.record "MarkdownClientCapabilities"
      [.required "parser" .string, .optional "version" .string,
        .optional "allowedTags" (.list .string)]),
    .optional "staleRequestSupport" (.record "StaleRequestSupportClientCapabilities"
      [.required "cancel" .bool, .required "retryOnContentModified" (.list .string)]),
    .optional "positionEncodings" (.list .string)]

/-- What an editor can do. -/
def abilities : Decoder Json.Record :=
  .record "ClientCapabilities" [
    .optional "workspace" workspaceAbilities,
    .optional "textDocument" documentAbilities,
    .optional "window" windowAbilities,
    .optional "general" generalAbilities,
    .optional "experimental" .any]

/-- A folder that an editor works in. -/
def folder : Decoder Json.Record :=
  .record "WorkspaceFolder" [.required "uri" .address, .required "name" .string]

/-- The name of an editor. -/
def client : Decoder Json.Record :=
  .record "ClientInfo" [.required "name" .string, .optional "version" .string]

/-- The parameters that open a session. -/
def params : Decoder Json.Record :=
  .record "InitializeParams" [
    .optional "processId" .nat32,
    .optional "rootPath" .string,
    .defaulted "rootUri" .address,
    .optional "initializationOptions" .any,
    .required "capabilities" abilities,
    .defaulted "trace" (.name ["off", "messages", "verbose"]),
    .optional "workspaceFolders" (.list folder),
    .optional "clientInfo" client,
    .optional "locale" .string]

end MetricQuery.Handshake
