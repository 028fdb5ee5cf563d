import DeprecatedUse.Json.Shape

/-!
This module contains the form in which an editor says what it can do. The server does not use any of
it, but refuses an editor that does not keep to the form.
-/

namespace DeprecatedUse.Editor.Capabilities

open Json (Shape)

def kind : Shape := .number (-2147483648) 2147483647

def count : Shape := .number 0 4294967295

def optional (name : String) (shape : Shape) : String × Shape :=
  (name, .nullable shape)

def flags (names : List String) : List (String × Shape) :=
  names.map (optional · .flag)

def flagRecord (names : List String) : Shape :=
  .ofFields (flags names)

def valueSet (item : Shape) : Shape :=
  .ofFields [("valueSet", .list item)]

def optionalValueSet (item : Shape) : Shape :=
  .ofFields [optional "valueSet" (.list item)]

def tagSupport : String × Shape :=
  optional "tagSupport" (.oneOf [.flag, valueSet kind])

def resolveSupport : String × Shape :=
  optional "resolveSupport" (.ofFields [("properties", .list .text)])

def dynamic : Shape :=
  flagRecord ["dynamicRegistration"]

def refresh : Shape :=
  flagRecord ["refreshSupport"]

def markup (name : String) : String × Shape :=
  optional name (.list (.choice ["plaintext", "markdown"]))

def symbolKind : String × Shape :=
  optional "symbolKind" (optionalValueSet kind)

/-! The workspace. -/

def workspaceEdit : Shape :=
  .ofFields [
    optional "documentChanges" .flag,
    optional "resourceOperations" (.list (.choice ["create", "rename", "delete"])),
    optional "failureHandling"
      (.choice ["abort", "transactional", "textOnlyTransactional", "undo"]),
    optional "normalizesLineEndings" .flag,
    optional "changeAnnotationSupport" (flagRecord ["groupsOnLabel"])]

def workspace : Shape :=
  .ofFields [
    optional "applyEdit" .flag,
    optional "workspaceEdit" workspaceEdit,
    optional "didChangeConfiguration" dynamic,
    optional "didChangeWatchedFiles"
      (flagRecord ["dynamicRegistration", "relativePatternSupport"]),
    optional "symbol"
      (.ofFields [optional "dynamicRegistration" .flag, symbolKind, tagSupport, resolveSupport]),
    optional "executeCommand" dynamic,
    optional "workspaceFolders" .flag,
    optional "configuration" .flag,
    optional "semanticTokens" refresh,
    optional "codeLens" refresh,
    optional "fileOperations"
      (flagRecord ["dynamicRegistration", "didCreate", "willCreate", "didRename", "willRename",
        "didDelete", "willDelete"]),
    optional "inlineValue" refresh,
    optional "inlayHint" refresh,
    optional "diagnostic" refresh]

/-! Documents. -/

def completionItem : Shape :=
  .ofFields [
    optional "snippetSupport" .flag,
    optional "commitCharactersSupport" .flag,
    markup "documentationFormat",
    optional "deprecatedSupport" .flag,
    optional "preselectSupport" .flag,
    tagSupport,
    optional "insertReplaceSupport" .flag,
    resolveSupport,
    optional "insertTextModeSupport" (valueSet kind),
    optional "labelDetailsSupport" .flag]

def completion : Shape :=
  .ofFields [
    optional "dynamicRegistration" .flag,
    optional "completionItem" completionItem,
    optional "completionItemKind" (optionalValueSet kind),
    optional "contextSupport" .flag,
    optional "insertTextMode" kind,
    optional "completionList" (.ofFields [optional "itemDefaults" (.list .text)])]

def signatureHelp : Shape :=
  .ofFields [
    optional "dynamicRegistration" .flag,
    optional "signatureInformation" (.ofFields [
      markup "documentationFormat",
      optional "parameterInformation" (flagRecord ["labelOffsetSupport"]),
      optional "activeParameterSupport" .flag]),
    optional "contextSupport" .flag]

def codeAction : Shape :=
  .ofFields [
    optional "dynamicRegistration" .flag,
    optional "codeActionLiteralSupport" (.ofFields [("codeActionKind", valueSet .text)]),
    optional "isPreferredSupport" .flag,
    optional "disabledSupport" .flag,
    optional "dataSupport" .flag,
    resolveSupport,
    optional "honorsChangeAnnotations" .flag]

def foldingRange : Shape :=
  .ofFields [
    optional "dynamicRegistration" .flag,
    optional "rangeLimit" count,
    optional "lineFoldingOnly" .flag,
    optional "foldingRangeKind" (optionalValueSet (.choice ["comment", "imports", "region"])),
    optional "foldingRange" (flagRecord ["collapsedText"])]

def semanticTokens : Shape :=
  .ofFields [
    optional "dynamicRegistration" .flag,
    ("requests", .ofFields [
      optional "range" .flag,
      optional "full" (.oneOf [.flag, .object (flagRecord ["delta"])])]),
    ("tokenTypes", .list .text),
    ("tokenModifiers", .list .text),
    ("formats", .list .text),
    optional "overlappingTokenSupport" .flag,
    optional "multilineTokenSupport" .flag,
    optional "serverCancelSupport" .flag,
    optional "augmentsSyntaxTokens" .flag]

def textDocument : Shape :=
  let link := flagRecord ["dynamicRegistration", "linkSupport"]
  .ofFields [
    optional "synchronization"
      (flagRecord ["dynamicRegistration", "willSave", "willSaveWaitUntil", "didSave"]),
    optional "completion" completion,
    optional "hover"
      (.ofFields [optional "dynamicRegistration" .flag, markup "contentFormat"]),
    optional "signatureHelp" signatureHelp,
    optional "references" dynamic,
    optional "documentHighlight" dynamic,
    optional "documentSymbol"
      (.ofFields [optional "dynamicRegistration" .flag, symbolKind,
        optional "hierarchicalDocumentSymbolSupport" .flag, tagSupport]),
    optional "formatting" dynamic,
    optional "rangeFormatting" dynamic,
    optional "onTypeFormatting" dynamic,
    optional "declaration" link,
    optional "definition" link,
    optional "typeDefinition" link,
    optional "implementation" link,
    optional "codeAction" codeAction,
    optional "codeLens" dynamic,
    optional "documentLink" (flagRecord ["dynamicRegistration", "tooltipSupport"]),
    optional "colorProvider" dynamic,
    optional "rename"
      (.ofFields [optional "dynamicRegistration" .flag, optional "prepareSupport" .flag,
        optional "prepareSupportDefaultBehavior" kind, optional "honorsChangeAnnotations" .flag]),
    optional "publishDiagnostics"
      (.ofFields [optional "relatedInformation" .flag, tagSupport, optional "versionSupport" .flag,
        optional "codeDescriptionSupport" .flag, optional "dataSupport" .flag]),
    optional "foldingRange" foldingRange,
    optional "selectionRange" dynamic,
    optional "linkedEditingRange" dynamic,
    optional "callHierarchy" dynamic,
    optional "semanticTokens" semanticTokens,
    optional "moniker" dynamic,
    optional "typeHierarchy" dynamic,
    optional "inlineValue" dynamic,
    optional "inlayHint" (.ofFields [optional "dynamicRegistration" .flag, resolveSupport]),
    optional "diagnostic" (flagRecord ["dynamicRegistration", "relatedDocumentSupport"])]

/-! Everything else. -/

def window : Shape :=
  .ofFields [
    optional "workDoneProgress" .flag,
    optional "showMessage" (.ofFields [
      optional "messageActionItem" (flagRecord ["additionalPropertiesSupport"])]),
    optional "showDocument" (.ofFields [("support", .flag)])]

def general : Shape :=
  .ofFields [
    optional "regularExpressions" (.ofFields [("engine", .text), optional "version" .text]),
    optional "markdown"
      (.ofFields [("parser", .text), optional "version" .text,
        optional "allowedTags" (.list .text)]),
    optional "staleRequestSupport"
      (.ofFields [("cancel", .flag), ("retryOnContentModified", .list .text)]),
    optional "positionEncodings" (.list .text)]

def shape : Shape :=
  .ofFields [
    optional "workspace" workspace,
    optional "textDocument" textDocument,
    optional "window" window,
    optional "general" general,
    optional "experimental" .anything]

end DeprecatedUse.Editor.Capabilities
