import DeprecatedUse.Editor.Capabilities
import DeprecatedUse.Editor.Session
import DeprecatedUse.Wire.Diagnostic

/-!
This module contains the written forms of the messages between an editor and the server.
-/

namespace DeprecatedUse.Editor

inductive Incoming where
  | begun (root : Option Uri)
  | ready
  | shutdown
  | exit
  | opened (uri : Uri) (text : String)
  | changed (uri : Uri) (texts : List String)
  | saved (uri : Uri) (text : Option String)
  | closed (uri : Uri)
  | filesChanged
deriving DecidableEq, Repr, Inhabited

namespace Incoming

def uri? (json : Json) : Option Uri :=
  json.str?.bind Uri.parse?

def int32? : Json → Option Int
  | .int n => if -2147483648 ≤ n ∧ n ≤ 2147483647 then some n else none
  | _ => none

def maybe? {α : Type} (value? : Json → Option α) (field : Option Json) : Option (Option α) :=
  Json.option? value? (field.getD .null)

def document? (json : Json) : Option Uri :=
  match json.fullRecord? ["uri"] with
  | some [uri] => uri.bind uri?
  | _ => none

def documentItem? (json : Json) : Option (Uri × String) :=
  match json.fullRecord? ["uri", "languageId", "version", "text"] with
  | some [uri, languageId, version, text] => do
    let _ ← languageId.bind Json.str?
    let _ ← version.bind int32?
    return (← uri.bind uri?, ← text.bind Json.str?)
  | _ => none

def versionedDocument? (json : Json) : Option Uri :=
  match json.fullRecord? ["uri", "version"] with
  | some [uri, version] => do
    let _ ← version.bind int32?
    uri.bind uri?
  | _ => none

def position? (json : Json) : Option (Nat × Nat) :=
  match json.fullRecord? ["line", "character"] with
  | some [line, character] => do
    return (← line.bind (Json.nat? UInt32.size), ← character.bind (Json.nat? UInt32.size))
  | _ => none

def range? (json : Json) : Option Unit :=
  match json.fullRecord? ["start", "end"] with
  | some [start, stop] => do
    let _ ← start.bind position?
    let _ ← stop.bind position?
    return ()
  | _ => none

def change? (json : Json) : Option String :=
  match json.fullRecord? ["range", "rangeLength", "text"] with
  | some [range, length, text] => do
    let _ ← maybe? range? range
    let _ ← maybe? (Json.nat? UInt32.size) length
    text.bind Json.str?
  | _ => none

def fileEvent? (json : Json) : Option Uri :=
  match json.fullRecord? ["uri", "type"] with
  | some [uri, type] => do
    let _ ← type.bind int32?
    uri.bind uri?
  | _ => none

def folder? (json : Json) : Option Uri :=
  match json.fullRecord? ["uri", "name"] with
  | some [uri, name] => do
    let _ ← name.bind Json.str?
    uri.bind uri?
  | _ => none

def clientInfo? (json : Json) : Option Unit :=
  match json.fullRecord? ["name", "version"] with
  | some [name, version] => do
    let _ ← name.bind Json.str?
    let _ ← maybe? Json.str? version
    return ()
  | _ => none

def trace? (json : Json) : Option Unit :=
  match json.choice? with
  | some "off" | some "messages" | some "verbose" => some ()
  | _ => none

def capabilities? (json : Json) : Option Unit :=
  if Capabilities.shape.fits json then some () else none

def begun? (json : Json) : Option Incoming :=
  match json.fullRecord? ["processId", "rootPath", "rootUri", "initializationOptions",
      "capabilities", "trace", "workspaceFolders", "clientInfo", "locale"] with
  | some [processId, rootPath, rootUri, _, capabilities, trace, folders, clientInfo, locale] => do
    let _ ← maybe? (Json.nat? UInt32.size) processId
    let _ ← maybe? Json.str? rootPath
    let rootUri ← maybe? uri? rootUri
    let _ ← capabilities.bind capabilities?
    let _ ← maybe? trace? trace
    let folders ← maybe? (Json.list? folder?) folders
    let _ ← maybe? clientInfo? clientInfo
    let _ ← maybe? Json.str? locale
    return .begun (rootUri.or (folders.bind List.head?))
  | _ => none

def ofJson? (method : String) (params : Option Json) : Option Incoming :=
  match method, params with
  | "shutdown", none => some .shutdown
  | "exit", none => some .exit
  | "initialize", some json => begun? json
  | "initialized", some json => (json.fullRecord? []).map fun _ => .ready
  | "textDocument/didOpen", some json =>
    match json.fullRecord? ["textDocument"] with
    | some [document] => (document.bind documentItem?).map fun (uri, text) => .opened uri text
    | _ => none
  | "textDocument/didChange", some json =>
    match json.fullRecord? ["textDocument", "contentChanges"] with
    | some [document, changes] => do
      return .changed (← document.bind versionedDocument?) (← changes.bind (Json.list? change?))
    | _ => none
  | "textDocument/didSave", some json =>
    match json.fullRecord? ["textDocument", "text"] with
    | some [document, text] => do
      return .saved (← document.bind document?) (← maybe? Json.str? text)
    | _ => none
  | "textDocument/didClose", some json =>
    match json.fullRecord? ["textDocument"] with
    | some [document] => (document.bind document?).map .closed
    | _ => none
  | "workspace/didChangeWatchedFiles", some json =>
    match json.fullRecord? ["changes"] with
    | some [changes] => (changes.bind (Json.list? fileEvent?)).map fun _ => .filesChanged
    | _ => none
  | _, _ => none

end Incoming

namespace Outgoing

def severityNumber : Severity → Nat
  | .error => 1
  | .warning => 2
  | .information => 3
  | .hint => 4

def positionJson (p : Position) : Json :=
  .obj [("line", .nat p.line), ("character", .nat p.column)]

def diagnosticJson (d : Diagnostic) : Json :=
  .obj ([("range", .obj [("start", positionJson d.span.start), ("end", positionJson d.span.stop)]),
      ("severity", .nat (severityNumber d.severity)), ("code", .str d.code.word),
      ("source", .str d.source), ("message", .str d.message)]
    ++ (if d.code = .deprecatedMemberUsage then [("tags", .arr [.nat 2])] else [])
    ++ Json.optionalField "data" (fun s => .obj [("symbol", .str s)]) d.symbol)

def method : Outgoing → String
  | .publish _ _ => "textDocument/publishDiagnostics"
  | .message _ _ => "window/showMessage"
  | .log _ _ => "window/logMessage"
  | .register _ _ => "client/registerCapability"
  | .notify _ _ => "deprecheck/notification"

def params : Outgoing → Json
  | .publish uri diagnostics =>
    .obj [("uri", .str uri.render), ("diagnostics", .arr (diagnostics.map diagnosticJson))]
  | .message severity text | .log severity text =>
    .obj [("type", .nat (severityNumber severity)), ("message", .str text)]
  | .register method options =>
    .obj [("registrations", .arr [.obj [("id", .str method), ("method", .str method),
      ("registerOptions", options)]])]
  | .notify method payload => .obj [("method", .str method), ("payload", payload)]

end Outgoing

end DeprecatedUse.Editor
