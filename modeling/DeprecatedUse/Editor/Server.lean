import DeprecatedUse.Editor.Message

/-!
This module contains the server that an editor talks to: the order in which messages have to come,
the answers to requests, and the messages that are sent back.
-/

namespace DeprecatedUse.Editor

inductive Phase where
  | new
  | running
  | shutDown
  | exited
deriving DecidableEq, Repr, Inhabited

inductive Response where
  | result (value : Json)
  | error (code : Int)
deriving Inhabited

namespace Response

def notInitialized : Response := .error (-32002)

def invalidRequest : Response := .error (-32600)

def invalidParams : Response := .error (-32602)

end Response

structure Server where
  phase : Phase := .new
  session : Session := {}
  client : Client := {}
deriving Inhabited

namespace Server

def about : Json :=
  .obj [("capabilities", .obj [("textDocumentSync", .obj [("openClose", .bool true),
      ("change", .nat 1), ("save", .obj [("includeText", .bool true)])])]),
    ("serverInfo", .obj [("name", .str "deprecheck"), ("version", .str "0.1.0")])]

def send (c : Client) : Output → Client × List Outgoing
  | .event e => c.tell e
  | .log severity text => (c, [.log severity text])

def sendAll (c : Client) (outputs : List Output) : Client × List Outgoing :=
  outputs.foldl (fun (c, sent) o =>
    let (c, more) := send c o
    (c, sent ++ more)) (c, [])

def handle (host : Host) (s : Session) : Incoming → Session × List Output
  | .ready => s.ready host
  | .opened uri text => s.opened uri text
  | .changed uri texts => s.changed uri texts
  | .saved uri text => s.saved uri text
  | .closed uri => s.closed uri
  | .filesChanged => s.reindex host
  | .begun _ | .shutdown | .exit => (s, [])

def start (host : Host) (server : Server) (params : Option Json) : Server × Response :=
  if server.phase = .new then
    match Incoming.ofJson? "initialize" params with
    | some (.begun root) =>
      let (session, _) := server.session.start host.toPlace (root.bind Uri.filePath?)
      ({ server with phase := .running, session := session }, .result about)
    | _ => (server, .invalidParams)
  else
    (server, .invalidRequest)

def shutdown (server : Server) (params : Option Json) : Server × Response :=
  match server.phase with
  | .new => (server, .notInitialized)
  | .running =>
    ({ server with phase := .shutDown }, if params.isSome then .invalidParams else .result .null)
  | .shutDown | .exited => (server, .invalidRequest)

/--
Receive a message that is not a request. It counts only while the session is running and if it is
written as it should be.
-/
def notify (host : Host) (server : Server) (method : String) (params : Option Json) :
    Server × List Outgoing :=
  match Incoming.ofJson? method params with
  | none => (server, [])
  | some .exit => ({ server with phase := .exited }, [])
  | some message =>
    if server.phase = .running then
      let (session, outputs) := handle host server.session message
      let (client, sent) := sendAll server.client outputs
      ({ server with session := session, client := client }, sent)
    else
      (server, [])

def receive (host : Host) (server : Server) (method : String) (params : Option Json) :
    Server × Option Response × List Outgoing :=
  match method with
  | "initialize" =>
    let (server, response) := server.start host params
    (server, some response, [])
  | "shutdown" =>
    let (server, response) := server.shutdown params
    (server, some response, [])
  | _ =>
    let (server, sent) := server.notify host method params
    (server, none, sent)

def filesAfter (host : Host) (server : Server) (method : String) (params : Option Json) :
    FileTree :=
  match Incoming.ofJson? method params, server.session.project with
  | some .ready, some p | some .filesChanged, some p =>
    if server.phase = .running then (Workspace.placeAfter host p).tree else host.tree
  | _, _ => host.tree

end Server

end DeprecatedUse.Editor
