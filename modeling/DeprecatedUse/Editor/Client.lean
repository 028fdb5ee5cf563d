import DeprecatedUse.Sink
import DeprecatedUse.Uri.Parser

/-!
This module contains the telling of events to an editor. Each event becomes at most one message:
units that have no URI are not told of, and a method is registered once.
-/

namespace DeprecatedUse.Editor

def unitUri? (unit : UnitId) : Option Uri :=
  let path : Path := ⟨unit⟩
  if path.isAbsolute then Uri.ofPath? path else Uri.parse? unit

def unitOf (uri : Uri) : UnitId :=
  match uri.filePath? with
  | some path => path.text
  | none => uri.render

inductive Outgoing where
  | publish (uri : Uri) (diagnostics : List Diagnostic)
  | message (severity : Severity) (text : String)
  | log (severity : Severity) (text : String)
  | register (method : String) (options : Json)
  | notify (method : String) (payload : Json)
deriving Inhabited

structure Client where
  registered : List String := []
deriving DecidableEq, Repr, Inhabited

namespace Client

def tell (c : Client) : Event → Client × List Outgoing
  | .publish unit batch =>
    match unitUri? unit with
    | none => (c, [])
    | some uri => (c, [.publish uri batch.diagnostics])
  | .message severity text => (c, [.message severity text])
  | .register method options =>
    if c.registered.contains method then
      (c, [])
    else
      (⟨c.registered ++ [method]⟩, [.register method options])
  | .notify method payload => (c, [.notify method payload])

def tellAll (c : Client) (events : List Event) : Client × List Outgoing :=
  events.foldl (fun (c, sent) e =>
    let (c, more) := c.tell e
    (c, sent ++ more)) (c, [])

end Client

end DeprecatedUse.Editor
