import HostMonitor.Json.Reader
import HostMonitor.Text.Blank
import HostMonitor.Text.Utf8

/-!
# Requests

A message is one request or a list of them.  A request is an object with four
members: the version, a method, parameters and an id.  Without an id it is a
notification, and no reply is sent.  Other members do not matter.

A member of a message that is no request is refused by itself.  Its id is sent
back when it could be the id of a request.
-/

namespace HostMonitor.Rpc

open Number Text

/-- What the client calls a request. -/
inductive RequestId where
  | text (t : WireText)
  | int (n : Int)
  | float (x : Binary64)
  deriving DecidableEq, Repr

def RequestId.ofJson? : Json → Option RequestId
  | .str t => some (.text t)
  | .int n => some (.int n)
  | .float x => some (.float x)
  | _ => none

def RequestId.document : RequestId → Json
  | .text t => .str t
  | .int n => .int n
  | .float x => .float x

/-- An id or its absence as a document. -/
def idDocument : Option RequestId → Json
  | some id => id.document
  | none => .null

/-- The parameters of a request. -/
inductive Params where
  | absent
  | named (fields : Json.Fields)
  | listed (items : List Json)
  deriving Repr

def Params.ofJson? : Option Json → Option Params
  | none => some .absent
  | some .null => some .absent
  | some (.obj fields) => some (.named fields)
  | some (.arr items) => some (.listed items)
  | some _ => none

def Params.document : Params → Json
  | .absent => .null
  | .named fields => .obj fields
  | .listed items => .arr items

/-- A call of a method. -/
structure Request where
  method : String
  params : Params
  /-- The id; nothing for a notification. -/
  id : Option RequestId
  deriving Repr

def Request.isNotification (r : Request) : Bool := r.id.isNone

def version : String := "2.0"

/-- A member of a message. -/
inductive Member where
  | request (r : Request)
  /-- Something else, with the id that is sent back. -/
  | refused (id : Option RequestId)
  deriving Repr

/-- The method that a value names: a text with something other than blanks. -/
def methodName? : Option Json → Option String
  | some (.str (.chars s)) => if blank s then none else some s
  | _ => none

/-- The request of an object, apart from its id. -/
def requestOf? (fields : Json.Fields) (id : Option RequestId) : Option Request := do
  guard (fields.get? "jsonrpc" == some (.ofString version))
  let method ← methodName? (fields.get? "method")
  let params ← Params.ofJson? (fields.get? "params")
  return ⟨method, params, id⟩

/-- The member that a value is. -/
def Member.ofJson : Json → Member
  | .obj fields =>
    match Json.Fields.get? "id" fields with
    | none => ofFields fields none
    | some value =>
      match RequestId.ofJson? value with
      | some id => ofFields fields (some id)
      | none => .refused none
  | _ => .refused none
where
  ofFields (fields : Json.Fields) (id : Option RequestId) : Member :=
    match requestOf? fields id with
    | some r => .request r
    | none => .refused id

/-- A message. -/
inductive Message where
  /-- The bytes are no document. -/
  | unreadable
  /-- The document is neither an object nor a list. -/
  | unusable
  | emptyBatch
  | single (m : Member)
  | batch (ms : List Member)
  deriving Repr

/-- What is accepted of a document in a message. -/
def messageLimits : Json.Limits := ⟨digitLimit, Json.depthLimit, false⟩

/-- The document in a text of UTF-8. -/
def document? (body : List UInt8) : Option Json :=
  (Utf8.decode? body).bind fun cs => (Json.read messageLimits cs).toOption

/-- The message that bytes are. -/
def Message.ofBytes (body : List UInt8) : Message :=
  match document? body with
  | none => .unreadable
  | some (.obj fields) => .single (.ofJson (.obj fields))
  | some (.arr []) => .emptyBatch
  | some (.arr items) => .batch (items.map Member.ofJson)
  | some _ => .unusable

end HostMonitor.Rpc
