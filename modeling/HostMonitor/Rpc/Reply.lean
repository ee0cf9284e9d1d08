import HostMonitor.Rpc.Envelope
import HostMonitor.Run.Report

/-!
# Replies

A reply has the id of its request, and either a result or an error.  The causes
of some failures are kept from clients.  Their replies hold only a word that can
be looked up in the log.
-/

namespace HostMonitor.Rpc

structure ErrorReply where
  number : Int
  title : String
  data : Option Json
  deriving DecidableEq, Repr

def ErrorReply.document (e : ErrorReply) : Json :=
  .record ([("code", .int e.number), ("message", .ofString e.title)] ++
    (e.data.map fun d => ("data", d)).toList)

structure Reply where
  id : Option RequestId
  outcome : Except ErrorReply Json
  deriving Repr

def Reply.document (r : Reply) : Json :=
  .record [("jsonrpc", .ofString version), ("id", idDocument r.id),
    match r.outcome with
    | .ok value => ("result", value)
    | .error e => ("error", e.document)]

def Reply.isError (r : Reply) : Bool :=
  match r.outcome with
  | .ok _ => false
  | .error _ => true

/-- The error of a message that is no document. -/
def ErrorReply.unreadable : ErrorReply := ⟨-32700, "Parse error", none⟩

/-- The error of what is no request. -/
def ErrorReply.refused : ErrorReply :=
  ⟨ReportKind.invalidRequest.number, ReportKind.invalidRequest.title, none⟩

/-- The error that a client may see in full. -/
def ErrorReply.ofReport (r : Report) : ErrorReply :=
  ⟨r.kind.number, r.kind.title, some r.document⟩

/-- The error whose cause is kept from clients. -/
def ErrorReply.hidden (errorId : String) : ErrorReply :=
  ⟨ReportKind.general.number, ReportKind.general.title,
    some (.record [("code", .ofString "internal_error"), ("message", .ofString "internal error"),
      ("details", .record [("error_id", .ofString errorId)])])⟩

/-- What is sent back for a message. -/
inductive Answer where
  | nothing
  | one (r : Reply)
  | many (rs : List Reply)
  deriving Repr

/-- The document to send back, if there is one. -/
def Answer.document? : Answer → Option Json
  | .nothing => none
  | .one r => some r.document
  | .many rs => some (.arr (rs.map Reply.document))

/-- The members of a message that are handled. -/
def Message.members : Message → List Member
  | .single m => [m]
  | .batch ms => ms
  | _ => []

/-- The answer to a message, put together from what its members come to. -/
def Message.assemble : Message → List (Option Reply) → Answer
  | .unreadable, _ => .one ⟨none, .error .unreadable⟩
  | .unusable, _ => .one ⟨none, .error .refused⟩
  | .emptyBatch, _ => .one ⟨none, .error .refused⟩
  | .single _, dues =>
    match dues.filterMap id with
    | reply :: _ => .one reply
    | [] => .nothing
  | .batch _, dues =>
    if (dues.filterMap id).isEmpty then .nothing else .many (dues.filterMap id)

end HostMonitor.Rpc
