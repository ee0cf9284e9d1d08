import HostMonitor.Audit.Redaction
import HostMonitor.Json.Printer
import HostMonitor.Rpc.Reply
import HostMonitor.Run.Basic

/-!
# Calling methods

Each request of a message is handled by itself, and whatever its method does,
there is one reply and one line in the log that tells of the call.  The members of a
message are handled at the same time.  The replies stand in the order of the
requests, without those to notifications.

A failure without a public report gets an id of its own.  `errorIds` supplies
one for each member of a message.

A message may nest deeper than its parameters can be redacted.  The line of the log
is written after a method has run, outside of what catches its failures, so a
redaction that uses up the stack is a failure of the whole message.  It does not stop
the other members, but then none of their replies is sent.
-/

namespace HostMonitor.Rpc

open Audit

/-- A method: what it does with named parameters. -/
abbrev Method := Json.Fields → Run Json

/-- The methods that can be called, in the order in which they were first
registered. -/
abbrev Methods := Keyed String Method

/-- Registers a method, in the place of one of the same name or at the end, and writes
that to the log. -/
def Methods.register (ms : Methods) (name : String) (method : Method) : Run Methods := do
  .note (.methodRegistered name)
  return ms.put name method

def Methods.names (ms : Methods) : List String := ms.keys

/-- The supply of ids for failures, by the place of the member in its message. -/
abbrev ErrorIds := Nat → String

def Methods.call (ms : Methods) (r : Request) : Run Json :=
  match ms.lookup r.method, r.params with
  | none, _ =>
    .fail (.reported (.of .methodNotFound ("Method not found: " ++ r.method) "" []))
  | some _, .listed _ =>
    .fail (.reported (.of .invalidParams "params must be an object" "" []))
  | some method, .named fields => method fields
  | some method, .absent => method []

/-- The error for a fault.  A cause that is kept from the client is written to
the log. -/
def errorFor (r : Request) (errorId : String) (f : Fault) : Run ErrorReply :=
  match f.public? with
  | some report => return .ofReport report
  | none => do
    .note (.internalError r.method errorId f)
    return .hidden errorId

/-- The reply to a request, whatever its method does. -/
def Methods.settle (ms : Methods) (errorId : String) (r : Request) : Run Reply := do
  match ← (ms.call r).attempt with
  | .ok value => return ⟨r.id, .ok value⟩
  | .error f => return ⟨r.id, .error (← errorFor r errorId f)⟩

/-- Writes to the log how a call went, as far as its parameters can be redacted.  No
integer in them is too long to be written, as they have been read. -/
def record (reach : Nat) (r : Request) (reply : Reply) : Run Unit :=
  match redactWithin reach r.params.document with
  | some params => .note (.audited r.method params.wide reply.isError)
  | none => .fail .stackExhausted

/-- The reply to a member of a message, if one is due. -/
def Methods.replyWithin (ms : Methods) (reach : Nat) (errorId : String) :
    Member → Run (Option Reply)
  | .refused id => return some ⟨id, .error .refused⟩
  | .request r => do
    let reply ← ms.settle errorId r
    record reach r reply
    return if r.isNotification then none else some reply

/-- The members of a message at work, in their order. -/
def Methods.runsWithin (ms : Methods) (reach : Nat) (errorIds : ErrorIds)
    (members : List Member) : List (Run (Option Reply)) :=
  members.zipIdx.map fun m => ms.replyWithin reach (errorIds m.2) m.1

/-- The answer to the bytes of a message, on a stack on which redaction reaches so
many levels deep. -/
def Methods.dispatchWithin (ms : Methods) (reach : Nat) (errorIds : ErrorIds)
    (body : List UInt8) : Run Answer := do
  let message := Message.ofBytes body
  let replies ← .gather (ms.runsWithin reach errorIds message.members)
  return message.assemble replies

end HostMonitor.Rpc
