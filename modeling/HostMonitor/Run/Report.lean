import HostMonitor.Json.Basic

/-!
# Reports and faults

A report is a failure that the program knows: it has a kind, a text, a stable
word for programs to look at, and details.  The kind decides the number and the
title under which a client sees it.

A fault is any failure.  A breakdown is one that no rule foresees, such as a
time outside the calendar, and its text is what the interpreter says of it.  Reports
of the adapter kind tell about the host, and together with breakdowns they are kept
from clients.
-/

namespace HostMonitor

inductive ReportKind where
  /-- A failure without a closer description. -/
  | general
  | invalidRequest
  | invalidParams
  | validation
  | methodNotFound
  | toolNotFound
  | resourceNotFound
  | adapter
  deriving DecidableEq, Repr

namespace ReportKind

/-- The number of the kind in a reply. -/
def number : ReportKind → Int
  | .general | .adapter => -32603
  | .invalidRequest => -32600
  | .invalidParams | .validation => -32602
  | .methodNotFound | .toolNotFound | .resourceNotFound => -32601

/-- The title of the kind in a reply. -/
def title : ReportKind → String
  | .general | .adapter => "Internal error"
  | .invalidRequest => "Invalid Request"
  | .invalidParams | .validation => "Invalid params"
  | .methodNotFound | .toolNotFound | .resourceNotFound => "Method not found"

/-- The word for a report that has none of its own. -/
def word : ReportKind → String
  | .general | .adapter => "internal_error"
  | .invalidRequest => "invalid_request"
  | .invalidParams | .validation => "invalid_params"
  | .methodNotFound => "method_not_found"
  | .toolNotFound => "tool_not_found"
  | .resourceNotFound => "resource_not_found"

end ReportKind

/-- A failure that the program knows. -/
structure Report where
  kind : ReportKind
  /-- What happened, for people. -/
  message : String
  /-- What happened, for programs. -/
  code : String
  details : Json.Fields
  deriving DecidableEq, Repr

namespace Report

/-- A report.  What is left empty has the value of the kind. -/
def of (kind : ReportKind) (message code : String) (details : Json.Fields) : Report :=
  ⟨kind, if message.isEmpty then kind.title else message,
    if code.isEmpty then kind.word else code, details⟩

def argument (message code : String) (details : Json.Fields) : Report :=
  of .validation message code details

/-- A report about an argument with a text and a word shows just these. -/
theorem argument_eq {message code : String} (said : message ≠ "") (worded : code ≠ "")
    (details : Json.Fields) :
    argument message code details = ⟨.validation, message, code, details⟩ := by
  have said' : message.isEmpty = false := Bool.eq_false_iff.mpr (mt String.isEmpty_iff.mp said)
  have worded' : code.isEmpty = false := Bool.eq_false_iff.mpr (mt String.isEmpty_iff.mp worded)
  simp [argument, of, said', worded']

def ofHost (message : String) : Report := of .adapter message "" []

def document (r : Report) : Json :=
  .record [("code", .ofString r.code), ("message", .ofString r.message),
    ("details", .obj r.details)]

end Report

/-- A value, or a report of why there is none. -/
abbrev Checked (α : Type) := Except Report α

/-- Two steps that can fail give a value when the first gives one and the second
gives one for it. -/
theorem bind_eq_ok {ε α β : Type} {first : Except ε α} {second : α → Except ε β} {b : β} :
    first >>= second = .ok b ↔ ∃ a, first = .ok a ∧ second a = .ok b := by
  cases first with
  | ok a => simp [bind, Except.bind]
  | error e => simp [bind, Except.bind]

/-- A failure. -/
inductive Fault where
  /-- One that the program knows. -/
  | reported (report : Report)
  /-- One that no rule foresees. -/
  | breakdown (text : String)
  deriving DecidableEq, Repr

namespace Fault

/-- What clients may see of a failure. -/
def public? : Fault → Option Report
  | .reported r => if r.kind = .adapter then none else some r
  | .breakdown _ => none

/-- What is said of the cause. -/
def cause : Fault → String
  | .reported r => r.message
  | .breakdown text => text

/-- Calls stand too deep in each other. -/
def stackExhausted : Fault := .breakdown "maximum recursion depth exceeded"

/-- A number, a time or a document of the host that cannot be converted. -/
def unconvertible : Fault := .breakdown "value cannot be converted"

/-- A document that cannot be written, as it has too long an integer or too many levels. -/
def unwritable : Fault := .breakdown "Exceeds the limit of what can be written"

end Fault

end HostMonitor
