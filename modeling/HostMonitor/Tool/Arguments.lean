import HostMonitor.Run.Report

/-!
# Arguments of tools

A tool declares its arguments, each with the kind of its values.  An argument
that is null counts as left out.  Keys that are not declared are refused before
any value is looked at, and of several values of the wrong kind the one that is
declared first is reported.
-/

namespace HostMonitor.Tool

open Text

inductive ArgumentKind where
  | text
  | integer
  | integerOrText
  | truth
  | texts
  deriving DecidableEq, Repr

def isText : Json → Bool
  | .str _ => true
  | _ => false

/-- What is wrong with a value of the kind, if anything is. -/
def ArgumentKind.objection? : ArgumentKind → Json → Option String
  | .text, .str _ | .integer, .int _ | .integerOrText, .int _ | .integerOrText, .str _
  | .truth, .bool _ => none
  | .texts, .arr items =>
    if items.all isText then none else some "Input should be a valid string"
  | .text, _ => some "Input should be a valid string"
  | .integer, _ | .integerOrText, _ => some "Input should be a valid integer"
  | .truth, _ => some "Input should be a valid boolean"
  | .texts, _ => some "Input should be a valid list"

structure Argument where
  name : String
  kind : ArgumentKind
  /-- The word for a value of the wrong kind. -/
  code : String
  deriving DecidableEq, Repr

/-- The word for arguments that have none of their own. -/
def invalidArguments : String := "invalid_arguments"

/-- The arguments of a tool, in order. -/
abbrev Signature := List Argument

/-- The value of an argument, if one is given. -/
def given? (a : Argument) (fields : Json.Fields) : Option Json :=
  match fields.get? a.name with
  | some .null | none => none
  | some value => some value

/-- The report about a value of the wrong kind. -/
def wrongValue (a : Argument) (objection : String) : Report :=
  .argument (a.name ++ ": " ++ objection) a.code [("field", .ofString a.name)]

/-- The keys that are not declared, in order. -/
def unknownKeys (s : Signature) (keys : List String) : List String :=
  (keys.filter fun key => !(s.map Argument.name).contains key).mergeSort fun a b => !decide (b < a)

/-- The report about keys that are not declared. -/
def unknownReport (keys : List String) : Report :=
  .argument ("unknown arguments: " ++ ", ".intercalate keys) invalidArguments
    [("unknown", .ofStrings keys)]

/-- The report about a key that is no text of characters. -/
def brokenKeyReport : Report :=
  .argument
    "arguments: Input should be a valid string, unable to parse raw data as a unicode string"
    invalidArguments []

/-- The first declared argument with a value of the wrong kind. -/
def firstWrong? (s : Signature) (fields : Json.Fields) : Option Report :=
  s.findSome? fun a =>
    (given? a fields).bind fun value => (a.kind.objection? value).map (wrongValue a)

/-- The values that are given, in the order of the signature. -/
def givenValues (s : Signature) (fields : Json.Fields) : Json.Fields :=
  s.filterMap fun a => (given? a fields).map fun value => (WireText.chars a.name, value)

/-- The arguments that are given, once they are found to fit the signature. -/
def Signature.check (s : Signature) (fields : Json.Fields) : Checked Json.Fields :=
  match fields.mapM fun field => field.1.chars? with
  | none => .error brokenKeyReport
  | some keys =>
    let unknown := unknownKeys s keys
    if !unknown.isEmpty then .error (unknownReport unknown)
    else
      match firstWrong? s fields with
      | some report => .error report
      | none => .ok (givenValues s fields)

/-! ## The tools of the gateway -/

def servicesSignature : Signature :=
  [⟨"state", .text, "invalid_state"⟩, ⟨"name_contains", .text, invalidArguments⟩,
   ⟨"limit", .integer, "invalid_limit"⟩]

def logsSignature : Signature :=
  [⟨"priority", .integerOrText, "invalid_priority"⟩, ⟨"unit", .text, "invalid_unit"⟩,
   ⟨"start_utc", .text, "invalid_utc_time"⟩, ⟨"end_utc", .text, "invalid_utc_time"⟩,
   ⟨"grep", .text, "invalid_grep"⟩, ⟨"exclude_units", .texts, "invalid_unit"⟩,
   ⟨"order", .text, "invalid_order"⟩, ⟨"allow_large_window", .truth, invalidArguments⟩,
   ⟨"limit", .integer, "invalid_limit"⟩]

end HostMonitor.Tool
