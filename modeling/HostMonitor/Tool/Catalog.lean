import HostMonitor.Json.Printer
import HostMonitor.Run.Basic
import HostMonitor.Tool.Arguments

/-!
# Tools and resources

A tool has a name, a description, schemas for its arguments and its result, and
a handler.  A resource has an address and a reader.  A catalog is what a registry
comes to when no name and no address is registered twice.

The result of a tool is sent as a document and as a text.  The text is the
summary, or the document itself when the tool has none.  Not every document has a text.
-/

namespace HostMonitor.Tool

open Text

/-- What is listed of a tool. -/
structure ToolCard where
  name : String
  description : String
  inputSchema : Json
  outputSchema : Json

def ToolCard.document (c : ToolCard) : Json :=
  .record [("name", .ofString c.name), ("description", .ofString c.description),
    ("inputSchema", c.inputSchema), ("outputSchema", c.outputSchema)]

structure ToolEntry where
  name : String
  description : String
  inputSchema : Json
  outputSchema : Json
  signature : Signature
  handler : Json.Fields → Run Json
  /-- The text for a result. -/
  summary : Option (Json → String)

def ToolEntry.card (t : ToolEntry) : ToolCard :=
  ⟨t.name, t.description, t.inputSchema, t.outputSchema⟩

def ToolEntry.document (t : ToolEntry) : Json := t.card.document

/-- What is listed of a resource. -/
structure ResourceCard where
  uri : String
  name : String
  description : String
  mimeType : String

def ResourceCard.document (c : ResourceCard) : Json :=
  .record [("uri", .ofString c.uri), ("name", .ofString c.name),
    ("description", .ofString c.description), ("mimeType", .ofString c.mimeType)]

structure ResourceEntry where
  uri : String
  name : String
  description : String
  reader : Run Json

/-- The type of all resources. -/
def mimeType : String := "application/json"

def ResourceEntry.card (r : ResourceEntry) : ResourceCard :=
  ⟨r.uri, r.name, r.description, Tool.mimeType⟩

def ResourceEntry.document (r : ResourceEntry) : Json := r.card.document

/-- Tools and resources, in the order in which they are registered. -/
structure Catalog where
  tools : List ToolEntry
  resources : List ResourceEntry

/-- The failure of a call of a tool that is not there. -/
def toolNotFound (name : WireText) : Fault :=
  .reported (.of .toolNotFound ("Tool not found: " ++ name.shown) "" [("name", .str name)])

/-- The failure to read a resource that is not there. -/
def resourceNotFound (uri : WireText) : Fault :=
  .reported (.of .resourceNotFound ("Resource not found: " ++ uri.shown) "" [("uri", .str uri)])

/-- The text of a document. -/
def dumped (document : Json) : Except Fault String :=
  match document.wide? with
  | some text => .ok text
  | none => .error .unwritable

theorem dumped_of_writable {document : Json} (writable : document.Writable) :
    dumped document = .ok document.wide := by
  rw [dumped, Json.wide?, if_pos writable]

theorem dumped_of_not_writable {document : Json} (unwritable : ¬ document.Writable) :
    dumped document = .error .unwritable := by
  rw [dumped, Json.wide?, if_neg unwritable]

/-- The text for the result of a tool, which may have a summary. -/
def resultText (summary : Option (Json → String)) (result : Json) : Except Fault String :=
  match summary with
  | some summary => .ok (summary result)
  | none => dumped result

/-- The result of a tool with the text for it. -/
def toolResult (text : String) (result : Json) : Json :=
  .record [("content", .arr [.record [("type", .ofString "text"), ("text", .ofString text)]]),
    ("structuredContent", result)]

/-- The text of a resource. -/
def resourceResult (uri : WireText) (mimeType text : String) : Json :=
  .record [("contents", .arr [.record [("uri", .str uri), ("mimeType", .ofString mimeType),
    ("text", .ofString text)]])]

namespace Catalog

def toolDocument (c : Catalog) : Json := .arr (c.tools.map ToolEntry.document)

def resourceDocument (c : Catalog) : Json := .arr (c.resources.map ResourceEntry.document)

def tool? (c : Catalog) (name : WireText) : Option ToolEntry :=
  c.tools.find? fun t => name == .chars t.name

def resource? (c : Catalog) (uri : WireText) : Option ResourceEntry :=
  c.resources.find? fun r => uri == .chars r.uri

/-- Runs a tool on arguments, once they are found to fit. -/
def execute (c : Catalog) (name : WireText) (arguments : Json.Fields) : Run Json :=
  match c.tool? name with
  | none => .fail (toolNotFound name)
  | some t => do
    let given ← .ofChecked (t.signature.check arguments)
    t.handler given

/-- Runs a tool and gives its result as a document and as a text. -/
def callTool (c : Catalog) (name : WireText) (arguments : Json.Fields) : Run Json := do
  let result ← c.execute name arguments
  let text ← .ofExcept (resultText ((c.tool? name).bind ToolEntry.summary) result)
  return toolResult text result

/-- A call gives what the tool makes of the arguments, if there is a text for it. -/
theorem outcome_callTool {c : Catalog} {name : WireText} {arguments : Json.Fields} {value : Json}
    (executed : (c.execute name arguments).outcome = .ok value) :
    (c.callTool name arguments).outcome =
      (resultText ((c.tool? name).bind ToolEntry.summary) value).map (toolResult · value) := by
  rw [callTool, Run.outcome_bind_of_ok executed]
  cases resultText ((c.tool? name).bind ToolEntry.summary) value with
  | ok text => rfl
  | error f => rfl

/-- Reads a resource and gives it as a text. -/
def readResource (c : Catalog) (uri : WireText) : Run Json :=
  match c.resource? uri with
  | none => .fail (resourceNotFound uri)
  | some r => do
    let document ← r.reader
    let text ← .ofExcept (dumped document)
    return resourceResult uri mimeType text

end Catalog

end HostMonitor.Tool
