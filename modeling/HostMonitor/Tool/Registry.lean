import HostMonitor.Tool.Catalog

/-!
# The registry

The registry keeps what is registered in six tables: of a tool its handler, its card,
its signature and its summary, of a resource its reader and its card.  Each table is
looked up by itself.  A key that one table has and another lacks would be a breakdown.

A registration sets the key in every table of its kind.  Only a summary that a tool
does not have is not set.
-/

namespace HostMonitor.Tool

open Text

/-! ## Tables -/

/-- Values by their keys, in the order in which the keys were first set. -/
abbrev Table (α : Type) := Keyed String α

namespace Table

variable {α : Type}

def get? (key : WireText) : Table α → Option α
  | [] => none
  | (k, v) :: rest => if key = .chars k then some v else get? key rest

/-- The value of a key that has to be there. -/
def entry (table : Table α) (key : WireText) : Run α :=
  match table.get? key with
  | some value => .done value
  | none => .fail (.breakdown key.shown)

end Table

/-! ## The tables together -/

structure Registry where
  handlers : Table (Json.Fields → Run Json)
  toolCards : Table ToolCard
  signatures : Table Signature
  summaries : Table (Json → String)
  readers : Table (Run Json)
  resourceCards : Table ResourceCard

/-- A tool or a resource that is registered. -/
inductive Registration where
  | tool (t : ToolEntry)
  | resource (r : ResourceEntry)

/-- The line that the log gets of a registration. -/
def Registration.notice : Registration → Notice
  | .tool t => .toolRegistered t.name
  | .resource r => .resourceRegistered r.uri

namespace Registry

def empty : Registry := ⟨[], [], [], [], [], []⟩

def setTool (g : Registry) (t : ToolEntry) : Registry where
  handlers := g.handlers.put t.name t.handler
  toolCards := g.toolCards.put t.name t.card
  signatures := g.signatures.put t.name t.signature
  summaries :=
    match t.summary with
    | some summary => g.summaries.put t.name summary
    | none => g.summaries
  readers := g.readers
  resourceCards := g.resourceCards

def setResource (g : Registry) (r : ResourceEntry) : Registry :=
  { g with
    readers := g.readers.put r.uri r.reader
    resourceCards := g.resourceCards.put r.uri r.card }

def set (g : Registry) : Registration → Registry
  | .tool t => g.setTool t
  | .resource r => g.setResource r

/-- Registers a tool or a resource and writes that to the log. -/
def register (g : Registry) (r : Registration) : Run Registry := do
  .note r.notice
  return g.set r

/-- Registers one after another. -/
def registerAll (g : Registry) : List Registration → Run Registry
  | [] => return g
  | r :: rest => do
    let g ← g.register r
    g.registerAll rest

def toolDocument (g : Registry) : Json := .arr (g.toolCards.map fun card => card.2.document)

def resourceDocument (g : Registry) : Json :=
  .arr (g.resourceCards.map fun card => card.2.document)

/-- Runs a tool on arguments, once they are found to fit. -/
def execute (g : Registry) (name : WireText) (arguments : Json.Fields) : Run Json :=
  match g.handlers.get? name with
  | none => .fail (toolNotFound name)
  | some _ => do
    let signature ← g.signatures.entry name
    let given ← .ofChecked (signature.check arguments)
    let handler ← g.handlers.entry name
    handler given

/-- Runs a tool and gives its result as a document and as a text. -/
def callTool (g : Registry) (name : WireText) (arguments : Json.Fields) : Run Json := do
  let result ← g.execute name arguments
  let text ← .ofExcept (resultText (g.summaries.get? name) result)
  return toolResult text result

/-- Reads a resource and gives it as a text. -/
def readResource (g : Registry) (uri : WireText) : Run Json :=
  match g.readers.get? uri with
  | none => .fail (resourceNotFound uri)
  | some reader => do
    let document ← reader
    let card ← g.resourceCards.entry uri
    let text ← .ofExcept (dumped document)
    return resourceResult uri card.mimeType text

end Registry

end HostMonitor.Tool
