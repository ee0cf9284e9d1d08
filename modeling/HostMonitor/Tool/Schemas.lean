import HostMonitor.Query.Arguments

/-!
# Schemas

A tool publishes a schema of its arguments and one of its result.  The schemas
repeat the limits and the names that queries use.
-/

namespace HostMonitor.Tool

open Query

/-- A schema that names a type. -/
def ofType (name : String) (more : List (String × Json)) : Json :=
  .record (("type", .ofString name) :: more)

/-- What a value is for. -/
def described (text : String) : String × Json := ("description", .ofString text)

/-- A format of texts. -/
def formatted (name : String) : Json := ofType "string" [("format", .ofString name)]

/-- A type, or null. -/
def orNull (name : String) (more : List (String × Json)) : Json :=
  .record (("type", .ofStrings [name, "null"]) :: more)

/-- An object with the given properties and no others. -/
def closedObject (properties : List (String × Json)) (required : List String) : Json :=
  .record [("type", .ofString "object"), ("properties", .record properties),
    ("required", .ofStrings required), ("additionalProperties", .bool false)]

def listOf (items : Json) (more : List (String × Json)) : Json :=
  ofType "array" (("items", items) :: more)

def count : Json := ofType "integer" [("minimum", .int 0)]

/-- The number of items to return. -/
def limitSchema (standard most : Int) (text : String) : Json :=
  ofType "integer" [("minimum", .int 1), ("maximum", .int most), ("default", .int standard),
    described text]

/-- The form of unit names. -/
def unitForm : String := "^[A-Za-z0-9.\\-_@:]+$"

/-- The form of timestamps. -/
def timestampForm : String :=
  "^\\d\x7b4\x7d-\\d\x7b2\x7d-\\d\x7b2\x7dT\\d\x7b2\x7d:\\d\x7b2\x7d:\\d\x7b2\x7d" ++
    "(\\.\\d\x7b1,9\x7d)?Z$"

/-! ## Services -/

def servicesInput : Json :=
  closedObject
    [("state", ofType "string"
      [described "Filter by active state (case-insensitive)",
       ("enum", .ofStrings serviceStates)]),
     ("name_contains", ofType "string" [described "Plain substring the unit name must contain"]),
     ("limit", limitSchema standardServices mostServices "Maximum number of services to return")]
    []

def serviceSchema : Json :=
  closedObject
    [("unit", ofType "string" []), ("description", ofType "string" []),
     ("load_state", ofType "string" []), ("active_state", ofType "string" []),
     ("sub_state", ofType "string" []), ("unit_file_state", orNull "string" []),
     ("since_utc", orNull "string" []), ("main_pid", orNull "integer" []),
     ("exec_main_status", orNull "integer" []), ("result", orNull "string" [])]
    ["unit", "description", "load_state", "active_state", "sub_state"]

def servicesOutput : Json :=
  closedObject
    [("services", listOf serviceSchema []), ("total", count), ("returned", count),
     ("truncated", ofType "boolean" []), ("generated_at_utc", formatted "date-time")]
    ["services", "total", "returned", "truncated", "generated_at_utc"]

/-! ## Entries -/

/-- A bound of a window. -/
def boundSchema (text : String) : Json :=
  ofType "string" [("pattern", .ofString timestampForm), described text]

def logsInput : Json :=
  closedObject
    [("priority", .record
      [described
        "Minimum severity: 0-7 or emerg, alert, crit, err, warning, notice, info, debug",
       ("oneOf", .arr
        [ofType "integer" [("minimum", .int 0), ("maximum", .int 7)], ofType "string" []])]),
     ("unit", ofType "string"
      [("pattern", .ofString unitForm), described "Only entries logged by this unit"]),
     ("start_utc", boundSchema "Window start, RFC3339 UTC ending with Z"),
     ("end_utc", boundSchema "Window end, RFC3339 UTC ending with Z"),
     ("grep", ofType "string" [described "Substring to match in messages, or /regex/"]),
     ("exclude_units", listOf (ofType "string" [("pattern", .ofString unitForm)])
      [described "Units whose entries are dropped"]),
     ("order", ofType "string"
      [("enum", .ofStrings [Order.ascending.word, Order.descending.word]),
       ("default", .ofString Order.descending.word), described "Sort by timestamp"]),
     ("allow_large_window", ofType "boolean"
      [("default", .bool false), described "Permit windows wider than 7 days"]),
     ("limit", limitSchema standardEntries mostEntries "Maximum number of entries to return")]
    ["start_utc", "end_utc"]

def entrySchema : Json :=
  closedObject
    [("timestamp_utc", formatted "date-time"), ("unit", orNull "string" []),
     ("priority", orNull "integer" [("minimum", .int 0), ("maximum", .int 7)]),
     ("hostname", orNull "string" []), ("pid", orNull "integer" []),
     ("message", orNull "string" []), ("cursor", orNull "string" [])]
    ["timestamp_utc"]

def windowSchema : Json :=
  closedObject [("start_utc", formatted "date-time"), ("end_utc", formatted "date-time")]
    ["start_utc", "end_utc"]

def logsOutput : Json :=
  closedObject
    [("entries", listOf entrySchema []), ("total_scanned", count), ("returned", count),
     ("truncated", ofType "boolean" []), ("generated_at_utc", formatted "date-time"),
     ("window", windowSchema)]
    ["entries", "returned", "truncated", "generated_at_utc", "window"]

end HostMonitor.Tool
