import HostMonitor.Json.Basic
import HostMonitor.Text.Blank
import HostMonitor.Text.Letters
import HostMonitor.Text.Split

/-!
# Redaction

Parameters are written to the log without the values of keys that may hold a
secret.  A marker stands in their place.  All else is kept as it is, at every
depth.

Redaction goes into lists and objects by calling itself, so it follows them only
as far as the stack of the interpreter reaches.
-/

namespace HostMonitor.Audit

open Text

/-- The marker in the place of a value. -/
def redacted : String := "[REDACTED]"

def secretKeys : List String :=
  ["token", "api_token", "access_token", "refresh_token", "authorization", "bearer", "password",
   "secret", "credentials", "credential", "api_key", "apikey"]

/-- What makes a key one that holds a secret. -/
def secretFragments : List String := ["token", "secret", "password", "credential"]

def isSecretKey (key : String) : Bool :=
  let plain := lower (strip key)
  secretKeys.contains plain || secretFragments.any (holds plain)

mutual

/-- The document without the values of secret keys. -/
def redact : Json → Json
  | .arr items => .arr (redactItems items)
  | .obj fields => .obj (redactFields fields)
  | value => value

def redactItems : List Json → List Json
  | [] => []
  | item :: more => redact item :: redactItems more

def redactFields : List (WireText × Json) → List (WireText × Json)
  | [] => []
  | (key, value) :: more =>
    (key, if isSecretKey key.shown then .ofString redacted else redact value) ::
      redactFields more

end

/-- A field without a secret. -/
def redactField (f : WireText × Json) : WireText × Json :=
  (f.1, if isSecretKey f.1.shown then .ofString redacted else redact f.2)

/-- No key is changed. -/
theorem keys_redactField (fields : List (WireText × Json)) :
    (fields.map redactField).map Prod.fst = fields.map Prod.fst := by
  rw [List.map_map]
  refine List.map_congr_left fun f _ => ?_
  rw [Function.comp_apply, redactField]

theorem redactItems_eq (items : List Json) : redactItems items = items.map redact := by
  induction items with
  | nil => rw [redactItems, List.map_nil]
  | cons v items ih => rw [redactItems, ih, List.map_cons]

theorem redactFields_eq (fields : List (WireText × Json)) :
    redactFields fields = fields.map redactField := by
  induction fields with
  | nil => rw [redactFields, List.map_nil]
  | cons f fields ih => rw [redactFields, ih, List.map_cons, redactField]

@[simp] theorem redact_arr (items : List Json) : redact (.arr items) = .arr (items.map redact) := by
  rw [redact, redactItems_eq]

@[simp] theorem redact_obj (fields : List (WireText × Json)) :
    redact (.obj fields) = .obj (fields.map redactField) := by
  rw [redact, redactFields_eq]

theorem redact_of_isScalar {v : Json} (h : v.isScalar = true) : redact v = v := by
  cases v <;> simp_all [Json.isScalar, redact]

/-- Redaction adds no levels. -/
theorem depth_redact_le (v : Json) : (redact v).depth ≤ v.depth := by
  induction v using Json.inductOn with
  | scalar v leaf => exact Nat.le_of_eq (congrArg Json.depth (redact_of_isScalar leaf))
  | arr items ih =>
      have each := Json.depthOfItems_le_iff.mp (Nat.le_refl (Json.depthOfItems items))
      rw [redact_arr, Json.depth, Json.depth, Nat.add_le_add_iff_right, Json.depthOfItems_le_iff]
      intro w redactedItem
      obtain ⟨v, mem, rfl⟩ := List.mem_map.mp redactedItem
      exact Nat.le_trans (ih v mem) (each v mem)
  | obj fields ih =>
      have each := Json.depthOfFields_le_iff.mp (Nat.le_refl (Json.depthOfFields fields))
      rw [redact_obj, Json.depth, Json.depth, Nat.add_le_add_iff_right, Json.depthOfFields_le_iff]
      intro g redactedField
      obtain ⟨f, mem, rfl⟩ := List.mem_map.mp redactedField
      by_cases secret : isSecretKey f.1.shown = true
      · rw [redactField, if_pos secret]
        exact Nat.zero_le _
      · rw [redactField, if_neg secret]
        exact Nat.le_trans (ih f mem) (each f mem)

/-- The levels that redaction can follow.  It takes two calls for each level, and of the
thousand that the interpreter follows about twenty are in use when a call is recorded. -/
def auditReach : Nat := 490

/-- The document without the values of secret keys, on a stack that reaches so many
levels deep.  Redaction does not look into the values that it leaves out. -/
def redactWithin (reach : Nat) (value : Json) : Option Json :=
  let plain := redact value
  if plain.depth ≤ reach then some plain else none

end HostMonitor.Audit
