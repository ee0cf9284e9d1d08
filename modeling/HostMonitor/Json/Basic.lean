import HostMonitor.Keyed
import HostMonitor.Number.Binary64
import HostMonitor.Text.Wire

/-!
# Documents

A document is a tree of values.  Integers and floating point numbers are
different kinds of value, `1` and `1.0` are not equal.  An object is a list of
fields in the order in which their keys first appeared, and `put` keeps one
field for each key.
-/

namespace HostMonitor

open Number Text

inductive Json where
  | null
  | bool (value : Bool)
  | int (value : Int)
  | float (value : Binary64)
  | str (text : WireText)
  | arr (items : List Json)
  | obj (fields : List (WireText × Json))
  deriving Repr, Inhabited

/-- The fields of an object, in order. -/
abbrev Json.Fields := Keyed WireText Json

namespace Json

/-- The value of the first field with the key. -/
def Fields.get? (key : WireText) : Fields → Option Json
  | [] => none
  | (k, v) :: rest => if k = key then some v else Fields.get? key rest

/-- A text of characters as a value. -/
def ofString (s : String) : Json := .str (.chars s)

/-- A text or the empty value. -/
def ofText? : Option WireText → Json
  | some t => .str t
  | none => .null

def ofString? : Option String → Json
  | some s => ofString s
  | none => .null

/-- An integer or the empty value. -/
def ofInt? : Option Int → Json
  | some n => .int n
  | none => .null

def ofNat (n : Nat) : Json := .int n

/-- An object with keys of characters. -/
def record (fields : List (String × Json)) : Json :=
  .obj (fields.map fun (k, v) => (.chars k, v))

def ofStrings (items : List String) : Json := .arr (items.map ofString)

def isObject : Json → Bool
  | .obj _ => true
  | _ => false

/-- The value is neither a list nor an object. -/
def isScalar : Json → Bool
  | .arr _ | .obj _ => false
  | _ => true

mutual

/-- How many lists and objects stand inside each other. -/
def depth : Json → Nat
  | .arr items => depthOfItems items + 1
  | .obj fields => depthOfFields fields + 1
  | _ => 0

def depthOfItems : List Json → Nat
  | [] => 0
  | item :: more => max (depth item) (depthOfItems more)

def depthOfFields : List (WireText × Json) → Nat
  | [] => 0
  | (_, value) :: more => max (depth value) (depthOfFields more)

end

/-- How deep lists and objects may stand inside each other in what is read or written.
The interpreter follows a thousand calls inside each other, one for each level, and about
ten of them are in use before. -/
def depthLimit : Nat := 990

/-! ## Levels -/

theorem depthOfItems_le_iff {items : List Json} {n : Nat} :
    depthOfItems items ≤ n ↔ ∀ v ∈ items, v.depth ≤ n := by
  induction items with
  | nil => simp [depthOfItems]
  | cons v items ih => rw [depthOfItems, Nat.max_le, ih, List.forall_mem_cons]

theorem depthOfFields_le_iff {fields : List (WireText × Json)} {n : Nat} :
    depthOfFields fields ≤ n ↔ ∀ f ∈ fields, f.2.depth ≤ n := by
  induction fields with
  | nil => simp [depthOfFields]
  | cons f fields ih => rw [depthOfFields, Nat.max_le, ih, List.forall_mem_cons]

theorem depth_of_isScalar {v : Json} (h : v.isScalar = true) : v.depth = 0 := by
  cases v <;> simp_all [isScalar, depth]

/-! ## Induction -/

/-- What goes from the items of lists and the fields of objects to these holds of all
values. -/
@[elab_as_elim]
theorem inductOn {P : Json → Prop} (v : Json) (scalar : ∀ v : Json, v.isScalar = true → P v)
    (arr : ∀ items, (∀ v ∈ items, P v) → P (.arr items))
    (obj : ∀ fields, (∀ f ∈ fields, P f.2) → P (.obj fields)) : P v :=
  match v with
  | .null => scalar _ rfl
  | .bool _ => scalar _ rfl
  | .int _ => scalar _ rfl
  | .float _ => scalar _ rfl
  | .str _ => scalar _ rfl
  | .arr items => arr items fun v _ => inductOn v scalar arr obj
  | .obj fields => obj fields fun f _ => inductOn f.2 scalar arr obj
termination_by sizeOf v
decreasing_by
  · have smaller := List.sizeOf_lt_of_mem ‹v ∈ items›
    simp
    omega
  · have smaller := List.sizeOf_lt_of_mem ‹f ∈ fields›
    obtain ⟨key, value⟩ := f
    simp at smaller ⊢
    omega

/-! ## Equality -/

mutual

/-- The two values are the same. -/
def same : Json → Json → Bool
  | .null, .null => true
  | .bool a, .bool b => a == b
  | .int a, .int b => a == b
  | .float a, .float b => a == b
  | .str a, .str b => a == b
  | .arr as, .arr bs => sameItems as bs
  | .obj as, .obj bs => sameFields as bs
  | _, _ => false

/-- The two lists of values are the same. -/
def sameItems : List Json → List Json → Bool
  | [], [] => true
  | a :: as, b :: bs => same a b && sameItems as bs
  | _, _ => false

/-- The two lists of fields are the same. -/
def sameFields : List (WireText × Json) → List (WireText × Json) → Bool
  | [], [] => true
  | (k, a) :: as, (l, b) :: bs => k == l && same a b && sameFields as bs
  | _, _ => false

end

mutual

theorem same_iff : ∀ a b : Json, same a b = true ↔ a = b
  | .null, b => by cases b <;> simp [same]
  | .bool _, b => by cases b <;> simp [same]
  | .int _, b => by cases b <;> simp [same]
  | .float _, b => by cases b <;> simp [same]
  | .str _, b => by cases b <;> simp [same]
  | .arr as, b => by
      cases b with
      | arr bs => simp [same, sameItems_iff as bs]
      | _ => simp [same]
  | .obj as, b => by
      cases b with
      | obj bs => simp [same, sameFields_iff as bs]
      | _ => simp [same]

theorem sameItems_iff : ∀ as bs : List Json, sameItems as bs = true ↔ as = bs
  | [], bs => by cases bs <;> simp [sameItems]
  | a :: as, [] => by simp [sameItems]
  | a :: as, b :: bs => by
      simp [sameItems, same_iff a b, sameItems_iff as bs]

theorem sameFields_iff :
    ∀ as bs : List (WireText × Json), sameFields as bs = true ↔ as = bs
  | [], bs => by cases bs <;> simp [sameFields]
  | (k, a) :: as, [] => by simp [sameFields]
  | (k, a) :: as, (l, b) :: bs => by
      simp [sameFields, same_iff a b, sameFields_iff as bs]

end

instance : DecidableEq Json := fun _ _ => decidable_of_iff _ (same_iff _ _)

end Json

end HostMonitor
