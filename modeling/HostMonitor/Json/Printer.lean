import HostMonitor.Json.Basic
import HostMonitor.Number.Reader
import HostMonitor.Number.Shortest
import HostMonitor.Text.Quoted

/-!
# Writing documents

Two documents are written: log lines and tool results use `Style.wide`, which
puts a blank after separators and keeps to ASCII, and replies use
`Style.compact`, which has no blanks and writes every character but the
controls as it is.

Not everything can be written.  `wide?` gives no text for a document with an integer of
more than `digitLimit` digits, nor for one with too many levels.  A reply cannot carry
such an integer either, and `isRenderable` holds of the documents without it, without an
infinite number, without a broken text, and without a number that is none.

`shown` is the form a value has inside a message.
-/

namespace HostMonitor.Json

open Number Text

structure Style where
  between : String
  afterKey : String
  /-- Whether only ASCII characters are written as they are. -/
  asciiOnly : Bool

/-- Blanks after separators, ASCII only. -/
def Style.wide : Style := ⟨", ", ": ", true⟩

/-- No blanks, all characters. -/
def Style.compact : Style := ⟨",", ":", false⟩

/-! ## Texts -/

/-- The escape of one unit of sixteen bits. -/
def unitEscape (unit : Nat) : List Char := '\\' :: 'u' :: hexDigits 4 unit

/-- The escape of a code point, in two units when it does not fit in one. -/
def pointEscape (point : Nat) : List Char :=
  if point < 0x10000 then unitEscape point
  else
    unitEscape (0xD800 + (point - 0x10000) / 0x400) ++
      unitEscape (0xDC00 + (point - 0x10000) % 0x400)

/-- A code point inside a text. -/
def writePoint (asciiOnly : Bool) (point : Nat) : List Char :=
  if point = 0x22 then ['\\', doubleQuote]
  else if point = 0x5C then ['\\', '\\']
  else if point = 0x0A then ['\\', 'n']
  else if point = 0x0D then ['\\', 'r']
  else if point = 0x09 then ['\\', 't']
  else if point = 0x08 then ['\\', 'b']
  else if point = 0x0C then ['\\', 'f']
  else if point < 0x20 then unitEscape point
  else if asciiOnly && point ≥ 0x7F then pointEscape point
  else if point.isValidChar then [Char.ofNat point]
  else unitEscape point

/-- A text in double quotes. -/
def writeText (asciiOnly : Bool) (t : WireText) : List Char :=
  doubleQuote :: t.points.flatMap (writePoint asciiOnly) ++ [doubleQuote]

def writeInt (n : Int) : List Char :=
  if n < 0 then '-' :: Nat.toDigits 10 n.natAbs else Nat.toDigits 10 n.natAbs

/-! ## Documents -/

mutual

/-- A document set out in a style. -/
def write (style : Style) : Json → List Char
  | .null => ['n', 'u', 'l', 'l']
  | .bool true => ['t', 'r', 'u', 'e']
  | .bool false => ['f', 'a', 'l', 's', 'e']
  | .int n => writeInt n
  | .float x => Layout.document.write x
  | .str t => writeText style.asciiOnly t
  | .arr items => '[' :: writeItems style items ++ [']']
  | .obj fields => Char.ofNat 0x7B :: writeFields style fields ++ [Char.ofNat 0x7D]

/-- The items of a list with their separators. -/
def writeItems (style : Style) : List Json → List Char
  | [] => []
  | [item] => write style item
  | item :: more => write style item ++ style.between.toList ++ writeItems style more

/-- The fields of an object with their separators. -/
def writeFields (style : Style) : List (WireText × Json) → List Char
  | [] => []
  | [(key, value)] =>
    writeText style.asciiOnly key ++ style.afterKey.toList ++ write style value
  | (key, value) :: more =>
    writeText style.asciiOnly key ++ style.afterKey.toList ++ write style value ++
      style.between.toList ++ writeFields style more

end

def wide (doc : Json) : String := String.ofList (write .wide doc)

def compact (doc : Json) : String := String.ofList (write .compact doc)

/-- The number of digits of an integer. -/
def digitCount (n : Int) : Nat := (Nat.toDigits 10 n.natAbs).length

mutual

/-- The most digits of an integer in a document. -/
def digits : Json → Nat
  | .int n => digitCount n
  | .arr items => digitsOfItems items
  | .obj fields => digitsOfFields fields
  | _ => 0

/-- The most digits of an integer in a list of values. -/
def digitsOfItems : List Json → Nat
  | [] => 0
  | item :: more => max (digits item) (digitsOfItems more)

/-- The most digits of an integer in a list of fields. -/
def digitsOfFields : Fields → Nat
  | [] => 0
  | (_, value) :: more => max (digits value) (digitsOfFields more)

end

theorem digitsOfItems_le_iff {items : List Json} {n : Nat} :
    digitsOfItems items ≤ n ↔ ∀ v ∈ items, v.digits ≤ n := by
  induction items with
  | nil => simp [digitsOfItems]
  | cons v items ih => rw [digitsOfItems, Nat.max_le, ih, List.forall_mem_cons]

theorem digitsOfFields_le_iff {fields : Fields} {n : Nat} :
    digitsOfFields fields ≤ n ↔ ∀ f ∈ fields, f.2.digits ≤ n := by
  induction fields with
  | nil => simp [digitsOfFields]
  | cons f fields ih => rw [digitsOfFields, Nat.max_le, ih, List.forall_mem_cons]

/-- The document can be written: no integer has too many digits, and there are not too many
levels. -/
def Writable (doc : Json) : Prop := doc.digits ≤ digitLimit ∧ doc.depth ≤ depthLimit

instance (doc : Json) : Decidable doc.Writable := inferInstanceAs (Decidable (_ ∧ _))

/-- The text of a document, if it can be written. -/
def wide? (doc : Json) : Option String := if doc.Writable then some doc.wide else none

/-! ## What a reply can carry -/

/-- The text can be sent. -/
def sendable : WireText → Bool
  | .chars _ => true
  | .broken .. => false

mutual

/-- The document can be sent as a reply. -/
def isRenderable : Json → Bool
  | .int n => decide (digitCount n ≤ digitLimit)
  | .float x => x.isFinite
  | .str t => sendable t
  | .arr items => areRenderable items
  | .obj fields => fieldsRenderable fields
  | _ => true

def areRenderable : List Json → Bool
  | [] => true
  | item :: more => isRenderable item && areRenderable more

def fieldsRenderable : List (WireText × Json) → Bool
  | [] => true
  | (key, value) :: more => sendable key && isRenderable value && fieldsRenderable more

end

/-! ## Values in messages -/

mutual

/-- A value as a part of a message. -/
def showInner : Json → List Char
  | .null => "None".toList
  | .bool true => "True".toList
  | .bool false => "False".toList
  | .int n => writeInt n
  | .float x => Layout.plain.write x
  | .str t => quotedPoints t.points
  | .arr items => '[' :: showItems items ++ [']']
  | .obj fields => Char.ofNat 0x7B :: showFields fields ++ [Char.ofNat 0x7D]

/-- The items of a list in a message. -/
def showItems : List Json → List Char
  | [] => []
  | [item] => showInner item
  | item :: more => showInner item ++ ", ".toList ++ showItems more

/-- The fields of an object in a message. -/
def showFields : List (WireText × Json) → List Char
  | [] => []
  | [(key, value)] => quotedPoints key.points ++ ": ".toList ++ showInner value
  | (key, value) :: more =>
    quotedPoints key.points ++ ": ".toList ++ showInner value ++ ", ".toList ++ showFields more

end

/-- A value in a message.  A text stands there without quotes. -/
def shown : Json → WireText
  | .str t => t
  | other => .chars (String.ofList (showInner other))

end HostMonitor.Json
