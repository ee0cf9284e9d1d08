/-!
# Reading UTF-8

A sequence starts with a first byte that says how many bytes follow.  The
second byte is held to narrower bounds after some first bytes, so that no
character has two spellings, no surrogate is spelled and no code lies past the
last one.  `Pending` is a sequence that has begun and not ended.

`units` reads bytes as characters and faults.  A fault stands for one maximal
invalid part: as many bytes as could still have begun a character.  The strict
reading `decode?` refuses any fault, the lenient one `decodeLossy` writes the
replacement character for each.
-/

namespace HostMonitor.Text.Utf8

/-- A sequence that has begun and still misses bytes. -/
structure Pending where
  /-- How many bytes are missing, at least one. -/
  missing : Nat
  bits : Nat
  /-- The lowest next byte. -/
  low : Nat
  /-- The highest next byte. -/
  high : Nat
  deriving DecidableEq, Repr

/-- What the first byte of a sequence leads to. -/
inductive Start where
  | char (c : Char)
  | pending (p : Pending)
  | fault
  deriving DecidableEq, Repr

def start (b : Nat) : Start :=
  if b < 0x80 then .char (Char.ofNat b)
  else if b < 0xC2 then .fault
  else if b < 0xE0 then .pending ⟨1, b - 0xC0, 0x80, 0xBF⟩
  else if b = 0xE0 then .pending ⟨2, 0, 0xA0, 0xBF⟩
  else if b = 0xED then .pending ⟨2, b - 0xE0, 0x80, 0x9F⟩
  else if b < 0xF0 then .pending ⟨2, b - 0xE0, 0x80, 0xBF⟩
  else if b = 0xF0 then .pending ⟨3, 0, 0x90, 0xBF⟩
  else if b < 0xF4 then .pending ⟨3, b - 0xF0, 0x80, 0xBF⟩
  else if b = 0xF4 then .pending ⟨3, 4, 0x80, 0x8F⟩
  else .fault

/-- The byte may come next in the sequence. -/
def Pending.takes (p : Pending) (b : Nat) : Bool := decide (p.low ≤ b) && decide (b ≤ p.high)

/-- The sequence after one more byte: the character when that was the last. -/
def Pending.push (p : Pending) (b : Nat) : Char ⊕ Pending :=
  let bits := p.bits * 64 + b % 64
  if p.missing ≤ 1 then .inl (Char.ofNat bits) else .inr ⟨p.missing - 1, bits, 0x80, 0xBF⟩

/-- Adds what a first byte gives to what has been read, newest first. -/
def begin (read : List (Option Char)) (b : Nat) : List (Option Char) × Option Pending :=
  match start b with
  | .char c => (some c :: read, none)
  | .pending p => (read, some p)
  | .fault => (none :: read, none)

/-- Reads the bytes on, where `read` is what has been read so far, backwards,
and `open?` the sequence that has begun. -/
def unitsFrom (read : List (Option Char)) (open? : Option Pending) :
    List UInt8 → List (Option Char)
  | [] => (if open?.isSome then none :: read else read).reverse
  | b :: rest =>
    match open? with
    | none =>
      let (read', open') := begin read b.toNat
      unitsFrom read' open' rest
    | some p =>
      if p.takes b.toNat then
        match p.push b.toNat with
        | .inl c => unitsFrom (some c :: read) none rest
        | .inr p' => unitsFrom read (some p') rest
      else
        let (read', open') := begin (none :: read) b.toNat
        unitsFrom read' open' rest

/-- The characters and faults that the bytes spell, in order. -/
def units (bytes : List UInt8) : List (Option Char) := unitsFrom [] none bytes

/-- The character that stands for a fault. -/
def replacement : Char := Char.ofNat 0xFFFD

/-- The text the bytes spell, if there is no fault. -/
def decode? (bytes : List UInt8) : Option (List Char) := (units bytes).mapM id

/-- The text the bytes spell, with a replacement character for every fault. -/
def decodeLossy (bytes : List UInt8) : List Char :=
  (units bytes).map (·.getD replacement)

def encode (cs : List Char) : List UInt8 := cs.flatMap String.utf8EncodeChar

end HostMonitor.Text.Utf8
