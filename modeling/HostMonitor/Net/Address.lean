import HostMonitor.Number.Reader
import HostMonitor.Text.Code
import HostMonitor.Text.Split

/-!
# Internet addresses

An address has 32 bits, written as four decimal numbers with points between
them, or 128 bits, written as eight groups of hexadecimal digits with colons.
A long address may leave out one run of zero groups, may end in a short
address, and may name the interface it is reached through after a percent sign.

An address has many spellings and one printed form: no leading zeros, small
letters, and the first of the longest runs of zero groups left out if it is
longer than one.
-/

namespace HostMonitor.Net

open Number Text

inductive Address where
  | v4 (bits : BitVec 32)
  /-- A long address, with the interface it names. -/
  | v6 (bits : BitVec 128) (scope : Option String)
  deriving DecidableEq, Repr

/-! ## Reading -/

/-- A decimal number up to 255 without leading zeros. -/
def octet? (cs : List Char) : Option Nat :=
  if cs.isEmpty || cs.length > 3 || !cs.all Char.isDigit then none
  else if cs.head? = some '0' && cs.length > 1 then none
  else
    let n := natOfDigits cs
    if n ≤ 255 then some n else none

/-- The bits of a short address. -/
def v4Bits? (cs : List Char) : Option (BitVec 32) :=
  match (cells '.' cs).mapM octet? with
  | some [a, b, c, d] => some (BitVec.ofNat 32 (((a * 256 + b) * 256 + c) * 256 + d))
  | _ => none

/-- The value of a group: one to four hexadecimal digits. -/
def group? (cs : List Char) : Option Nat :=
  if cs.isEmpty || cs.length > 4 then none
  else (cs.mapM hexValue?).map fun ds => ds.foldl (fun n d => n * 16 + d) 0

/-- The parts between colons, with a short address at the end written as two
groups. -/
def groupParts? (parts : List (List Char)) : Option (List (List Char)) :=
  match parts.getLast? with
  | none => some parts
  | some last =>
    if last.contains '.' then
      (v4Bits? last).map fun bits =>
        parts.dropLast ++
          [hexDigits 4 (bits.toNat / 0x10000), hexDigits 4 (bits.toNat % 0x10000)]
    else some parts

/-- The positions of the empty parts that have a part on both sides. -/
def gaps (parts : List (List Char)) : List Nat :=
  (List.range parts.length).filter fun i =>
    decide (0 < i) && decide (i + 1 < parts.length) && (parts[i]?.getD []).isEmpty

/-- The groups on one side of the run that is left out.  An empty part at the
outer end is allowed only as the whole side. -/
def side? (outer : Option (List Char)) (parts : List (List Char)) : Option (List Nat) :=
  if outer = some [] then (if parts.length = 1 then some [] else none)
  else parts.mapM group?

/-- The eight groups that the parts between colons give. -/
def groups? (parts : List (List Char)) : Option (List Nat) :=
  if parts.length > 9 then none
  else
    match gaps parts with
    | [] => if parts.length = 8 then parts.mapM group? else none
    | [gap] => do
      let high ← side? parts.head? (parts.take gap)
      let low ← side? parts.getLast? (parts.drop (gap + 1))
      let given := high.length + low.length
      if given < 8 then some (high ++ List.replicate (8 - given) 0 ++ low) else none
    | _ => none

/-- The bits of a long address without an interface. -/
def v6Bits? (cs : List Char) : Option (BitVec 128) := do
  let parts := cells ':' cs
  if parts.length < 3 then none
  else
    let groups ← groupParts? parts >>= groups?
    some (BitVec.ofNat 128 (groups.foldl (fun n g => n * 0x10000 + g) 0))

/-- The long address a text gives. -/
def v6? (cs : List Char) : Option Address :=
  match cut '%' cs with
  | (address, none) => (v6Bits? address).map (.v6 · none)
  | (address, some scope) =>
    if scope.isEmpty || scope.contains '%' then none
    else (v6Bits? address).map (.v6 · (some (String.ofList scope)))

/-- The address a text gives. -/
def address? (cs : List Char) : Option Address :=
  if cs.contains '/' then none
  else
    match v4Bits? cs with
    | some bits => some (.v4 bits)
    | none => v6? cs

/-! ## Writing -/

def decimalText (n : Nat) : String := String.ofList (Nat.toDigits 10 n)

def v4Text (bits : BitVec 32) : String :=
  let n := bits.toNat
  ".".intercalate
    [decimalText (n / 0x1000000), decimalText (n / 0x10000 % 0x100),
     decimalText (n / 0x100 % 0x100), decimalText (n % 0x100)]

/-- The eight groups of a long address. -/
def groupsOf (bits : BitVec 128) : List Nat :=
  [7, 6, 5, 4, 3, 2, 1, 0].map fun i => bits.toNat / Nat.pow 0x10000 i % 0x10000

/-- The length of the run of zeros at the front. -/
def zeroRun (groups : List Nat) : Nat := (groups.takeWhile (· == 0)).length

/-- The start and the length of the first longest run of zeros, where `start` is
the place of the first group of the list. -/
def longestRun (start : Nat) : List Nat → Nat × Nat
  | [] => (start, 0)
  | g :: more =>
    let here := zeroRun (g :: more)
    let (place, length) := longestRun (start + 1) more
    if here ≥ length then (start, here) else (place, length)

/-- Groups with colons between them. -/
def groupsText (groups : List Nat) : String :=
  ":".intercalate (groups.map fun g => String.ofList (Nat.toDigits 16 g))

/-- The printed form of a long address without an interface. -/
def v6Text (bits : BitVec 128) : String :=
  let groups := groupsOf bits
  let (place, length) := longestRun 0 groups
  if length < 2 then groupsText groups
  else groupsText (groups.take place) ++ "::" ++ groupsText (groups.drop (place + length))

def Address.text : Address → String
  | .v4 bits => v4Text bits
  | .v6 bits none => v6Text bits
  | .v6 bits (some scope) => v6Text bits ++ "%" ++ scope

/-! ## Short addresses in long form -/

/-- The address itself, or the short address that a long one stands for: its
first eighty bits are zero and the next sixteen are one. -/
def Address.unmapped : Address → Address
  | .v6 bits scope =>
    if bits.toNat / 0x100000000 = 0xFFFF then
      .v4 (BitVec.ofNat 32 (bits.toNat % 0x100000000))
    else .v6 bits scope
  | a => a

/-- The address that a peer or a header names, with blanks around it.  A short
address in long form is the short address. -/
def peerAddress? (s : String) : Option Address :=
  (address? (trim s.toList)).map Address.unmapped

end HostMonitor.Net
