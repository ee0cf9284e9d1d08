import HostMonitor.Net.Address
import HostMonitor.Text.Quoted

/-!
# Networks

A network is the set of addresses that agree with it in their first bits.  It
is written as an address and the number of those bits.  For short addresses the
number may also be given as a mask, the bits that count, or as its complement.
Without a number all bits count.

The bits that do not count are cleared when a network is read, so a network has
one representation.  An interface named with the address survives only if no
bit had to be cleared.
-/

namespace HostMonitor.Net

open Number Text

/-- A network. -/
inductive Network where
  | v4 (bits : BitVec 32) (length : Nat)
  /-- A network of long addresses, with the interface its text names. -/
  | v6 (bits : BitVec 128) (scope : Option String) (length : Nat)
  deriving DecidableEq, Repr

/-- The bits with all but the first `length` cleared. -/
def firstBits {w : Nat} (bits : BitVec w) (length : Nat) : BitVec w :=
  (bits >>> (w - length)) <<< (w - length)

namespace Network

/-- The network of the given kind around an address. -/
def around (a : Address) (length : Nat) : Network :=
  match a with
  | .v4 bits => .v4 (firstBits bits length) length
  | .v6 bits scope =>
    let kept := firstBits bits length
    .v6 kept (if kept = bits then scope else none) length

def single : Address → Network
  | .v4 bits => .v4 bits 32
  | .v6 bits scope => .v6 bits scope 128

def contains : Network → Address → Bool
  | .v4 net length, .v4 bits => firstBits bits length == net
  | .v6 net _ length, .v6 bits _ => firstBits bits length == net
  | _, _ => false

/-! ## Reading -/

/-- A number of bits in ASCII digits, at most `width`. -/
def length? (width : Nat) (cs : List Char) : Option Nat :=
  if cs.isEmpty || cs.length > digitLimit || !cs.all Char.isDigit then none
  else
    let n := natOfDigits cs
    if n ≤ width then some n else none

/-- The number of leading ones of a mask that has only zeros after them. -/
def maskLength? (mask : BitVec 32) : Option Nat :=
  (List.range 33).find? fun length => firstBits (BitVec.allOnes 32) length == mask

/-- What stands after the slash of a network of short addresses. -/
def v4Length? (cs : List Char) : Option Nat :=
  match length? 32 cs with
  | some n => some n
  | none =>
    (v4Bits? cs).bind fun mask => (maskLength? mask).or (maskLength? (~~~mask))

/-- The network a text without blanks around it gives. -/
def ofChars? (cs : List Char) : Option Network :=
  match cut '/' cs with
  | (address, none) => (address? address).map single
  | (address, some length) =>
    match address? address with
    | none => none
    | some (.v4 bits) => (v4Length? length).map (around (.v4 bits))
    | some (.v6 bits scope) => (length? 128 length).map (around (.v6 bits scope))

structure Unreadable where
  text : String
  deriving DecidableEq, Repr

/-- What the refusal of a text says. -/
def Unreadable.message (u : Unreadable) : String :=
  quoted u.text ++ " does not appear to be an IPv4 or IPv6 network"

/-- The network a text gives, with blanks around it. -/
def read (s : String) : Except Unreadable Network :=
  let body := trim s.toList
  match ofChars? body with
  | some net => .ok net
  | none => .error ⟨String.ofList body⟩

/-- The network of the one address with the given number, short if it can be. -/
def ofInt? (n : Int) : Option Network :=
  if n < 0 then none
  else if n < Nat.pow 2 32 then some (single (.v4 (BitVec.ofInt 32 n)))
  else if n < Nat.pow 2 128 then some (single (.v6 (BitVec.ofInt 128 n) none))
  else none

/-! ## Writing -/

def text : Network → String
  | .v4 bits length => (Address.v4 bits).text ++ "/" ++ decimalText length
  | .v6 bits scope length => (Address.v6 bits scope).text ++ "/" ++ decimalText length

end Network

end HostMonitor.Net
