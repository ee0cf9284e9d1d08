import HostMonitor.Net.Network
import HostMonitor.Run.Basic
import HostMonitor.Settings.Basic
import HostMonitor.Text.Letters
import HostMonitor.Text.Split

/-!
# The access gate

A request is let in when it comes from the allowed network and carries the token.
It comes from its peer, unless the peer is a trusted proxy.  Then it comes from
the client that the proxy names first, and from nowhere when that is no address.

A request that is not let in is refused for the first of these reasons: its
address, a missing header, a header of another form, another token.  The refusal
is written to the log.
-/

namespace HostMonitor.Access

open Net Settings Text

/-- Headers, in the order in which they arrived. -/
abbrev Headers := List (String × String)

/-- The last value of a header, whatever the case of its name. -/
def Headers.last? (hs : Headers) (name : String) : Option String :=
  hs.reverse.findSome? fun h => if lower h.1 == name then some h.2 else none

/-- The address that a list of forwarded addresses begins with. -/
def firstForwarded? (value : Option String) : Option Address :=
  value.bind fun v => peerAddress? (String.ofList (cut ',' v.toList).1)

def peerOf? (peer : Option String) : Option Address := peer.bind peerAddress?

/-- The address is one of a trusted proxy. -/
def trusts (s : Settings) (peer : Address) : Bool := s.proxies.any (·.contains peer)

/-- The address that a request comes from. -/
def clientAddress? (s : Settings) (peer forwarded : Option String) : Option Address :=
  match peerOf? peer with
  | none => none
  | some address => if trusts s address then firstForwarded? forwarded else some address

/-- The token of a header: what stands after the word and one blank. -/
def bearer? (header : String) : Option String :=
  match cut ' ' header.toList with
  | (scheme, some rest) =>
    let token := trim rest
    if scheme = "Bearer".toList ∧ !token.isEmpty then some (String.ofList token) else none
  | (_, none) => none

inductive Denial where
  | unknownAddress
  | foreignAddress
  | missingHeader
  | otherScheme
  | otherToken
  deriving DecidableEq, Repr

namespace Denial

def status : Denial → Nat
  | .unknownAddress | .foreignAddress => 403
  | _ => 401

/-- The word for programs. -/
def code : Denial → String
  | .unknownAddress | .foreignAddress => "ip_restricted"
  | .missingHeader => "missing_token"
  | .otherScheme | .otherToken => "invalid_token"

/-- The sentence for people. -/
def message : Denial → String
  | .unknownAddress => "request source IP could not be determined"
  | .foreignAddress => "request source IP is not allowed"
  | .missingHeader => "missing authorization header"
  | .otherScheme => "invalid authorization scheme"
  | .otherToken => "invalid bearer token"

def document (d : Denial) : Json :=
  .record [("code", .ofString d.code), ("message", .ofString d.message), ("details", .obj [])]

end Denial

/-- The network that requests may come from holds the address. -/
def admits (allowed : Option Network) (client : Option Address) : Except Denial Unit :=
  match allowed, client with
  | none, _ => .ok ()
  | some _, none => .error .unknownAddress
  | some net, some address => if net.contains address then .ok () else .error .foreignAddress

/-- The presented token is the expected one. -/
def isToken (expected presented : String) : Bool := presented == expected

/-- The header carries the token. -/
def carriesToken (token : String) (header : Option String) : Except Denial Unit :=
  match header with
  | none => .error .missingHeader
  | some value =>
    match bearer? value with
    | none => .error .otherScheme
    | some presented => if isToken token presented then .ok () else .error .otherToken

/-- The address of a request that is let in. -/
def decide (s : Settings) (peer : Option String) (headers : Headers) :
    Except Denial (Option Address) := do
  let client := clientAddress? s peer (headers.last? "x-forwarded-for")
  admits s.allowed client
  carriesToken s.token (headers.last? "authorization")
  return client

/-- Decides about a request, and writes a refusal to the log. -/
def authenticate (s : Settings) (peer : Option String) (headers : Headers) (context : String) :
    Run (Except Denial (Option Address)) :=
  match decide s peer headers with
  | .ok client => return .ok client
  | .error d => do
    .note (.refused d.code context)
    return .error d

end HostMonitor.Access
