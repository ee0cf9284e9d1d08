import HostMonitor.Proofs.Admission

/-!
# What forwarded addresses can influence

Two requests are compared that have the same headers but for those that name
forwarded addresses.  Each of the two may have any number of these, with any text.

The gate does the same with both, unless a trusted proxy sends them and names
different clients first.  Then only where a request comes from is different, so
with no limit on that neither the peer nor the forwarded addresses decide who is
let in.
-/

namespace HostMonitor.Access

open Net Settings Text

/-! ## Headers of one name -/

/-- The headers are the same and in the same order, but for those of the name. -/
def Headers.AgreeBut (name : String) (hs hs' : Headers) : Prop :=
  (hs.filter fun h => lower h.1 != name) = hs'.filter fun h => lower h.1 != name

/-- Without the headers of one name, those of another have the values they had. -/
theorem Headers.last?_filter {name other : String} (apart : other ≠ name) (hs : Headers) :
    Headers.last? (hs.filter fun h => lower h.1 != name) other = hs.last? other := by
  rw [last?, last?, ← List.filter_reverse]
  induction hs.reverse with
  | nil => rfl
  | cons h hs ih =>
      by_cases same : lower h.1 = name
      · rw [List.filter_cons_of_neg (by simp [same]), ih, List.findSome?_cons, same]
        simp [apart.symm]
      · rw [List.filter_cons_of_pos (by simp [same]), List.findSome?_cons, List.findSome?_cons, ih]

theorem Headers.last?_of_agreeBut {name other : String} {hs hs' : Headers}
    (agree : hs.AgreeBut name hs') (apart : other ≠ name) : hs.last? other = hs'.last? other := by
  rw [← last?_filter apart hs, agree, last?_filter apart]

/-! ## The client that is named first -/

/-- The first of the forwarded addresses is this one. -/
def Names (headers : Headers) (address : Address) : Prop :=
  ∃ value entry, headers.Carries "x-forwarded-for" value ∧ Leftmost value entry ∧
    peerAddress? (String.ofList entry) = some address

theorem firstForwarded?_eq_some_iff {headers : Headers} {address : Address} :
    firstForwarded? (headers.last? "x-forwarded-for") = some address ↔ Names headers address := by
  rw [firstForwarded?, Option.bind_eq_some_iff]
  constructor
  · rintro ⟨value, found, named⟩
    exact ⟨value, _, Headers.last?_eq_some_iff.mp found, leftmost_iff.mpr rfl, named⟩
  · rintro ⟨value, entry, carried, first, named⟩
    exact ⟨value, Headers.last?_eq_some_iff.mpr carried, leftmost_iff.mp first ▸ named⟩

/-! ## Two requests -/

section

variable {s : Settings} {peer : Option String} {hs hs' : Headers}

/-- Only the first of the forwarded addresses counts. -/
theorem clientAddress?_of_names (same : ∀ address, Names hs address ↔ Names hs' address) :
    clientAddress? s peer (hs.last? "x-forwarded-for") =
      clientAddress? s peer (hs'.last? "x-forwarded-for") := by
  have named : firstForwarded? (hs.last? "x-forwarded-for") =
      firstForwarded? (hs'.last? "x-forwarded-for") := by
    apply Option.ext
    intro address
    rw [firstForwarded?_eq_some_iff, firstForwarded?_eq_some_iff, same]
  rw [clientAddress?, clientAddress?, named]

/-- A peer that is no trusted proxy has no say in where its request comes from. -/
theorem clientAddress?_of_untrusted
    (outside : ∀ address, peerOf? peer = some address →
      ∀ net ∈ s.proxies, net.contains address = false) (forwarded forwarded' : Option String) :
    clientAddress? s peer forwarded = clientAddress? s peer forwarded' := by
  rw [clientAddress?, clientAddress?]
  cases known : peerOf? peer with
  | none => rfl
  | some address =>
      dsimp only
      rw [trusts_eq_false_iff.mpr (outside address known)]
      rfl

/-- The gate reads two things: where a request comes from, and the header with the token. -/
theorem authenticate_congr {peer' : Option String}
    (place : clientAddress? s peer (hs.last? "x-forwarded-for") =
      clientAddress? s peer' (hs'.last? "x-forwarded-for"))
    (token : hs.last? "authorization" = hs'.last? "authorization") (context : String) :
    authenticate s peer hs context = authenticate s peer' hs' context := by
  rw [authenticate, authenticate, decide, decide, place, token]

/-- Whether a request is let in, and why not, without the address it comes from. -/
def decision (r : Run (Except Denial (Option Address))) : Except Fault (Except Denial Unit) :=
  r.outcome.map fun verdict => verdict.map fun _ => ()

/-- With no limit on addresses the token alone decides. -/
theorem decision_of_unlimited (unlimited : s.allowed = none) (context : String) :
    decision (authenticate s peer hs context) =
      .ok (carriesToken s.token (hs.last? "authorization")) := by
  rw [authenticate, decide, unlimited]
  cases carriesToken s.token (hs.last? "authorization") with
  | ok _ => rfl
  | error d => rfl

end

/-- Forwarded addresses make no difference when the peer is no trusted proxy, and when
the first of them is the same.  They never decide who is let in, and neither does the
peer, when requests may come from anywhere. -/
theorem authenticate_indifferent {s : Settings} {peer : Option String} {hs hs' : Headers}
    (agree : hs.AgreeBut "x-forwarded-for" hs') (context : String) :
    ((∀ address, peerOf? peer = some address →
        ∀ net ∈ s.proxies, net.contains address = false) →
      authenticate s peer hs context = authenticate s peer hs' context) ∧
    ((∀ address, Names hs address ↔ Names hs' address) →
      authenticate s peer hs context = authenticate s peer hs' context) ∧
    (s.allowed = none → ∀ peer' : Option String,
      decision (authenticate s peer hs context) = decision (authenticate s peer' hs' context)) := by
  have token : hs.last? "authorization" = hs'.last? "authorization" :=
    Headers.last?_of_agreeBut agree (by decide)
  refine ⟨fun outside => ?_, fun same => ?_, fun unlimited peer' => ?_⟩
  · exact authenticate_congr (clientAddress?_of_untrusted outside _ _) token context
  · exact authenticate_congr (clientAddress?_of_names same) token context
  · rw [decision_of_unlimited unlimited, decision_of_unlimited unlimited, token]

/-! ## Three pairs of requests -/

/-- Requests may come from one network, and another is one of proxies. -/
def guarded : Settings :=
  ⟨"token", "127.0.0.1", 8080, some (.v4 0x0A000000#32 8), [.v4 0xC0A80100#32 24], .ofInt 10,
    10000, "INFO"⟩

/-- The token and nothing else. -/
def plainHeaders : Headers := [("Authorization", "Bearer token")]

/-- The token and a client. -/
def oneClient : Headers := [("Authorization", "Bearer token"), ("X-Forwarded-For", "10.0.0.7")]

/-- The token and the same client before another one. -/
def twoClients : Headers :=
  [("x-forwarded-for", "8.8.8.8"), ("x-forwarded-for", " 10.0.0.7 , 8.8.8.8"),
    ("Authorization", "Bearer token")]

/-- An outsider names a client in vain, a proxy names one in two ways, and with no
limit on addresses the proxy and an unknown peer are treated alike. -/
theorem authenticate_indifferent_outsider :
    oneClient.AgreeBut "x-forwarded-for" plainHeaders ∧
      oneClient.AgreeBut "x-forwarded-for" twoClients ∧
      authenticate guarded (some "203.0.113.9") oneClient "" =
        authenticate guarded (some "203.0.113.9") plainHeaders "" ∧
      authenticate guarded (some "192.168.1.5") oneClient "" =
        authenticate guarded (some "192.168.1.5") twoClients "" ∧
      decision (authenticate { guarded with allowed := none } (some "192.168.1.5") oneClient "") =
        decision (authenticate { guarded with allowed := none } none plainHeaders "") := by
  have plain : oneClient.AgreeBut "x-forwarded-for" plainHeaders := by
    rw [Headers.AgreeBut]
    decide +kernel
  have two : oneClient.AgreeBut "x-forwarded-for" twoClients := by
    rw [Headers.AgreeBut]
    decide +kernel
  refine ⟨plain, two, (authenticate_indifferent plain "").1 ?_,
    (authenticate_indifferent two "").2.1 ?_, (authenticate_indifferent plain "").2.2 rfl none⟩
  · intro address known
    have outsider : peerOf? (some "203.0.113.9") = some (.v4 0xCB007109#32) := by decide +kernel
    cases known.symm.trans outsider
    decide +kernel
  · intro address
    have same : firstForwarded? (oneClient.last? "x-forwarded-for") =
        firstForwarded? (twoClients.last? "x-forwarded-for") := by
      decide +kernel
    rw [← firstForwarded?_eq_some_iff, ← firstForwarded?_eq_some_iff, same]

end HostMonitor.Access
