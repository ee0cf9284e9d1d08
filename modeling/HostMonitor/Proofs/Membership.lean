import HostMonitor.Proofs.Environment
import HostMonitor.Proofs.Forwarding

/-!
# Which addresses a configured network matches

A network is written as an address and the number of its first bits that count, and
another address is one of the network when these bits are the same in both.  Here
this is said of the texts, and bit by bit.  Short addresses are compared in their
long form, so that the two ways to write one make no difference.

The gate reads a short peer in long form as the short address it is.  A network that
is written in long form is not read that way, so it has no short address at all, not
even those it contains.  `authenticate_configured` says which peers a configured
network lets in, and which ones it makes trusted proxies.
-/

namespace HostMonitor.Net

open Number Text

/-! ## Addresses of 128 bits -/

/-- The address in 128 bits.  A short address has eighty zeros and sixteen ones
before it. -/
def Address.wide : Address → BitVec 128
  | .v4 bits => 0xFFFF#96 ++ bits
  | .v6 bits _ => bits

/-- The address is a short one, in either form. -/
def Address.IsShort (a : Address) : Prop := ∃ bits, a.wide = (Address.v4 bits).wide

/-- The address is written with 128 bits. -/
def Address.IsLong (a : Address) : Prop := ∃ bits scope, a = .v6 bits scope

theorem toNat_wide_v4 (bits : BitVec 32) :
    (Address.v4 bits).wide.toNat = 0xFFFF * 0x100000000 + bits.toNat := by
  show ((0xFFFF#96 ++ bits : BitVec 128)).toNat = _
  rw [BitVec.toNat_append, ← Nat.shiftLeft_add_eq_or_of_lt bits.isLt, Nat.shiftLeft_eq]
  rfl

/-- A short address is found in either of its forms. -/
theorem unmapped_eq_v4_iff {a : Address} {bits : BitVec 32} :
    a.unmapped = .v4 bits ↔ a.wide = (Address.v4 bits).wide := by
  rw [← BitVec.toNat_inj, toNat_wide_v4]
  have small := bits.isLt
  cases a with
  | v4 bits' =>
      show Address.v4 bits' = .v4 bits ↔ _
      rw [toNat_wide_v4, Address.v4.injEq, ← BitVec.toNat_inj]
      omega
  | v6 wide scope =>
      rw [Address.unmapped, Address.wide]
      split
      · next mapped =>
          rw [Address.v4.injEq, ← BitVec.toNat_inj, BitVec.toNat_ofNat]
          omega
      · next other =>
          simp only [reduceCtorEq, false_iff]
          omega

/-- Both forms of an address have the same bits. -/
theorem wide_unmapped (a : Address) : a.unmapped.wide = a.wide := by
  cases e : a.unmapped with
  | v4 bits => exact (unmapped_eq_v4_iff.mp e).symm
  | v6 bits scope =>
      cases a with
      | v4 bits' => cases e
      | v6 bits' scope' =>
          rw [Address.unmapped] at e
          split at e
          · cases e
          · cases e
            rfl

theorem isShort_iff {a : Address} : a.IsShort ↔ ∃ bits, a.unmapped = .v4 bits := by
  simp only [Address.IsShort, unmapped_eq_v4_iff]

theorem not_isShort_of_unmapped {a : Address} {bits : BitVec 128} {scope : Option String}
    (long : a.unmapped = .v6 bits scope) : ¬ a.IsShort := by
  intro short
  obtain ⟨_, found⟩ := isShort_iff.mp short
  rw [long] at found
  cases found

/-! ## First bits -/

theorem getMsbD_firstBits {w length : Nat} (bits : BitVec w) (short : length ≤ w) (i : Nat) :
    (firstBits bits length).getMsbD i = (decide (i < length) && bits.getMsbD i) := by
  rw [firstBits, BitVec.getMsbD_shiftLeft, BitVec.getMsbD_ushiftRight]
  by_cases inside : i < length
  · simp [inside, show i + (w - length) < w by omega]
  · simp [inside, show ¬ i + (w - length) < w by omega]

theorem firstBits_eq_firstBits_iff {w length : Nat} {bits bits' : BitVec w} (short : length ≤ w) :
    firstBits bits length = firstBits bits' length ↔
      ∀ i < length, bits.getMsbD i = bits'.getMsbD i := by
  constructor
  · intro same i inside
    have bit := congrArg (fun b => BitVec.getMsbD b i) same
    simpa [getMsbD_firstBits _ short, inside] using bit
  · intro agree
    apply BitVec.eq_of_getMsbD_eq
    intro i _
    rw [getMsbD_firstBits _ short, getMsbD_firstBits _ short]
    by_cases inside : i < length
    · rw [agree i inside]
    · simp [inside]

/-! ## Agreement -/

/-- How many bits the address is written with. -/
def Address.width : Address → Nat
  | .v4 _ => 32
  | .v6 .. => 128

/-- How many of the 128 bits count when `n` bits of the address do. -/
def Address.counted : Address → Nat → Nat
  | .v4 _, n => 96 + n
  | .v6 .., n => n

/-- The first `n` bits of the address, as it is written, are those of another. -/
def Address.Agrees (a : Address) (n : Nat) (b : Address) : Prop :=
  ∀ i < a.counted n, a.wide.getMsbD i = b.wide.getMsbD i

theorem agrees_v4_iff {bits bits' : BitVec 32} {n : Nat} :
    (Address.v4 bits).Agrees n (.v4 bits') ↔ ∀ i < n, bits.getMsbD i = bits'.getMsbD i := by
  simp only [Address.Agrees, Address.counted, Address.wide, BitVec.getMsbD_append]
  constructor
  · intro agree i inside
    simpa using agree (96 + i) (by omega)
  · intro agree i inside
    split
    · exact agree (i - 96) (by omega)
    · rfl

/-- An address that has its first bits from a short one is short itself. -/
theorem isShort_of_agrees {bits : BitVec 32} {n : Nat} {b : Address}
    (agree : (Address.v4 bits).Agrees n b) : b.IsShort := by
  refine ⟨b.wide.setWidth 32, ?_⟩
  apply BitVec.eq_of_getMsbD_eq
  intro i inside
  have front : i < 96 → b.wide.getMsbD i = (0xFFFF#96).getMsbD i := by
    intro early
    have bit := agree i (show i < 96 + n by omega)
    rw [Address.wide, BitVec.getMsbD_append, if_neg (by omega)] at bit
    exact bit.symm
  show b.wide.getMsbD i = (0xFFFF#96 ++ b.wide.setWidth 32 : BitVec 128).getMsbD i
  rw [BitVec.getMsbD_append]
  split
  · rw [BitVec.getMsbD_setWidth]
    simp [show i - 96 + 128 - 32 = i by omega]
  · exact front (by omega)

namespace Network

/-! ## Networks as texts -/

/-- The number of bits that the text after the slash gives, for an address before it. -/
def lengthFor? : Address → List Char → Option Nat
  | .v4 _, cs => v4Length? cs
  | .v6 .., cs => length? 128 cs

/-- The text writes a network as an address of which the first `n` bits count. -/
inductive Writes : List Char → Address → Nat → Prop
  /-- Without a number all bits count. -/
  | whole {cs : List Char} {a : Address} : address? cs = some a → Writes cs a a.width
  | counted {cs ds : List Char} {a : Address} {n : Nat} : address? cs = some a →
      lengthFor? a ds = some n → Writes (cs ++ '/' :: ds) a n

theorem length?_le {width n : Nat} {cs : List Char} (h : length? width cs = some n) :
    n ≤ width := by
  rw [length?] at h
  split at h
  · cases h
  · dsimp only at h
    split at h
    · next small =>
        cases h
        exact small
    · cases h

theorem maskLength?_le {mask : BitVec 32} {n : Nat} (h : maskLength? mask = some n) : n ≤ 32 := by
  have mem := List.mem_of_find?_eq_some h
  rw [List.mem_range] at mem
  omega

theorem v4Length?_le {cs : List Char} {n : Nat} (h : v4Length? cs = some n) : n ≤ 32 := by
  rw [v4Length?] at h
  split at h
  · next n' found =>
      cases h
      exact length?_le found
  · obtain ⟨mask, _, found⟩ := Option.bind_eq_some_iff.mp h
    rcases Option.or_eq_some_iff.mp found with first | ⟨_, second⟩
    · exact maskLength?_le first
    · exact maskLength?_le second

theorem Writes.le {cs : List Char} {a : Address} {n : Nat} (h : Writes cs a n) : n ≤ a.width := by
  cases h with
  | whole _ => exact Nat.le_refl _
  | counted _ given =>
      cases a with
      | v4 _ => exact v4Length?_le given
      | v6 _ _ => exact length?_le given

theorem around_width (a : Address) : around a a.width = single a := by
  have full : ∀ {w : Nat} (bits : BitVec w), firstBits bits w = bits := by
    intro w bits
    simp [firstBits]
  cases a with
  | v4 bits => simp [around, single, Address.width, full]
  | v6 bits scope => simp [around, single, Address.width, full]

theorem not_mem_of_address? {cs : List Char} {a : Address} (h : address? cs = some a) :
    '/' ∉ cs := by
  intro mem
  rw [address?, if_pos (by simpa using mem)] at h
  cases h

/-- A text writes a network in one way. -/
theorem Writes.unique {cs : List Char} {a a' : Address} {n n' : Nat} (h : Writes cs a n)
    (h' : Writes cs a' n') : a = a' ∧ n = n' := by
  cases h with
  | whole found =>
      cases h' with
      | whole found' =>
          cases found.symm.trans found'
          exact ⟨rfl, rfl⟩
      | counted _ _ => exact absurd (by simp) (not_mem_of_address? found)
  | @counted cs ds _ _ found given =>
      generalize split : cs ++ '/' :: ds = text at h'
      cases h' with
      | whole found' => exact absurd (by simp [← split]) (not_mem_of_address? found')
      | @counted cs' ds' _ _ found' given' =>
          have parts := congrArg (cut '/') split
          rw [cut_append ds (not_mem_of_address? found),
            cut_append ds' (not_mem_of_address? found')] at parts
          cases parts
          cases found.symm.trans found'
          cases given.symm.trans given'
          exact ⟨rfl, rfl⟩

/-- A text gives a network when it writes one. -/
theorem ofChars?_eq_some_iff {cs : List Char} {net : Network} :
    ofChars? cs = some net ↔ ∃ a n, Writes cs a n ∧ net = around a n := by
  constructor
  · intro h
    by_cases slash : '/' ∈ cs
    · obtain ⟨address, length, rfl, first⟩ := List.eq_append_cons_of_mem slash
      rw [ofChars?, cut_append length first] at h
      dsimp only at h
      split at h
      · cases h
      · next bits found =>
          obtain ⟨n, given, rfl⟩ := Option.map_eq_some_iff.mp h
          exact ⟨_, n, .counted found given, rfl⟩
      · next bits scope found =>
          obtain ⟨n, given, rfl⟩ := Option.map_eq_some_iff.mp h
          exact ⟨_, n, .counted found given, rfl⟩
    · rw [ofChars?, cut_of_not_mem slash] at h
      obtain ⟨a, found, rfl⟩ := Option.map_eq_some_iff.mp h
      exact ⟨a, _, .whole found, (around_width a).symm⟩
  · intro h
    obtain ⟨a, n, writes, rfl⟩ := h
    cases writes with
    | whole found =>
        rw [ofChars?, cut_of_not_mem (not_mem_of_address? found), around_width]
        simp [found]
    | counted found given =>
        rw [ofChars?, cut_append _ (not_mem_of_address? found)]
        cases a with
        | v4 bits =>
            rw [lengthFor?] at given
            simp [found, given]
        | v6 bits scope =>
            rw [lengthFor?] at given
            simp [found, given]

theorem read_eq_ok_iff {s : String} {net : Network} :
    Network.read s = .ok net ↔ ofChars? (trim s.toList) = some net := by
  rw [Network.read]
  split
  · next found => simp [found]
  · next found => simp [found]

/-! ## Addresses of networks -/

/-- A network has the addresses that agree with it, unless it is long and they are
short. -/
theorem contains_around_iff {a b : Address} {n : Nat} (le : n ≤ a.width) :
    (around a n).contains b.unmapped = true ↔ a.Agrees n b ∧ ¬ (a.IsLong ∧ b.IsShort) := by
  have wide := wide_unmapped b
  cases a with
  | v4 net =>
      have le : n ≤ 32 := le
      have notLong : ¬ (Address.v4 net).IsLong := by
        intro long
        obtain ⟨_, _, e⟩ := long
        cases e
      cases e : b.unmapped with
      | v4 bits =>
          rw [e] at wide
          have agree : (Address.v4 net).Agrees n b ↔ (Address.v4 net).Agrees n (.v4 bits) := by
            rw [Address.Agrees, Address.Agrees, wide]
          rw [agree, agrees_v4_iff, ← firstBits_eq_firstBits_iff le, around, contains]
          simp only [notLong, false_and, not_false_eq_true, and_true, beq_iff_eq]
          exact eq_comm
      | v6 bits scope =>
          simp only [around, contains, Bool.false_eq_true, false_iff]
          intro h
          exact not_isShort_of_unmapped e (isShort_of_agrees h.1)
  | v6 net scope =>
      have le : n ≤ 128 := le
      have isLong : (Address.v6 net scope).IsLong := ⟨net, scope, rfl⟩
      cases e : b.unmapped with
      | v4 bits =>
          have short : b.IsShort := isShort_iff.mpr ⟨bits, e⟩
          simp [around, contains, isLong, short]
      | v6 bits scope' =>
          rw [e] at wide
          have notShort := not_isShort_of_unmapped e
          have agree : (Address.v6 net scope).Agrees n b ↔
              ∀ i < n, net.getMsbD i = bits.getMsbD i := by
            rw [Address.Agrees, ← wide]
            exact Iff.rfl
          rw [agree, ← firstBits_eq_firstBits_iff le, around, contains]
          simp only [notShort, and_false, not_false_eq_true, and_true, beq_iff_eq]
          exact eq_comm

end Network

end HostMonitor.Net

namespace HostMonitor.Access

open Net Settings Text

/-! ## Peers -/

section

variable {peer : String} {a b : Address} {n : Nat} {s : Settings}

theorem peerOf?_of_named (named : address? (trim peer.toList) = some b) :
    peerOf? (some peer) = some b.unmapped := by
  rw [peerOf?, Option.bind_some, peerAddress?, named]
  rfl

theorem clientAddress?_of_trusted {address : Address} (known : peerOf? (some peer) = some address)
    (trusted : trusts s address = true) (forwarded : Option String) :
    clientAddress? s (some peer) forwarded = firstForwarded? forwarded := by
  rw [clientAddress?, known]
  exact if_pos trusted

theorem clientAddress?_of_other {address : Address} (known : peerOf? (some peer) = some address)
    (other : trusts s address = false) (forwarded : Option String) :
    clientAddress? s (some peer) forwarded = some address := by
  rw [clientAddress?, known]
  exact if_neg (Bool.eq_false_iff.mp other)

/-- Without proxies the allowed network decides about a peer that presents the token. -/
theorem outcome_authenticate_direct {address : Address} {net : Network} {headers : Headers}
    (known : peerOf? (some peer) = some address) (allowed : s.allowed = some net)
    (direct : s.proxies = []) (presented : Presents headers s.token) (context : String) :
    (authenticate s (some peer) headers context).outcome = .ok (.ok (some address)) ↔
      net.contains address = true := by
  have origin : ComesFrom s (some peer) headers (some address) :=
    comesFrom_iff.mpr (clientAddress?_of_other known (by simp [trusts, direct]) _)
  rw [outcome_authenticate, Except.ok.injEq, decide_eq_ok_iff, and_iff_right origin,
    and_iff_left presented]
  simp [Allows, allowed]

end

/-- What a network that is read from a text does for a peer.  As the one network that
requests may come from it lets the peer in when the first bits agree, except for a
network in long form and a short address.  In the same cases it makes the peer a
trusted proxy, and in all others the peer stays the client. -/
theorem authenticate_configured {text peer : String} {net : Network} {b : Address}
    (read : Network.read text = .ok net) (named : address? (trim peer.toList) = some b) :
    ∃ a n, Network.Writes (trim text.toList) a n ∧
      (∀ env s, ofEnvironment env = .ok s →
        (env.lookup "MCP_ALLOWED_CIDR" = some text → s.allowed = some net) ∧
        ∀ list, env.lookup "MCP_TRUSTED_PROXIES" = some list →
          text.toList ∈ cells ',' list.toList → net ∈ s.proxies) ∧
      (∀ s headers context, s.allowed = some net → s.proxies = [] → Presents headers s.token →
        ((authenticate s (some peer) headers context).outcome = .ok (.ok (some b.unmapped)) ↔
          a.Agrees n b ∧ ¬ (a.IsLong ∧ b.IsShort))) ∧
      (∀ s, net ∈ s.proxies → a.Agrees n b → ¬ (a.IsLong ∧ b.IsShort) → ∀ forwarded,
        clientAddress? s (some peer) forwarded = firstForwarded? forwarded) ∧
      (∀ s, s.proxies = [net] → ¬ (a.Agrees n b ∧ ¬ (a.IsLong ∧ b.IsShort)) → ∀ forwarded,
        clientAddress? s (some peer) forwarded = some b.unmapped) := by
  obtain ⟨a, n, writes, rfl⟩ := Network.ofChars?_eq_some_iff.mp (Network.read_eq_ok_iff.mp read)
  have known := peerOf?_of_named named
  have matched := Network.contains_around_iff writes.le (b := b)
  refine ⟨a, n, writes, ?_, ?_, ?_, ?_⟩
  · intro env s configured
    constructor
    · intro given
      exact allowed_of_environment configured given read
    · intro list given listed
      exact mem_proxies_of_environment configured given listed read
  · intro s headers context allowed direct presented
    rw [outcome_authenticate_direct known allowed direct presented, matched]
  · intro s listed agree apart forwarded
    exact clientAddress?_of_trusted known
      (trusts_iff.mpr ⟨_, listed, matched.mpr ⟨agree, apart⟩⟩) forwarded
  · intro s only unmatched forwarded
    refine clientAddress?_of_other known ?_ forwarded
    rw [trusts_eq_false_iff, only]
    intro net' mem
    rw [List.mem_singleton.mp mem, Bool.eq_false_iff]
    exact fun inside => unmatched (matched.mp inside)

/-! ## A short address and a network of either form -/

/-- The token is presented. -/
theorem presents_plainHeaders : Presents plainHeaders "token" :=
  carriesToken_eq_ok_iff.mp (by decide +kernel)

/-- A peer in long form is one of a network of short addresses. -/
theorem authenticate_configured_mapped_peer :
    Network.read "10.1.2.3/8" = .ok (.v4 0x0A000000#32 8) ∧
      address? (trim " ::ffff:10.0.0.5".toList) = some (.v6 0xFFFF0A000005#128 none) ∧
      (authenticate { guarded with proxies := [] } (some " ::ffff:10.0.0.5") plainHeaders
          "").outcome = .ok (.ok (some (.v4 0x0A000005#32))) ∧
      clientAddress? { guarded with proxies := [.v4 0x0A000000#32 8] }
          (some " ::ffff:10.0.0.5") (some "203.0.113.9") = some (.v4 0xCB007109#32) := by
  have read : Network.read "10.1.2.3/8" = .ok (.v4 0x0A000000#32 8) := by decide +kernel
  have named : address? (trim " ::ffff:10.0.0.5".toList) =
      some (.v6 0xFFFF0A000005#128 none) := by
    decide +kernel
  have written : Network.Writes (trim "10.1.2.3/8".toList) (.v4 0x0A010203#32) 8 :=
    @Network.Writes.counted "10.1.2.3".toList "8".toList _ _ (by decide +kernel) (by decide +kernel)
  have agree : (Address.v4 0x0A010203#32).Agrees 8 (.v6 0xFFFF0A000005#128 none) := by
    rw [Address.Agrees]
    decide +kernel
  have apart : ¬ ((Address.v4 0x0A010203#32).IsLong ∧
      (Address.v6 0xFFFF0A000005#128 none).IsShort) := by
    intro h
    obtain ⟨_, _, e⟩ := h.1
    cases e
  obtain ⟨a, n, writes, _, gate, trusted, _⟩ := authenticate_configured read named
  obtain ⟨rfl, rfl⟩ := writes.unique written
  refine ⟨read, named, ?_, ?_⟩
  · exact (gate _ _ "" rfl rfl presents_plainHeaders).mpr ⟨agree, apart⟩
  · rw [trusted _ (List.mem_singleton.mpr rfl) agree apart]
    decide +kernel

/-- An environment with a network of short addresses in long form. -/
def longForm (source : String) : Environment :=
  [("MCP_API_TOKEN", "0123456789abcdef"), (source, "::ffff:10.0.0.0/104")]

/-- The network that its text gives. -/
def longNetwork : Network := .v6 0xFFFF0A000000#128 none 104

/-- The standard settings with a network that requests may come from and with proxies. -/
def longSettings (allowed : Option Network) (proxies : List Network) : Settings :=
  ⟨"0123456789abcdef", "127.0.0.1", 8080, allowed, proxies, .ofInt 10, 10000, "INFO"⟩

/-- A network of short addresses in long form has none of them. -/
theorem longForm_misses :
    ofEnvironment (longForm "MCP_ALLOWED_CIDR") = .ok (longSettings (some longNetwork) []) ∧
      ofEnvironment (longForm "MCP_TRUSTED_PROXIES") = .ok (longSettings none [longNetwork]) ∧
      Network.Writes "::ffff:10.0.0.0/104".toList (.v6 0xFFFF0A000000#128 none) 104 ∧
      address? "::ffff:10.0.0.5".toList = some (.v6 0xFFFF0A000005#128 none) ∧
      (Address.v6 0xFFFF0A000000#128 none).Agrees 104 (.v6 0xFFFF0A000005#128 none) ∧
      (authenticate (longSettings (some longNetwork) []) (some "::ffff:10.0.0.5")
          [("Authorization", "Bearer 0123456789abcdef")] "").outcome =
        .ok (.error .foreignAddress) ∧
      clientAddress? (longSettings none [longNetwork]) (some "::ffff:10.0.0.5")
          (some "203.0.113.9") = some (.v4 0x0A000005#32) := by
  have refused : decide (longSettings (some longNetwork) []) (some "::ffff:10.0.0.5")
      [("Authorization", "Bearer 0123456789abcdef")] = .error .foreignAddress := by
    decide +kernel
  refine ⟨by decide +kernel, by decide +kernel, ?_, by decide +kernel, ?_, ?_, by decide +kernel⟩
  · exact @Network.Writes.counted "::ffff:10.0.0.0".toList "104".toList _ _ (by decide +kernel)
      (by decide +kernel)
  · rw [Address.Agrees]
    decide +kernel
  · rw [outcome_authenticate, refused]

end HostMonitor.Access
