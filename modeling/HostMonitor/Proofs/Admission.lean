import HostMonitor.Access.Gate

/-!
# Who is let in

What the gate decides is said of the peer, of the headers as they arrived and of
the settings.  `Headers.Carries` says which value a header has, `ComesFrom` where
a request comes from, `Allows` that it may come from there, and `Presents` that
it carries the token.  A `Verdict` is drawn from these alone, and every request
has exactly one.

`authenticate_decides` says that the gate gives the verdict, and that it writes one
warning for a refusal and nothing else.
-/

namespace HostMonitor.Access

open Net Settings Text

/-! ## Headers -/

/-- The header has the value.  Of several headers of the name, in whatever case,
the last one counts. -/
def Headers.Carries (hs : Headers) (name value : String) : Prop :=
  ∃ before key after, hs = before ++ (key, value) :: after ∧ lower key = name ∧
    ∀ h ∈ after, lower h.1 ≠ name

/-- There is no header of the name. -/
def Headers.Lacks (hs : Headers) (name : String) : Prop := ∀ h ∈ hs, lower h.1 ≠ name

theorem Headers.last?_eq_some_iff {hs : Headers} {name value : String} :
    hs.last? name = some value ↔ hs.Carries name value := by
  rw [last?, List.findSome?_eq_some_iff]
  constructor
  · rintro ⟨after, ⟨key, found⟩, before, split, same, others⟩
    have order := congrArg List.reverse split
    rw [List.reverse_reverse, List.reverse_append, List.reverse_cons, List.append_assoc,
      List.singleton_append] at order
    obtain ⟨named, rfl⟩ : lower key = name ∧ found = value := by simpa using same
    refine ⟨before.reverse, key, after.reverse, order, named, fun h mem => ?_⟩
    simpa using others h (List.mem_reverse.mp mem)
  · rintro ⟨before, key, after, rfl, named, others⟩
    refine ⟨after.reverse, (key, value), before.reverse, by simp, by simp [named], ?_⟩
    intro h mem
    simpa using others h (List.mem_reverse.mp mem)

theorem Headers.last?_eq_none_iff {hs : Headers} {name : String} :
    hs.last? name = none ↔ hs.Lacks name := by
  rw [last?, List.findSome?_eq_none_iff]
  constructor
  · intro none h mem
    simpa using none h (List.mem_reverse.mpr mem)
  · intro lacks h mem
    simpa using lacks h (List.mem_reverse.mp mem)

/-! ## Where a request comes from -/

/-- The text stands before the first comma. -/
def Leftmost (value : String) (entry : List Char) : Prop :=
  ',' ∉ entry ∧ (value.toList = entry ∨ ∃ more, value.toList = entry ++ ',' :: more)

/-- The cut at the comma gives the text before the first one. -/
theorem leftmost_iff {value : String} {entry : List Char} :
    Leftmost value entry ↔ (cut ',' value.toList).1 = entry := by
  constructor
  · rintro ⟨first, e | ⟨more, e⟩⟩
    · rw [e, cut_of_not_mem first]
    · rw [e, cut_append more first]
  · rintro rfl
    by_cases comma : ',' ∈ value.toList
    · obtain ⟨before, after, e, first⟩ := List.eq_append_cons_of_mem comma
      rw [e, cut_append after first]
      exact ⟨first, .inr ⟨after, e⟩⟩
    · rw [cut_of_not_mem comma]
      exact ⟨comma, .inl rfl⟩

/-- Where a request comes from. -/
inductive ComesFrom (s : Settings) (peer : Option String) (headers : Headers) :
    Option Address → Prop where
  /-- From nowhere, when its peer has no address. -/
  | nowhere : peerOf? peer = none → ComesFrom s peer headers none
  /-- From its peer, which is no trusted proxy. -/
  | peer {address : Address} : peerOf? peer = some address →
      (∀ net ∈ s.proxies, net.contains address = false) → ComesFrom s peer headers (some address)
  /-- From the client that a trusted proxy names first, if that is an address. -/
  | named {proxy : Address} {net : Network} {value : String} {entry : List Char} :
      peerOf? peer = some proxy → net ∈ s.proxies → net.contains proxy = true →
      headers.Carries "x-forwarded-for" value → Leftmost value entry →
      ComesFrom s peer headers (peerAddress? (String.ofList entry))
  /-- From nowhere, when a trusted proxy names no client. -/
  | unnamed {proxy : Address} {net : Network} : peerOf? peer = some proxy → net ∈ s.proxies →
      net.contains proxy = true → headers.Lacks "x-forwarded-for" → ComesFrom s peer headers none

theorem trusts_eq_false_iff {s : Settings} {peer : Address} :
    trusts s peer = false ↔ ∀ net ∈ s.proxies, net.contains peer = false := by
  simp [trusts]

theorem trusts_iff {s : Settings} {peer : Address} :
    trusts s peer = true ↔ ∃ net ∈ s.proxies, net.contains peer = true := by
  simp [trusts]

/-- Every request comes from one place, known or not. -/
theorem comesFrom_iff {s : Settings} {peer : Option String} {headers : Headers}
    {client : Option Address} :
    ComesFrom s peer headers client ↔
      clientAddress? s peer (headers.last? "x-forwarded-for") = client := by
  constructor
  · intro h
    cases h with
    | nowhere unknown => rw [clientAddress?, unknown]
    | peer known outside =>
        rw [clientAddress?, known]
        exact if_neg (by simp [trusts_eq_false_iff.mpr outside])
    | named known mem inside carried first =>
        rw [clientAddress?, known]
        dsimp only
        rw [if_pos (trusts_iff.mpr ⟨_, mem, inside⟩), Headers.last?_eq_some_iff.mpr carried,
          firstForwarded?, Option.bind_some, leftmost_iff.mp first]
    | unnamed known mem inside lacks =>
        rw [clientAddress?, known]
        dsimp only
        rw [if_pos (trusts_iff.mpr ⟨_, mem, inside⟩), Headers.last?_eq_none_iff.mpr lacks,
          firstForwarded?, Option.bind_none]
  · rintro rfl
    cases known : peerOf? peer with
    | none =>
        rw [clientAddress?, known]
        exact .nowhere known
    | some address =>
        rw [clientAddress?, known]
        dsimp only
        split
        · next trusted =>
            obtain ⟨net, mem, inside⟩ := trusts_iff.mp trusted
            cases found : headers.last? "x-forwarded-for" with
            | none =>
                rw [firstForwarded?, Option.bind_none]
                exact .unnamed known mem inside (Headers.last?_eq_none_iff.mp found)
            | some value =>
                rw [firstForwarded?, Option.bind_some]
                exact .named known mem inside (Headers.last?_eq_some_iff.mp found)
                  (leftmost_iff.mpr rfl)
        · next other => exact .peer known (trusts_eq_false_iff.mp (Bool.eq_false_iff.mpr other))

/-! ## What is asked of a request -/

/-- A request may come from there: from anywhere, or from an address of the one
network. -/
def Allows (s : Settings) (client : Option Address) : Prop :=
  s.allowed = none ∨
    ∃ net address, s.allowed = some net ∧ client = some address ∧ net.contains address = true

/-- The headers present the token: after the word and one blank, with blanks
around it. -/
def Presents (headers : Headers) (token : String) : Prop :=
  ∃ value rest, headers.Carries "authorization" value ∧
    value.toList = "Bearer ".toList ++ rest ∧ trim rest ≠ [] ∧ String.ofList (trim rest) = token

/-- What becomes of a request: it comes from an address and is let in, or it is
refused with a status and a reason. -/
inductive Verdict (s : Settings) (peer : Option String) (headers : Headers) :
    Except (Nat × String) (Option Address) → Prop where
  | admitted {client : Option Address} : ComesFrom s peer headers client → Allows s client →
      Presents headers s.token → Verdict s peer headers (.ok client)
  /-- The address is looked at first. -/
  | foreign {client : Option Address} : ComesFrom s peer headers client → ¬ Allows s client →
      Verdict s peer headers (.error (403, "ip_restricted"))
  | missing {client : Option Address} : ComesFrom s peer headers client → Allows s client →
      headers.Lacks "authorization" → Verdict s peer headers (.error (401, "missing_token"))
  | invalid {client : Option Address} {value : String} : ComesFrom s peer headers client →
      Allows s client → headers.Carries "authorization" value → ¬ Presents headers s.token →
      Verdict s peer headers (.error (401, "invalid_token"))

/-- What a refusal shows of its reason. -/
def Denial.shown (d : Denial) : Nat × String := (d.status, d.code)

theorem admits_eq_ok_iff {s : Settings} {client : Option Address} :
    admits s.allowed client = .ok () ↔ Allows s client := by
  rw [admits.eq_def, Allows]
  cases s.allowed with
  | none => simp
  | some net =>
      cases client with
      | none => simp
      | some address => simp

/-- An address that is refused is refused as such. -/
theorem shown_of_admits {allowed : Option Network} {client : Option Address} {d : Denial}
    (h : admits allowed client = .error d) : d.shown = (403, "ip_restricted") := by
  rw [admits.eq_def] at h
  split at h
  · cases h
  · cases h
    rfl
  · split at h
    · cases h
    · cases h
      rfl

/-- A token stands after the word and one blank. -/
theorem bearer?_eq_some_iff {header token : String} :
    bearer? header = some token ↔
      ∃ rest, header.toList = "Bearer ".toList ++ rest ∧ trim rest ≠ [] ∧
        String.ofList (trim rest) = token := by
  have word : "Bearer ".toList = "Bearer".toList ++ [' '] := by decide
  have solid : ' ' ∉ "Bearer".toList := by decide
  rw [bearer?]
  by_cases blank : ' ' ∈ header.toList
  · obtain ⟨scheme, after, e, first⟩ := List.eq_append_cons_of_mem blank
    rw [e, cut_append after first]
    dsimp only
    constructor
    · intro h
      split at h
      · next found =>
          obtain ⟨rfl, filled⟩ := found
          cases h
          exact ⟨after, by simp [word], by simpa using filled, rfl⟩
      · cases h
    · rintro ⟨rest, same, filled, rfl⟩
      have cuts := congrArg (cut ' ') same
      rw [cut_append after first, word, List.append_assoc, List.singleton_append,
        cut_append rest solid] at cuts
      cases cuts
      exact if_pos ⟨rfl, by simpa using filled⟩
  · rw [cut_of_not_mem blank]
    constructor
    · intro h
      cases h
    · rintro ⟨rest, e, -⟩
      exact absurd (by simp [e, word]) blank

theorem carriesToken_eq_ok_iff {headers : Headers} {token : String} :
    carriesToken token (headers.last? "authorization") = .ok () ↔ Presents headers token := by
  rw [carriesToken.eq_def, Presents]
  constructor
  · intro h
    split at h
    · cases h
    · next value found =>
        split at h
        · cases h
        · next presented bearer =>
            split at h
            · next same =>
                obtain ⟨rest, e, filled, rfl⟩ := bearer?_eq_some_iff.mp bearer
                exact ⟨value, rest, Headers.last?_eq_some_iff.mp found, e, filled,
                  by simpa [isToken] using same⟩
            · cases h
  · rintro ⟨value, rest, carried, e, filled, rfl⟩
    rw [Headers.last?_eq_some_iff.mpr carried]
    dsimp only
    rw [bearer?_eq_some_iff.mpr ⟨rest, e, filled, rfl⟩]
    exact if_pos (by simp [isToken])

/-- A request without the header lacks the token, any other has a wrong one. -/
theorem shown_of_carriesToken {headers : Headers} {token : String} {d : Denial}
    (h : carriesToken token (headers.last? "authorization") = .error d) :
    headers.Lacks "authorization" ∧ d.shown = (401, "missing_token") ∨
      (∃ value, headers.Carries "authorization" value) ∧ d.shown = (401, "invalid_token") := by
  rw [carriesToken.eq_def] at h
  split at h
  · next none =>
      cases h
      exact .inl ⟨Headers.last?_eq_none_iff.mp none, rfl⟩
  · next value found =>
      refine .inr ⟨⟨value, Headers.last?_eq_some_iff.mp found⟩, ?_⟩
      split at h
      · cases h
        rfl
      · split at h
        · cases h
        · cases h
          rfl

/-! ## What the gate decides -/

section

variable {s : Settings} {peer : Option String} {headers : Headers}

/-- A request that is let in comes from where it comes. -/
theorem decide_eq_ok_iff {client : Option Address} :
    decide s peer headers = .ok client ↔
      ComesFrom s peer headers client ∧ Allows s client ∧ Presents headers s.token := by
  rw [decide, bind_eq_ok, comesFrom_iff]
  constructor
  · rintro ⟨_, allowed, h⟩
    obtain ⟨_, carried, e⟩ := bind_eq_ok.mp h
    cases e
    exact ⟨rfl, admits_eq_ok_iff.mp allowed, carriesToken_eq_ok_iff.mp carried⟩
  · rintro ⟨rfl, allowed, presented⟩
    exact ⟨(), admits_eq_ok_iff.mpr allowed,
      bind_eq_ok.mpr ⟨(), carriesToken_eq_ok_iff.mpr presented, rfl⟩⟩

/-- The gate never fails. -/
theorem outcome_authenticate (s : Settings) (peer : Option String) (headers : Headers)
    (context : String) :
    (authenticate s peer headers context).outcome = .ok (decide s peer headers) := by
  rw [authenticate]
  cases decide s peer headers with
  | ok client => rfl
  | error d => rfl

/-- A refusal is for the address, or it is for the token. -/
theorem verdict_of_denial {d : Denial} (h : decide s peer headers = .error d) :
    Verdict s peer headers (.error d.shown) := by
  have origin : ComesFrom s peer headers (clientAddress? s peer (headers.last? "x-forwarded-for")) :=
    comesFrom_iff.mpr rfl
  rw [decide] at h
  cases place : admits s.allowed (clientAddress? s peer (headers.last? "x-forwarded-for")) with
  | error d' =>
      rw [place] at h
      cases h
      rw [shown_of_admits place]
      refine .foreign origin fun allowed => ?_
      rw [admits_eq_ok_iff.mpr allowed] at place
      cases place
  | ok _ =>
      have allowed := admits_eq_ok_iff.mp place
      rw [place] at h
      cases token : carriesToken s.token (headers.last? "authorization") with
      | ok _ =>
          dsimp only [bind, Except.bind] at h
          rw [token] at h
          cases h
      | error d' =>
          have wrong : ¬ Presents headers s.token := fun presented => by
            rw [carriesToken_eq_ok_iff.mpr presented] at token
            cases token
          dsimp only [bind, Except.bind] at h
          rw [token] at h
          cases h
          rcases shown_of_carriesToken token with ⟨lacks, e⟩ | ⟨⟨value, carried⟩, e⟩
          · rw [e]
            exact .missing origin allowed lacks
          · rw [e]
            exact .invalid origin allowed carried wrong

/-- No request has two verdicts. -/
theorem verdict_unique {v w : Except (Nat × String) (Option Address)}
    (hv : Verdict s peer headers v) (hw : Verdict s peer headers w) : v = w := by
  have same : ∀ {c c'}, ComesFrom s peer headers c → ComesFrom s peer headers c' → c = c' :=
    fun h h' => (comesFrom_iff.mp h).symm.trans (comesFrom_iff.mp h')
  have apart : ∀ {value}, headers.Carries "authorization" value →
      ¬ headers.Lacks "authorization" := by
    intro value carried lacks
    have found := Headers.last?_eq_some_iff.mpr carried
    rw [Headers.last?_eq_none_iff.mpr lacks] at found
    cases found
  have kept : Presents headers s.token → ¬ headers.Lacks "authorization" :=
    fun ⟨_, _, carried, _⟩ => apart carried
  cases hv with
  | admitted h allowed presented =>
      cases hw with
      | admitted h' _ _ => rw [same h h']
      | foreign h' not => exact absurd (same h h' ▸ allowed) not
      | missing _ _ lacks => exact absurd lacks (kept presented)
      | invalid _ _ _ not => exact absurd presented not
  | foreign h not =>
      cases hw with
      | admitted h' allowed _ => exact absurd (same h' h ▸ allowed) not
      | foreign _ _ => rfl
      | missing h' allowed _ => exact absurd (same h' h ▸ allowed) not
      | invalid h' allowed _ _ => exact absurd (same h' h ▸ allowed) not
  | missing h allowed lacks =>
      cases hw with
      | admitted _ _ presented => exact absurd lacks (kept presented)
      | foreign h' not => exact absurd (same h h' ▸ allowed) not
      | missing _ _ _ => rfl
      | invalid _ _ carried _ => exact absurd lacks (apart carried)
  | invalid h allowed carried not =>
      cases hw with
      | admitted _ _ presented => exact absurd presented not
      | foreign h' no => exact absurd (same h h' ▸ allowed) no
      | missing _ _ lacks => exact absurd lacks (apart carried)
      | invalid _ _ _ _ => rfl

end

/-- The gate gives every request its one verdict.  It writes a warning for a refusal,
which tells the reason and the context, and nothing else. -/
theorem authenticate_decides (s : Settings) (peer : Option String) (headers : Headers)
    (context : String) :
    ∃ verdict, (authenticate s peer headers context).outcome = .ok verdict ∧
      (∀ v, Verdict s peer headers v ↔ verdict.mapError Denial.shown = v) ∧
      match verdict with
      | .ok _ => (authenticate s peer headers context).events = []
      | .error d => ∃ notice : Notice,
          (authenticate s peer headers context).events = [.noted notice] ∧
          notice.level = .warning ∧
          notice.text = "authentication failure: reason=" ++ d.shown.2 ++ " " ++ context := by
  cases e : decide s peer headers with
  | ok client =>
      obtain ⟨origin, allowed, presented⟩ := decide_eq_ok_iff.mp e
      have drawn : Verdict s peer headers (.ok client) := .admitted origin allowed presented
      refine ⟨.ok client, by rw [authenticate, e]; rfl, fun v => ⟨verdict_unique drawn, ?_⟩,
        by rw [authenticate, e]; rfl⟩
      rintro rfl
      exact drawn
  | error d =>
      have drawn := verdict_of_denial e
      refine ⟨.error d, by rw [authenticate, e]; rfl, fun v => ⟨verdict_unique drawn, ?_⟩,
        .refused d.code context, by rw [authenticate, e]; rfl, rfl, rfl⟩
      rintro rfl
      exact drawn

end HostMonitor.Access
