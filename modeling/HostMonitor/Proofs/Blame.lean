import HostMonitor.Proofs.Variables

/-!
# The first variable at fault

Settings are read variable by variable, and the first one with an invalid text decides what is
said.  `Checks` says so of a step, and one step after another checks the variables of both.

An environment has settings if and only if they hold of it, and they are sound.  Otherwise the
message is about the token when there is none, and about the first invalid variable in the
order of the fields when there is one.  No other variable counts.
-/

namespace HostMonitor.Settings

open Net Number Setting Text

/-! ## The first invalid variable -/

/-- The variable has no invalid text. -/
def Silent (env : Environment) (v : Variable) : Prop :=
  ∀ text, env.lookup v.source = some text → ∀ sentence, ¬ Invalid v text sentence

/-- The message is about the first variable of a list that is invalid. -/
inductive Blames (env : Environment) : List Variable → String → Prop
  | here {v : Variable} {vs : List Variable} {text sentence : String} :
      env.lookup v.source = some text → Invalid v text sentence →
      Blames env (v :: vs) (v.source ++ " is invalid: " ++ sentence)
  | later {v : Variable} {vs : List Variable} {message : String} : Silent env v →
      Blames env vs message → Blames env (v :: vs) message

section

variable {env : Environment} {v : Variable} {vs ws : List Variable} {message : String}

theorem not_blames_of_silent (silent : ∀ v ∈ vs, Silent env v) : ¬ Blames env vs message := by
  intro blames
  induction blames with
  | here given invalid => exact silent _ List.mem_cons_self _ given _ invalid
  | later _ _ ih => exact ih fun w mem => silent w (List.mem_cons_of_mem _ mem)

theorem silent_or_blames (env : Environment) (vs : List Variable) :
    (∀ v ∈ vs, Silent env v) ∨ ∃ message, Blames env vs message := by
  induction vs with
  | nil => exact .inl nofun
  | cons v vs ih =>
      by_cases silent : Silent env v
      · refine ih.imp (fun rest => List.forall_mem_cons.mpr ⟨silent, rest⟩) ?_
        rintro ⟨message, blames⟩
        exact ⟨message, .later silent blames⟩
      · simp only [Silent, not_forall, not_not] at silent
        obtain ⟨text, given, sentence, invalid⟩ := silent
        exact .inr ⟨_, .here given invalid⟩

theorem blames_single {text : String} (given : env.lookup v.source = some text) :
    Blames env [v] message ↔
      ∃ sentence, Invalid v text sentence ∧ v.source ++ " is invalid: " ++ sentence = message := by
  constructor
  · intro blames
    cases blames with
    | here found invalid =>
        cases given.symm.trans found
        exact ⟨_, invalid, rfl⟩
    | later _ blames => cases blames
  · rintro ⟨sentence, invalid, rfl⟩
    exact .here given invalid

theorem blames_append : Blames env (vs ++ ws) message ↔
    Blames env vs message ∨ (∀ v ∈ vs, Silent env v) ∧ Blames env ws message := by
  induction vs with
  | nil =>
      have nobody : ¬ Blames env [] message := nofun
      simp [nobody]
  | cons v vs ih =>
      rw [List.cons_append, List.forall_mem_cons]
      constructor
      · intro blames
        cases blames with
        | here given invalid => exact .inl (.here given invalid)
        | later silent blames =>
            exact (ih.mp blames).imp (.later silent) fun ⟨rest, after⟩ => ⟨⟨silent, rest⟩, after⟩
      · rintro (blames | ⟨⟨silent, rest⟩, after⟩)
        · cases blames with
          | here given invalid => exact .here given invalid
          | later silent blames => exact .later silent (ih.mpr (.inl blames))
        · exact .later silent (ih.mpr (.inr ⟨rest, after⟩))

end

/-- A step has a value with a property when none of the variables is invalid, and objects to
the first invalid one otherwise. -/
structure Checks {α : Type} (env : Environment) (vs : List Variable) (P : α → Prop)
    (step : Except Refusal α) : Prop where
  value : ∀ a, step = .ok a ↔ P a
  blame : ∀ message, Blames env vs message ↔ ∃ o, step = .error (.objection o) ∧ o.message = message
  foreseen : step ≠ .error .breakdown

section

variable {α β : Type} {env : Environment} {vs ws : List Variable} {P : α → Prop}
  {Q : α → β → Prop} {step : Except Refusal α} {next : α → Except Refusal β}

theorem Checks.bind (h : Checks env vs P step) (rest : ∀ a, P a → Checks env ws (Q a) (next a)) :
    Checks env (vs ++ ws) (fun b => ∃ a, P a ∧ Q a b) (step >>= next) := by
  cases step with
  | ok a =>
      have after := rest a ((h.value a).mp rfl)
      have silent : ∀ v ∈ vs, Silent env v := by
        refine (silent_or_blames env vs).resolve_right ?_
        rintro ⟨message, blames⟩
        obtain ⟨o, failed, -⟩ := (h.blame message).mp blames
        cases failed
      refine ⟨fun b => (after.value b).trans ?_, fun message => ?_, after.foreseen⟩
      · constructor
        · exact fun value => ⟨a, (h.value a).mp rfl, value⟩
        · rintro ⟨a', own, value⟩
          cases (h.value a').mpr own
          exact value
      · rw [blames_append, or_iff_right (not_blames_of_silent silent), and_iff_right silent]
        exact after.blame message
  | error r =>
      cases r with
      | breakdown => exact absurd rfl h.foreseen
      | objection o =>
          -- one of the first variables is to blame, so the others do not count
          have blamed : Blames env vs o.message := (h.blame _).mpr ⟨o, rfl, rfl⟩
          refine ⟨fun b => ?_, fun message => ?_, nofun⟩
          · constructor
            · nofun
            · rintro ⟨a, own, -⟩
              cases (h.value a).mpr own
          · rw [blames_append, or_iff_left fun ⟨silent, _⟩ => not_blames_of_silent silent blamed]
            refine (h.blame message).trans ?_
            simp [Bind.bind, Except.bind]

theorem Checks.congr {P' : α → Prop} (h : Checks env vs P step) (same : ∀ a, P a ↔ P' a) :
    Checks env vs P' step :=
  ⟨fun a => (h.value a).trans (same a), h.blame, h.foreseen⟩

theorem checks_done (a : α) : Checks env [] (· = a) (.ok a) where
  value b := by simp [eq_comm]
  blame message := by
    constructor
    · nofun
    · nofun
  foreseen := nofun

/-- The value of a setting, where the text of its variable, if there is one, means it. -/
def Given (env : Environment) (v : Variable) (standard : α) (means : String → α → Prop) (a : α) :
    Prop :=
  (env.lookup v.source = none ∧ a = standard) ∨
    ∃ text, env.lookup v.source = some text ∧ means text a

theorem checks_setting (env : Environment) {v : Variable} {means : String → α → Prop}
    {read : Json → Reading α} (reads : Reads v means read) (standard : α) :
    Checks env [v] (Given env v standard means) (setting (valuesOf env) v.name read standard) := by
  rw [setting, get?_valuesOf v.known]
  cases given : env.lookup v.source with
  | none =>
      constructor
      · intro a
        simp [Given, given, eq_comm]
      · intro message
        constructor
        · intro blames
          cases blames with
          | here found _ => cases given.symm.trans found
          | later _ blames => cases blames
        · rintro ⟨o, failed, -⟩
          cases failed
      · intro failed
        cases failed
  | some text =>
      rw [Option.map_some]
      dsimp only
      have value := reads.value text
      have sentence := reads.sentence text
      refine ⟨fun a => ?_, fun message => ?_, ?_⟩
      · cases outcome : read (.ofString text) <;>
          simp [Given, given, ← value, outcome, Except.mapError]
      · rw [blames_single given]
        cases outcome : read (.ofString text) <;>
          simp [← sentence, outcome, Except.mapError, Objection.message, v.variableOf_name]
      · cases read (.ofString text) <;> simp [Except.mapError]

end

/-! ## The settings of an environment -/

/-- The settings are those of the environment. -/
structure Holds (env : Environment) (s : Settings) : Prop where
  token : ∃ text, env.lookup "MCP_API_TOKEN" = some text ∧ MeansToken text s.token
  address : Given env .address "127.0.0.1" MeansAddress s.address
  tcpPort : Given env .tcpPort 8080 MeansPort s.tcpPort
  allowed : Given env .allowed none MeansAllowed s.allowed
  proxies : Given env .proxies [] MeansProxies s.proxies
  timeout : Given env .timeout (.ofInt 10) MeansTimeout s.timeout
  journalMost : Given env .journalMost 10000 MeansMost s.journalMost
  logLevel : Given env .logLevel "INFO" MeansLevel s.logLevel

/-- What the rest of the program relies on. -/
structure Sound (s : Settings) : Prop where
  token : strip s.token = s.token ∧ 16 ≤ s.token.length
  address : ∃ a, address? s.address.toList = some a
  tcpPort : 1 ≤ s.tcpPort ∧ s.tcpPort ≤ 65535
  timeout : AboveZero s.timeout
  journalMost : 1 ≤ s.journalMost
  logLevel : s.logLevel ∈ logLevels

/-- What is said about an environment that gives no settings. -/
inductive Complains (env : Environment) : String → Prop
  | missing : env.lookup "MCP_API_TOKEN" = none → Complains env "MCP_API_TOKEN is required"
  | invalid {text message : String} : env.lookup "MCP_API_TOKEN" = some text →
      Blames env Variable.all message → Complains env message

theorem complains_iff {env : Environment} {text message : String}
    (given : env.lookup "MCP_API_TOKEN" = some text) :
    Complains env message ↔ Blames env Variable.all message := by
  constructor
  · intro complains
    cases complains with
    | missing absent => cases given.symm.trans absent
    | invalid _ blames => exact blames
  · exact .invalid given

/-- What holds of the standard value and of all that a text may mean holds of the value. -/
theorem Given.elim {α : Type} {env : Environment} {v : Variable} {standard a : α}
    {means : String → α → Prop} {P : α → Prop} (h : Given env v standard means a)
    (unset : P standard) (meant : ∀ text, means text a → P a) : P a := by
  obtain ⟨-, rfl⟩ | ⟨text, -, meaning⟩ := h
  · exact unset
  · exact meant text meaning

theorem Holds.sound {env : Environment} {s : Settings} (h : Holds env s) : Sound s where
  token := by
    obtain ⟨text, -, own, long⟩ := h.token
    refine ⟨?_, long⟩
    rw [own, strip, toList_strip,
      show trim (trim text.toList) = trim text.toList from trimBy_trimBy _,
      ← strip]
  address := h.address.elim (P := fun address => ∃ a, address? address.toList = some a)
    ⟨.v4 0x7F000001, by decide⟩ fun _ means => means.2
  tcpPort := h.tcpPort.elim (P := fun n => 1 ≤ n ∧ n ≤ 65535) (by decide) fun _ means => means.2
  timeout := h.timeout.elim (aboveZero_iff.mp (by decide)) fun _ means => means.2
  journalMost := h.journalMost.elim (P := fun n => 1 ≤ n) (by decide) fun _ means => means.2
  logLevel := h.logLevel.elim (P := fun level => level ∈ logLevels) (by decide)
    fun _ means => means.2

/-- No network is set exactly when the variable is absent or blank. -/
theorem Holds.allowed_eq_none_iff {env : Environment} {s : Settings} (h : Holds env s) :
    s.allowed = none ↔ ∀ text, env.lookup "MCP_ALLOWED_CIDR" = some text → blank text = true := by
  obtain ⟨absent, unset⟩ | ⟨text, given, means⟩ := h.allowed
  · have absent : env.lookup "MCP_ALLOWED_CIDR" = none := absent
    simp [unset, absent]
  · have given : env.lookup "MCP_ALLOWED_CIDR" = some text := given
    rw [given]
    cases found : s.allowed with
    | none =>
        rw [found, MeansAllowed] at means
        simpa using means
    | some net =>
        rw [found] at means
        simp [blank_of_read means]

theorem checks_ofValues {env : Environment} {text : String}
    (given : env.lookup "MCP_API_TOKEN" = some text) :
    Checks env Variable.all (Holds env) (ofValues (valuesOf env)) := by
  have foreseen : breaksDown (valuesOf env) = false := by
    rw [breaksDown, @get?_valuesOf env "MCP_TRUSTED_PROXIES" "trusted_proxies" (by decide)]
    cases env.lookup "MCP_TRUSTED_PROXIES" <;> rfl
  have token : tokenSetting (valuesOf env) = setting (valuesOf env) "api_token" tokenText "" := by
    rw [tokenSetting, setting, @get?_valuesOf env "MCP_API_TOKEN" "api_token" (by decide), given]
    rfl
  have chain := (checks_setting env reads_token "").bind fun token _ =>
    (checks_setting env reads_address "127.0.0.1").bind fun address _ =>
    (checks_setting env reads_port 8080).bind fun tcpPort _ =>
    (checks_setting env reads_allowed none).bind fun allowed _ =>
    (checks_setting env reads_proxies []).bind fun proxies _ =>
    (checks_setting env reads_timeout (.ofInt 10)).bind fun timeout _ =>
    (checks_setting env reads_most 10000).bind fun journalMost _ =>
    (checks_setting env reads_level "INFO").bind fun logLevel _ =>
    checks_done (Settings.mk token address tcpPort allowed proxies timeout journalMost logLevel)
  rw [ofValues, foreseen, token]
  refine chain.congr fun s => ?_
  constructor
  · rintro ⟨_, absent | own, _, address, _, tcpPort, _, allowed, _, proxies, _, timeout, _,
      journalMost, _, logLevel, rfl⟩
    · cases given.symm.trans absent.1
    · exact ⟨own, address, tcpPort, allowed, proxies, timeout, journalMost, logLevel⟩
  · intro h
    exact ⟨_, .inr h.token, _, h.address, _, h.tcpPort, _, h.allowed, _, h.proxies, _, h.timeout, _,
      h.journalMost, _, h.logLevel, rfl⟩

theorem ofEnvironment_missing {env : Environment} (absent : env.lookup "MCP_API_TOKEN" = none) :
    ofEnvironment env = .error "MCP_API_TOKEN is required" := by
  rw [ofEnvironment, @get?_valuesOf env "MCP_API_TOKEN" "api_token" (by decide), absent]
  rfl

theorem ofEnvironment_given {env : Environment} {text : String}
    (given : env.lookup "MCP_API_TOKEN" = some text) :
    (∀ s, ofEnvironment env = .ok s ↔ Holds env s) ∧
      ∀ message, ofEnvironment env = .error message ↔ Blames env Variable.all message := by
  have checks := checks_ofValues given
  simp only [← checks.value, checks.blame]
  rw [ofEnvironment, @get?_valuesOf env "MCP_API_TOKEN" "api_token" (by decide), given]
  cases outcome : ofValues (valuesOf env) with
  | ok s => simp
  | error r =>
      cases r with
      | objection o => simp
      | breakdown => exact absurd outcome checks.foreseen

/-- Variables with other names do not count. -/
theorem ofEnvironment_congr {env env' : Environment}
    (agree : ∀ v : Variable, env'.lookup v.source = env.lookup v.source) :
    ofEnvironment env' = ofEnvironment env := by
  have values : valuesOf env' = valuesOf env := by
    refine List.filterMap_congr fun pair mem => ?_
    obtain ⟨v, -, rfl⟩ := List.mem_map.mp (Variable.knownVariables_eq ▸ mem)
    dsimp only
    rw [agree]
  rw [ofEnvironment, ofEnvironment, values]

/-- An environment gives the settings that hold of it, and they are sound.  Otherwise the
message is about the first variable that is at fault.  Variables with other names do not
count. -/
theorem ofEnvironment_iff (env : Environment) :
    (∀ s, ofEnvironment env = .ok s ↔ Holds env s) ∧
      (∀ s, Holds env s → Sound s ∧
        (s.allowed = none ↔
          ∀ text, env.lookup "MCP_ALLOWED_CIDR" = some text → blank text = true)) ∧
      (∀ message, ofEnvironment env = .error message ↔ Complains env message) ∧
      ∀ env' : Environment, (∀ v : Variable, env'.lookup v.source = env.lookup v.source) →
        ofEnvironment env' = ofEnvironment env := by
  have sound (s : Settings) (h : Holds env s) := And.intro h.sound h.allowed_eq_none_iff
  cases given : env.lookup "MCP_API_TOKEN" with
  | none =>
      rw [ofEnvironment_missing given]
      refine ⟨fun s => ?_, sound, fun message => ?_, ?_⟩
      · constructor
        · intro failed
          cases failed
        · intro h
          obtain ⟨text, found, -⟩ := h.token
          cases given.symm.trans found
      · constructor
        · intro e
          cases e
          exact .missing given
        · intro complains
          cases complains with
          | missing => rfl
          | invalid found _ => cases given.symm.trans found
      · intro env' agree
        rw [ofEnvironment_congr agree, ofEnvironment_missing given]
  | some text =>
      obtain ⟨value, blame⟩ := ofEnvironment_given given
      refine ⟨value, sound, fun message => ?_, fun env' => ofEnvironment_congr⟩
      rw [blame, complains_iff given]

/-- The order of the fields decides, not that of the environment. -/
example : ofEnvironment [("LOG_LEVEL", "chatty"), ("BIND_PORT", "0"),
    ("MCP_API_TOKEN", "sixteen-characters")] =
      .error "BIND_PORT is invalid: Input should be greater than or equal to 1" := by
  rfl

end HostMonitor.Settings
