import HostMonitor.Proofs.Cutting
import HostMonitor.Proofs.Environment
import HostMonitor.Proofs.Rounding
import HostMonitor.Proofs.Written

/-!
# What variables mean

What a variable may hold is said of its text alone.  A relation for each setting says which
value a text means, and `Invalid` gives the sentence about a text that means none.  Each of
the readers makes of a text what it means, and objects to it with its sentence.
-/

namespace HostMonitor.Settings

open Net Number Setting Text

/-! ## Variables and their texts -/

/-- A variable that the program knows. -/
inductive Variable where
  | token
  | address
  | tcpPort
  | allowed
  | proxies
  | timeout
  | journalMost
  | logLevel
  deriving DecidableEq, Repr

namespace Variable

/-- Its name in the environment. -/
def source : Variable → String
  | token => "MCP_API_TOKEN"
  | address => "BIND_ADDR"
  | tcpPort => "BIND_PORT"
  | allowed => "MCP_ALLOWED_CIDR"
  | proxies => "MCP_TRUSTED_PROXIES"
  | timeout => "MCP_ADAPTER_TIMEOUT_SECONDS"
  | journalMost => "MCP_JOURNAL_MAX_ENTRIES"
  | logLevel => "LOG_LEVEL"

/-- The name of its setting. -/
def name : Variable → String
  | token => "api_token"
  | address => "bind_addr"
  | tcpPort => "bind_port"
  | allowed => "allowed_cidr"
  | proxies => "trusted_proxies"
  | timeout => "adapter_timeout_seconds"
  | journalMost => "journal_max_entries"
  | logLevel => "log_level"

/-- All variables, in the order of the fields. -/
def all : List Variable :=
  [token, address, tcpPort, allowed, proxies, timeout, journalMost, logLevel]

theorem mem_all (v : Variable) : v ∈ all := by
  cases v <;> decide

theorem knownVariables_eq : knownVariables = all.map fun v => (v.source, v.name) := rfl

theorem known (v : Variable) : (v.source, v.name) ∈ knownVariables :=
  knownVariables_eq ▸ List.mem_map.mpr ⟨v, v.mem_all, rfl⟩

theorem variableOf_name (v : Variable) : variableOf v.name = v.source := by
  cases v <;> decide

end Variable

/-- What stands between the commas of a text, without what is blank. -/
def items (text : String) : List String :=
  ((text.toList.splitOn ',').map String.ofList).filter fun s => !blank s

/-- The number is above zero. -/
def AboveZero (x : Binary64) : Prop := x = .infinite false ∨ ∃ v, x.value? = some v ∧ 0 < v

/-- The text is no integer from one on, as the sentence says. -/
inductive NoCount (text : String) : (sentence : String) → Prop
  | unread {sentence : String} : integerOfText text = .error sentence → NoCount text sentence
  | low {n : Int} : integerOfText text = .ok n → n < 1 →
      NoCount text "Input should be greater than or equal to 1"

/-- The text is no value for the variable, as the sentence says. -/
inductive Invalid : (v : Variable) → (text sentence : String) → Prop
  | short {text : String} : (strip text).length < 16 →
      Invalid .token text (objection "must be at least 16 characters")
  | address {text : String} : address? (strip text).toList = none →
      Invalid .address text
        (objection (quoted (strip text) ++ " does not appear to be an IPv4 or IPv6 address"))
  | tcpPort {text sentence : String} : NoCount text sentence → Invalid .tcpPort text sentence
  | high {text : String} {n : Int} : integerOfText text = .ok n → 65535 < n →
      Invalid .tcpPort text "Input should be less than or equal to 65535"
  | network {text : String} {u : Network.Unreadable} : blank text = false →
      Network.read text = .error u → Invalid .allowed text (objection u.message)
  | item {text item : String} {before after : List String} {u : Network.Unreadable} :
      items text = before ++ item :: after → (∀ s ∈ before, ∃ net, Network.read s = .ok net) →
      Network.read item = .error u → Invalid .proxies text (objection u.message)
  | number {text sentence : String} : numberOfText text = .error sentence →
      Invalid .timeout text sentence
  | notAbove {text : String} {x : Binary64} : numberOfText text = .ok x → ¬ AboveZero x →
      Invalid .timeout text "Input should be greater than 0"
  | journalMost {text sentence : String} : NoCount text sentence →
      Invalid .journalMost text sentence
  | level {text : String} : upper (strip text) ∉ logLevels →
      Invalid .logLevel text (objection ("unknown log level: " ++ text))

/-! ## What texts mean -/

def MeansToken (text token : String) : Prop := token = strip text ∧ 16 ≤ token.length

def MeansAddress (text address : String) : Prop :=
  address = strip text ∧ ∃ a, address? address.toList = some a

def MeansPort (text : String) (n : Int) : Prop :=
  integerOfText text = .ok n ∧ 1 ≤ n ∧ n ≤ 65535

def MeansAllowed (text : String) : Option Network → Prop
  | none => blank text = true
  | some net => Network.read text = .ok net

def MeansProxies (text : String) (nets : List Network) : Prop :=
  List.Forall₂ (fun item net => Network.read item = .ok net) (items text) nets

def MeansTimeout (text : String) (x : Binary64) : Prop := numberOfText text = .ok x ∧ AboveZero x

def MeansMost (text : String) (n : Int) : Prop := integerOfText text = .ok n ∧ 1 ≤ n

def MeansLevel (text level : String) : Prop := level = upper (strip text) ∧ level ∈ logLevels

/-- A reader makes of the text of a variable what it means, and gives the sentence about an
invalid one. -/
structure Reads {α : Type} (v : Variable) (means : String → α → Prop) (read : Json → Reading α) :
    Prop where
  value : ∀ text a, read (.ofString text) = .ok a ↔ means text a
  sentence : ∀ text e, read (.ofString text) = .error e ↔ Invalid v text e

theorem tokenText_ofString (text : String) : tokenText (.ofString text) =
    if 16 ≤ (strip text).length then .ok (strip text)
    else .error (objection "must be at least 16 characters") := by
  have sentence : "must be at least " ++ toString leastTokenLength ++ " characters" =
      "must be at least 16 characters" := by decide
  have void : isVoid (.ofString text) = true → text = "" := by
    rw [Json.ofString, isVoid, WireText.isEmpty, WireText.points, List.isEmpty_map,
      List.isEmpty_iff, String.toList_eq_nil_iff]
    exact id
  have kept : strip (if isVoid (.ofString text) then "" else text) = strip text := by
    split
    · next empty => rw [void empty]
    · rfl
  rw [← ite_not, ← sentence, ← kept]
  simp only [not_le]
  rfl

theorem reads_token : Reads .token MeansToken tokenText := by
  constructor
  · intro text token
    rw [tokenText_ofString, guarded_eq_ok]
    constructor
    · rintro ⟨long, rfl⟩
      exact ⟨rfl, long⟩
    · rintro ⟨rfl, long⟩
      exact ⟨long, rfl⟩
  · intro text e
    rw [tokenText_ofString, guarded_eq_error, not_le]
    constructor
    · rintro ⟨short, rfl⟩
      exact .short short
    · intro invalid
      cases invalid with
      | short short => exact ⟨short, rfl⟩

theorem reads_address : Reads .address MeansAddress addressText := by
  have read (text : String) : addressText (.ofString text) =
      if (address? (strip text).toList).isSome then .ok (strip text)
      else .error (objection (quoted (strip text) ++
        " does not appear to be an IPv4 or IPv6 address")) := rfl
  constructor
  · intro text address
    rw [read, guarded_eq_ok, Option.isSome_iff_exists]
    constructor
    · rintro ⟨found, rfl⟩
      exact ⟨rfl, found⟩
    · rintro ⟨rfl, found⟩
      exact ⟨found, rfl⟩
  · intro text e
    rw [read, guarded_eq_error, Option.not_isSome_iff_eq_none]
    constructor
    · rintro ⟨none, rfl⟩
      exact .address none
    · intro invalid
      cases invalid with
      | address none => exact ⟨none, rfl⟩

/-- An integer from one on is read as such. -/
theorem integerFrom_ofString (text : String) :
    (∀ n, integerFrom 1 (.ofString text) = .ok n ↔ MeansMost text n) ∧
      ∀ e, integerFrom 1 (.ofString text) = .error e ↔ NoCount text e := by
  have read : integerFrom 1 (.ofString text) = integerOfText text >>= fun n =>
      if n < 1 then .error ("Input should be greater than or equal to " ++ toString (1 : Int))
      else .ok n := rfl
  have sentence : "Input should be greater than or equal to " ++ toString (1 : Int) =
      "Input should be greater than or equal to 1" := by decide
  simp only [← ite_not (_ < _), not_lt, sentence] at read
  rw [read]
  constructor
  · intro n
    simp only [bind_eq_ok, guarded_eq_ok]
    constructor
    · rintro ⟨n, found, least, rfl⟩
      exact ⟨found, least⟩
    · rintro ⟨found, least⟩
      exact ⟨n, found, least, rfl⟩
  · intro e
    simp only [bind_eq_error, guarded_eq_error, not_le]
    constructor
    · rintro (unread | ⟨n, found, low, rfl⟩)
      · exact .unread unread
      · exact .low found low
    · rintro (unread | ⟨found, low⟩)
      · exact .inl unread
      · exact .inr ⟨_, found, low, rfl⟩

theorem reads_most : Reads .journalMost MeansMost (integerFrom 1) := by
  constructor
  · intro text
    exact (integerFrom_ofString text).1
  · intro text e
    rw [(integerFrom_ofString text).2]
    constructor
    · exact .journalMost
    · intro invalid
      cases invalid with
      | journalMost no => exact no

theorem reads_port : Reads .tcpPort MeansPort (integerBetween 1 65535) := by
  have sentence : "Input should be less than or equal to " ++ toString (65535 : Int) =
      "Input should be less than or equal to 65535" := by decide
  have read (text : String) : integerBetween 1 65535 (.ofString text) =
      integerFrom 1 (.ofString text) >>= fun n => if n ≤ 65535 then .ok n
        else .error "Input should be less than or equal to 65535" := by
    simp only [← ite_not (_ ≤ _), not_le, ← sentence]
    rfl
  constructor
  · intro text n
    simp only [read, bind_eq_ok, guarded_eq_ok, (integerFrom_ofString text).1]
    constructor
    · rintro ⟨n, ⟨found, least⟩, most, rfl⟩
      exact ⟨found, least, most⟩
    · rintro ⟨found, least, most⟩
      exact ⟨n, ⟨found, least⟩, most, rfl⟩
  · intro text e
    simp only [read, bind_eq_error, guarded_eq_error, (integerFrom_ofString text).1,
      (integerFrom_ofString text).2, not_le]
    constructor
    · rintro (no | ⟨n, ⟨found, least⟩, high, rfl⟩)
      · exact .tcpPort no
      · exact .high found high
    · intro invalid
      cases invalid with
      | tcpPort no => exact .inl no
      | high found high => exact .inr ⟨_, ⟨found, by omega⟩, high, rfl⟩

theorem networkOfText_eq_ok {text : String} {net : Network} :
    networkOfText text = .ok net ↔ Network.read text = .ok net := by
  rw [networkOfText]
  cases Network.read text <;> simp [Except.mapError]

theorem networkOfText_eq_error {text e : String} :
    networkOfText text = .error e ↔
      ∃ u, Network.read text = .error u ∧ e = objection u.message := by
  rw [networkOfText]
  cases Network.read text <;> simp [Except.mapError, eq_comm]

theorem reads_allowed : Reads .allowed MeansAllowed network? := by
  have read (text : String) : network? (.ofString text) =
      if blank text then .ok none else (networkOfText text).map some := rfl
  constructor
  · intro text allowed
    rw [read]
    cases allowed with
    | none =>
        rw [MeansAllowed]
        split
        · next empty => simp [empty]
        · next filled => cases networkOfText text <;> simp [Except.map, filled]
    | some net =>
        rw [MeansAllowed, ← networkOfText_eq_ok]
        split
        · next empty =>
            have unread : networkOfText text ≠ .ok net := by
              rw [ne_eq, networkOfText_eq_ok]
              intro found
              exact Bool.false_ne_true ((blank_of_read found).symm.trans empty)
            simp [unread]
        · cases networkOfText text <;> simp [Except.map]
  · intro text e
    rw [read]
    split
    · next empty =>
        constructor
        · nofun
        · intro invalid
          cases invalid with
          | network filled _ => exact absurd empty (by simp [filled])
    · next filled =>
        have failed : (networkOfText text).map some = .error e ↔ networkOfText text = .error e := by
          cases networkOfText text <;> simp [Except.map]
        rw [failed, networkOfText_eq_error]
        constructor
        · rintro ⟨u, unread, rfl⟩
          exact .network (by simpa using filled) unread
        · intro invalid
          cases invalid with
          | network _ unread => exact ⟨_, unread, rfl⟩

/-- The networks of a list of texts are those of the texts that are not blank. -/
theorem networksOfItems_map_ofString (texts : List String) :
    networksOfItems (texts.map Json.ofString) =
      (texts.filter fun s => !blank s).mapM networkOfText := by
  have listed : textsOf (texts.map Json.ofString) = texts := by
    simp [textsOf, Json.ofString, WireText.chars?, List.filterMap_map, Function.comp_def]
  have again : ((texts.map Json.ofString).mapM networkOfItem).map (·.filterMap id) =
      networksOfTexts texts := by
    clear listed
    induction texts with
    | nil => rfl
    | cons text texts ih =>
        have item : networkOfItem (.ofString text) =
            if blank text then .ok none else (networkOfText text).map some := rfl
        rw [List.map_cons, List.mapM_cons, item]
        rw [networksOfTexts] at ih ⊢
        cases empty : blank text with
        | true =>
            rw [List.filter_cons_of_neg (by simp [empty]), ← ih]
            cases (texts.map Json.ofString).mapM networkOfItem <;> rfl
        | false =>
            rw [List.filter_cons_of_pos (by simp [empty]), List.mapM_cons, ← ih]
            cases networkOfText text <;> cases (texts.map Json.ofString).mapM networkOfItem <;> rfl
  -- the second reading gives what the first one gave
  have once : networksOfItems (texts.map Json.ofString) =
      networksOfTexts texts >>= fun _ => networksOfTexts texts := by
    rw [networksOfItems, listed, ← again]
    cases (texts.map Json.ofString).mapM networkOfItem <;> rfl
  rw [once, ← networksOfTexts]
  cases networksOfTexts texts <;> rfl

/-- The networks of a text are those of its items. -/
theorem networks_ofString (text : String) :
    networks (.ofString text) = (items text).mapM networkOfText := by
  have cut : networkItems (.ofString text) =
      some (((text.toList.splitOn ',').map String.ofList).map Json.ofString) := by
    rw [List.map_map, ← cells_eq_splitOn]
    rfl
  rw [networks, cut, Option.getD_some, networksOfItems_map_ofString]
  rfl

theorem reads_proxies : Reads .proxies MeansProxies networks := by
  constructor
  · intro text nets
    simp only [networks_ofString, mapM_eq_ok_iff, networkOfText_eq_ok]
    rfl
  · intro text e
    simp only [networks_ofString, mapM_eq_error_iff, networkOfText_eq_ok, networkOfText_eq_error]
    constructor
    · rintro ⟨before, item, after, split, fine, u, unread, rfl⟩
      exact .item split fine unread
    · intro invalid
      cases invalid with
      | item split fine unread => exact ⟨_, _, _, split, fine, _, unread, rfl⟩

theorem aboveZero_iff {x : Binary64} : x.isPositive = true ↔ AboveZero x := by
  cases x with
  | finite negative m e =>
      obtain ⟨v, value⟩ : ∃ v, (Binary64.finite negative m e).value? = some v := ⟨_, rfl⟩
      rw [Binary64.isPositive_iff value]
      simp [AboveZero, value]
  | infinite negative => cases negative <;> simp [AboveZero, Binary64.isPositive, Binary64.value?]
  | nan => simp [AboveZero, Binary64.isPositive, Binary64.value?]

theorem reads_timeout : Reads .timeout MeansTimeout positive := by
  have read (text : String) : positive (.ofString text) = numberOfText text >>= fun x =>
      if x.isPositive then .ok x else .error "Input should be greater than 0" := rfl
  constructor
  · intro text x
    simp only [read, bind_eq_ok, guarded_eq_ok, aboveZero_iff]
    constructor
    · rintro ⟨x, found, above, rfl⟩
      exact ⟨found, above⟩
    · rintro ⟨found, above⟩
      exact ⟨x, found, above, rfl⟩
  · intro text e
    simp only [read, bind_eq_error, guarded_eq_error, aboveZero_iff]
    constructor
    · rintro (unread | ⟨x, found, notAbove, rfl⟩)
      · exact .number unread
      · exact .notAbove found notAbove
    · intro invalid
      cases invalid with
      | number unread => exact .inl unread
      | notAbove found notAbove => exact .inr ⟨_, found, notAbove, rfl⟩

theorem reads_level : Reads .logLevel MeansLevel levelName := by
  have read (text : String) : levelName (.ofString text) =
      if logLevels.contains (upper (strip text)) then .ok (upper (strip text))
      else .error (objection ("unknown log level: " ++ text)) := rfl
  constructor
  · intro text level
    rw [read, guarded_eq_ok, List.contains_iff_mem]
    constructor
    · rintro ⟨known, rfl⟩
      exact ⟨rfl, known⟩
    · rintro ⟨rfl, known⟩
      exact ⟨known, rfl⟩
  · intro text e
    rw [read, guarded_eq_error, List.contains_iff_mem]
    constructor
    · rintro ⟨unknown, rfl⟩
      exact .level unknown
    · intro invalid
      cases invalid with
      | level unknown => exact ⟨unknown, rfl⟩

end HostMonitor.Settings
