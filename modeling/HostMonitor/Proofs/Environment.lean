import HostMonitor.Proofs.Outcomes
import HostMonitor.Settings.Basic

/-!
# Settings of an environment

What the variables of an environment come to when settings are read from it: each of
them gives its text to one setting, and the setting is what that text reads as.
-/

namespace HostMonitor.Settings

open Net Number Setting Text

/-- Settings are read one by one. -/
theorem ofValues_eq_ok {values : Values} {s : Settings} (h : ofValues values = .ok s) :
    tokenSetting values = .ok s.token ∧
      setting values "bind_addr" addressText "127.0.0.1" = .ok s.address ∧
      setting values "bind_port" (integerBetween 1 65535) 8080 = .ok s.tcpPort ∧
      setting values "allowed_cidr" network? none = .ok s.allowed ∧
      setting values "trusted_proxies" networks [] = .ok s.proxies ∧
      setting values "adapter_timeout_seconds" positive (.ofInt 10) = .ok s.timeout ∧
      setting values "journal_max_entries" (integerFrom 1) 10000 = .ok s.journalMost ∧
      setting values "log_level" levelName "INFO" = .ok s.logLevel := by
  rw [ofValues] at h
  split at h
  · cases h
  · obtain ⟨token, hToken, h⟩ := bind_eq_ok.mp h
    obtain ⟨address, hAddress, h⟩ := bind_eq_ok.mp h
    obtain ⟨tcpPort, hPort, h⟩ := bind_eq_ok.mp h
    obtain ⟨allowed, hAllowed, h⟩ := bind_eq_ok.mp h
    obtain ⟨proxies, hProxies, h⟩ := bind_eq_ok.mp h
    obtain ⟨timeout, hTimeout, h⟩ := bind_eq_ok.mp h
    obtain ⟨most, hMost, h⟩ := bind_eq_ok.mp h
    obtain ⟨level, hLevel, h⟩ := bind_eq_ok.mp h
    cases h
    exact ⟨hToken, hAddress, hPort, hAllowed, hProxies, hTimeout, hMost, hLevel⟩

theorem ofEnvironment_eq_ok {env : Environment} {s : Settings} (h : ofEnvironment env = .ok s) :
    ofValues (valuesOf env) = .ok s := by
  rw [ofEnvironment] at h
  split at h
  · cases h
  · split at h
    · next found =>
        cases h
        exact found
    · cases h
    · cases h

/-- A key that no field has has no value. -/
theorem get?_of_absent {key : WireText} :
    ∀ {fields : Json.Fields}, (∀ field ∈ fields, field.1 ≠ key) → fields.get? key = none
  | [], _ => rfl
  | (k, v) :: fields, absent => by
      rw [Json.Fields.get?, if_neg (absent _ List.mem_cons_self)]
      exact get?_of_absent fun field mem => absent field (List.mem_cons_of_mem _ mem)

/-- A variable among others gives its text to its own setting. -/
theorem get?_filterMap_lookup {env : Environment} {source name : String} :
    ∀ {known : List (String × String)}, (known.map Prod.snd).Nodup → (source, name) ∈ known →
      Json.Fields.get? name (known.filterMap fun (source, name) =>
        (env.lookup source).map fun text => (WireText.chars name, Json.ofString text)) =
          (env.lookup source).map Json.ofString
  | [], _, mem => nomatch mem
  | (source', name') :: known, distinct, mem => by
      rw [List.map_cons, List.nodup_cons] at distinct
      have rest := @get?_filterMap_lookup env source name known distinct.2
      have absent : Json.Fields.get? name' (known.filterMap fun (source, name) =>
          (env.lookup source).map fun text => (WireText.chars name, Json.ofString text)) = none := by
        apply get?_of_absent
        intro field mem same
        obtain ⟨⟨source'', name''⟩, inside, e⟩ := List.mem_filterMap.mp mem
        obtain ⟨text, _, rfl⟩ := Option.map_eq_some_iff.mp e
        cases same
        exact distinct.1 (List.mem_map.mpr ⟨_, inside, rfl⟩)
      rcases List.mem_cons.mp mem with e | mem
      · cases e
        cases found : env.lookup source with
        | none => simpa [List.filterMap_cons, found] using absent
        | some text => simp [found, Json.Fields.get?]
      · have other : ¬ name' = name := by
          intro same
          exact distinct.1 (List.mem_map.mpr ⟨_, mem, same.symm⟩)
        cases found : env.lookup source' with
        | none => simpa [List.filterMap_cons, found] using rest mem
        | some text => simpa [List.filterMap_cons, found, Json.Fields.get?, other] using rest mem

/-- A setting has the text of its variable. -/
theorem get?_valuesOf {env : Environment} {source name : String}
    (known : (source, name) ∈ knownVariables) :
    (valuesOf env).get? name = (env.lookup source).map Json.ofString :=
  get?_filterMap_lookup (by decide) known

theorem setting_eq_ok {α : Type} {values : Values} {name : String} {read : Json → Reading α}
    {standard value : α} {given : Json} (present : values.get? name = some given)
    (h : setting values name read standard = .ok value) : read given = .ok value := by
  rw [setting, present] at h
  dsimp only at h
  cases e : read given with
  | ok value' =>
      rw [e] at h
      cases h
      rfl
  | error sentence =>
      rw [e] at h
      cases h

/-- The text of a network is not blank. -/
theorem blank_of_read {text : String} {net : Network} (h : Network.read text = .ok net) :
    blank text = false := by
  cases e : blank text with
  | false => rfl
  | true =>
      rw [Network.read, trim_of_all_blank e] at h
      cases h

theorem allowed_of_environment {env : Environment} {s : Settings} {text : String} {net : Network}
    (h : ofEnvironment env = .ok s) (given : env.lookup "MCP_ALLOWED_CIDR" = some text)
    (read : Network.read text = .ok net) : s.allowed = some net := by
  obtain ⟨_, _, _, allowed, _⟩ := ofValues_eq_ok (ofEnvironment_eq_ok h)
  have present : (valuesOf env).get? "allowed_cidr" = some (Json.ofString text) := by
    rw [@get?_valuesOf env "MCP_ALLOWED_CIDR" "allowed_cidr" (by decide), given]
    rfl
  have found := setting_eq_ok present allowed
  rw [Json.ofString, network?, blank_of_read read, networkOfText, read] at found
  exact (Except.ok.inj found).symm

theorem mem_proxies_of_environment {env : Environment} {s : Settings} {list text : String}
    {net : Network} (h : ofEnvironment env = .ok s)
    (given : env.lookup "MCP_TRUSTED_PROXIES" = some list)
    (listed : text.toList ∈ cells ',' list.toList) (read : Network.read text = .ok net) :
    net ∈ s.proxies := by
  obtain ⟨_, _, _, _, proxies, _⟩ := ofValues_eq_ok (ofEnvironment_eq_ok h)
  have present : (valuesOf env).get? "trusted_proxies" = some (Json.ofString list) := by
    rw [@get?_valuesOf env "MCP_TRUSTED_PROXIES" "trusted_proxies" (by decide), given]
    rfl
  have found := setting_eq_ok present proxies
  rw [networks, networksOfItems] at found
  obtain ⟨_, _, found⟩ := bind_eq_ok.mp found
  obtain ⟨nets, each, found⟩ := bind_eq_ok.mp found
  rw [← Except.ok.inj found]
  have item : networkOfItem (Json.ofString text) = .ok (some net) := by
    rw [Json.ofString, networkOfItem, blank_of_read read, networkOfText, read]
    rfl
  refine List.mem_filterMap.mpr ⟨some net, (mem_iff_of_mapM_eq_ok each _).mpr ⟨_, ?_, item⟩, rfl⟩
  exact List.mem_map.mpr ⟨_, listed, by rw [String.ofList_toList]⟩

end HostMonitor.Settings
