import HostMonitor.Proofs.Documents
import HostMonitor.Rpc.Dispatch

/-!
# Redaction hides secrets and nothing else

`Secret` says which keys hold a secret, and `Masked` what a document looks like when
their values are hidden: every list keeps its length, every object keeps its keys,
and a marker stands in the place of every secret.  `Opens` follows the ways into a
document on which no key holds a secret.

Two documents that are `Alike` differ in the values of secret keys only.  Redaction
makes them equal, and it makes no others equal.  So what the log is told of a call
does not depend on its secrets.

Redaction goes only so deep.  The limit is on the open ways: a secret may nest as
deep as it likes.
-/

namespace HostMonitor.Audit

open Rpc Text

/-! ## Secrets -/

/-- The key holds a secret.  Without the blanks around it and in small letters it is
one of these names, or one of the four words stands in it. -/
def Secret (key : WireText) : Prop :=
  lower (strip key.shown) ∈ ["token", "api_token", "access_token", "refresh_token",
      "authorization", "bearer", "password", "secret", "credentials", "credential", "api_key",
      "apikey"] ∨
    ∃ word ∈ ["token", "secret", "password", "credential"],
      word.toList <:+: (lower (strip key.shown)).toList

theorem isSecretKey_iff (key : WireText) : isSecretKey key.shown = true ↔ Secret key := by
  rw [isSecretKey, Secret, Bool.or_eq_true, List.contains_iff_mem, List.any_eq_true]
  simp only [holds, occursIn_iff, secretKeys, secretFragments]

/-- The second document is the first with a marker in the place of every secret. -/
inductive Masked : Json → Json → Prop where
  | scalar {v : Json} : v.isScalar = true → Masked v v
  | arr {items masked : List Json} : items.length = masked.length →
      (∀ (i : Nat) (v w : Json), items[i]? = some v → masked[i]? = some w → Masked v w) →
      Masked (.arr items) (.arr masked)
  | obj {fields masked : Json.Fields} : fields.map Prod.fst = masked.map Prod.fst →
      (∀ (i : Nat) (key : WireText) (v w : Json), fields[i]? = some (key, v) →
        masked[i]? = some (key, w) → Secret key → w = .ofString "[REDACTED]") →
      (∀ (i : Nat) (key : WireText) (v w : Json), fields[i]? = some (key, v) →
        masked[i]? = some (key, w) → ¬ Secret key → Masked v w) →
      Masked (.obj fields) (.obj masked)

/-- The documents differ in the values of secret keys only. -/
inductive Alike : Json → Json → Prop where
  | scalar {v : Json} : v.isScalar = true → Alike v v
  | arr {items items' : List Json} : items.length = items'.length →
      (∀ (i : Nat) (v w : Json), items[i]? = some v → items'[i]? = some w → Alike v w) →
      Alike (.arr items) (.arr items')
  | obj {fields fields' : Json.Fields} : fields.map Prod.fst = fields'.map Prod.fst →
      (∀ (i : Nat) (key : WireText) (v w : Json), fields[i]? = some (key, v) →
        fields'[i]? = some (key, w) → ¬ Secret key → Alike v w) →
      Alike (.obj fields) (.obj fields')

/-- A step into a document. -/
inductive Step where
  | item (i : Nat)
  | field (i : Nat) (key : WireText)
  deriving DecidableEq, Repr

/-- The steps lead from a document to a part of it, and none of them is by a secret
key. -/
inductive Opens : Json → List Step → Json → Prop where
  | here {v : Json} : Opens v [] v
  | item {items : List Json} {i : Nat} {v part : Json} {steps : List Step} :
      items[i]? = some v → Opens v steps part → Opens (.arr items) (.item i :: steps) part
  | field {fields : Json.Fields} {i : Nat} {key : WireText} {v part : Json}
      {steps : List Step} :
      fields[i]? = some (key, v) → ¬ Secret key → Opens v steps part →
      Opens (.obj fields) (.field i key :: steps) part

/-! ## What redaction makes -/

theorem redactField_of_secret {key : WireText} (h : Secret key) (v : Json) :
    redactField (key, v) = (key, .ofString "[REDACTED]") := by
  rw [redactField, if_pos ((isSecretKey_iff key).mpr h), redacted]

theorem redactField_of_open {key : WireText} (h : ¬ Secret key) (v : Json) :
    redactField (key, v) = (key, redact v) := by
  rw [redactField, if_neg (mt (isSecretKey_iff key).mp h)]

/-- Redaction masks a document. -/
theorem masked_redact (v : Json) : Masked v (redact v) := by
  induction v using Json.inductOn with
  | scalar v leaf =>
      rw [redact_of_isScalar leaf]
      exact .scalar leaf
  | arr items ih =>
      rw [redact_arr]
      refine .arr (List.length_map _).symm ?_
      intro i v w hv hw
      rw [List.getElem?_map, hv] at hw
      cases hw
      exact ih v (List.mem_of_getElem? hv)
  | obj fields ih =>
      rw [redact_obj]
      refine .obj (keys_redactField fields).symm ?_ ?_
      · intro i key v w hv hw secret
        rw [List.getElem?_map, hv, Option.map_some, redactField_of_secret secret v] at hw
        cases hw
        rfl
      · intro i key v w hv hw secretless
        rw [List.getElem?_map, hv, Option.map_some, redactField_of_open secretless v] at hw
        cases hw
        exact ih (key, v) (List.mem_of_getElem? hv)

/-- A masked document differs from the document in secrets only. -/
theorem Masked.alike {v w : Json} (h : Masked v w) : Alike v w := by
  induction h with
  | scalar leaf => exact .scalar leaf
  | arr length _ ih => exact .arr length ih
  | obj keys _ _ ih => exact .obj keys ih

/-! ## Side by side -/

section

variable {items items' : List Json} {fields fields' : Json.Fields} {i : Nat} {v : Json}

theorem exists_item (length : items.length = items'.length) (h : items[i]? = some v) :
    ∃ w, items'[i]? = some w := by
  obtain ⟨inside, _⟩ := List.getElem?_eq_some_iff.mp h
  exact ⟨_, List.getElem?_eq_getElem (length ▸ inside)⟩

theorem exists_field {key : WireText} (keys : fields.map Prod.fst = fields'.map Prod.fst)
    (h : fields[i]? = some (key, v)) : ∃ w, fields'[i]? = some (key, w) := by
  have at_i := congrArg (·[i]?) keys
  simp only [List.getElem?_map, h, Option.map_some] at at_i
  obtain ⟨⟨key', w⟩, hw, rfl⟩ := Option.map_eq_some_iff.mp at_i.symm
  exact ⟨w, hw⟩

/-- Lists of the same length are made the same item by item. -/
theorem map_eq_of_items {α : Type} {g h : Json → α} (length : items.length = items'.length)
    (each : ∀ (i : Nat) (v w : Json), items[i]? = some v → items'[i]? = some w → g v = h w) :
    items.map g = items'.map h := by
  refine List.ext_getElem (by simpa using length) fun i hi hi' => ?_
  rw [List.getElem_map, List.getElem_map]
  exact each i _ _ (List.getElem?_eq_getElem _) (List.getElem?_eq_getElem _)

/-- Fields of the same keys are made the same field by field. -/
theorem map_eq_of_fields {α : Type} {g h : WireText × Json → α}
    (keys : fields.map Prod.fst = fields'.map Prod.fst)
    (each : ∀ (i : Nat) (key : WireText) (v w : Json), fields[i]? = some (key, v) →
      fields'[i]? = some (key, w) → g (key, v) = h (key, w)) :
    fields.map g = fields'.map h := by
  have length : fields.length = fields'.length := by simpa using congrArg List.length keys
  refine List.ext_getElem (by simpa using length) fun i hi hi' => ?_
  rw [List.length_map] at hi
  rw [List.getElem_map, List.getElem_map]
  have here : fields[i]? = some (fields[i].1, fields[i].2) := List.getElem?_eq_getElem hi
  obtain ⟨w, hw⟩ := exists_field keys here
  obtain ⟨_, same⟩ := List.getElem?_eq_some_iff.mp hw
  rw [same]
  exact each i _ _ _ here hw

end

/-! ## Documents that redaction makes equal -/

/-- Redaction makes equal what differs in secrets only. -/
theorem Alike.redact_eq {v w : Json} (h : Alike v w) : redact v = redact w := by
  induction h with
  | scalar _ => rfl
  | arr length _ ih => rw [redact_arr, redact_arr, map_eq_of_items length ih]
  | obj keys _ ih =>
      rw [redact_obj, redact_obj, map_eq_of_fields keys]
      intro i key v w hv hw
      by_cases secret : Secret key
      · rw [redactField_of_secret secret, redactField_of_secret secret]
      · rw [redactField_of_open secret, redactField_of_open secret, ih i key v w hv hw secret]

theorem isScalar_redact (v : Json) : (redact v).isScalar = v.isScalar := by
  cases v <;> simp [redact, Json.isScalar]

/-- Redaction makes nothing else equal. -/
theorem alike_of_redact_eq {v w : Json} (h : redact v = redact w) : Alike v w := by
  have kinds : v.isScalar = w.isScalar := by rw [← isScalar_redact v, h, isScalar_redact]
  induction v using Json.inductOn generalizing w with
  | scalar v leaf =>
      rw [leaf] at kinds
      rw [redact_of_isScalar leaf, redact_of_isScalar kinds.symm] at h
      exact h ▸ .scalar leaf
  | arr items ih =>
      cases w with
      | arr items' =>
          rw [redact_arr, redact_arr, Json.arr.injEq] at h
          refine .arr (by simpa using congrArg List.length h) fun i v w hv hw => ?_
          have same : redact v = redact w := by
            have at_i := congrArg (·[i]?) h
            simpa [hv, hw] using at_i
          refine ih v (List.mem_of_getElem? hv) same ?_
          rw [← isScalar_redact v, same, isScalar_redact]
      | obj fields => simp at h
      | _ => cases kinds
  | obj fields ih =>
      cases w with
      | obj fields' =>
          rw [redact_obj, redact_obj, Json.obj.injEq] at h
          have keys := congrArg (List.map Prod.fst) h
          rw [keys_redactField, keys_redactField] at keys
          refine .obj keys fun i key v w hv hw secretless => ?_
          have same : redact v = redact w := by
            have at_i := congrArg (·[i]?) h
            simpa [hv, hw, redactField_of_open secretless] using at_i
          refine ih (key, v) (List.mem_of_getElem? hv) same ?_
          rw [← isScalar_redact v, same, isScalar_redact]
      | arr items => simp at h
      | _ => cases kinds

/-- The masked document is the redacted one. -/
theorem masked_iff {v w : Json} : Masked v w ↔ redact v = w := by
  constructor
  · intro h
    induction h with
    | scalar leaf => exact redact_of_isScalar leaf
    | arr length _ ih => rw [redact_arr, map_eq_of_items length ih, List.map_id']
    | obj keys marked _ ih =>
        rw [redact_obj, map_eq_of_fields keys, List.map_id']
        intro i key v w hv hw
        by_cases secret : Secret key
        · rw [redactField_of_secret secret, marked i key v w hv hw secret]
        · rw [redactField_of_open secret, ih i key v w hv hw secret]
  · rintro rfl
    exact masked_redact v

/-- Redacting twice is redacting once. -/
theorem redact_redact (v : Json) : redact (redact v) = redact v :=
  (masked_redact v).alike.redact_eq.symm

/-! ## Open ways -/

/-- The open ways to scalars are the same, and they lead to the same. -/
theorem Masked.opens_iff {v w part : Json} (h : Masked v w) (leaf : part.isScalar = true)
    {steps : List Step} : Opens v steps part ↔ Opens w steps part := by
  induction h generalizing steps with
  | scalar _ => exact Iff.rfl
  | arr length _ ih =>
      constructor
      · intro h
        cases h with
        | here => cases leaf
        | item hv rest =>
            obtain ⟨w, hw⟩ := exists_item length hv
            exact .item hw ((ih _ _ _ hv hw).mp rest)
      · intro h
        cases h with
        | here => cases leaf
        | item hw rest =>
            obtain ⟨v, hv⟩ := exists_item length.symm hw
            exact .item hv ((ih _ _ _ hv hw).mpr rest)
  | obj keys _ _ ih =>
      constructor
      · intro h
        cases h with
        | here => cases leaf
        | field hv secretless rest =>
            obtain ⟨w, hw⟩ := exists_field keys hv
            exact .field hw secretless ((ih _ _ _ _ hv hw secretless).mp rest)
      · intro h
        cases h with
        | here => cases leaf
        | field hw secretless rest =>
            obtain ⟨v, hv⟩ := exists_field keys.symm hw
            exact .field hv secretless ((ih _ _ _ _ hv hw secretless).mpr rest)

/-- The open ways to lists and objects have fewer steps than there are levels. -/
def Shallow (reach : Nat) (v : Json) : Prop :=
  ∀ steps part, Opens v steps part → part.isScalar = false → steps.length < reach

theorem shallow_of_isScalar {v : Json} (leaf : v.isScalar = true) (reach : Nat) :
    Shallow reach v := by
  intro steps part opens nested
  cases opens with
  | here =>
      rw [leaf] at nested
      cases nested
  | _ => cases leaf

theorem not_shallow_zero {v : Json} (nested : v.isScalar = false) : ¬ Shallow 0 v := fun h =>
  Nat.not_lt_zero _ (h [] v .here nested)

theorem shallow_arr_iff {reach : Nat} {items : List Json} :
    Shallow (reach + 1) (.arr items) ↔ ∀ v ∈ items, Shallow reach v := by
  constructor
  · intro h v mem steps part opens nested
    obtain ⟨i, hi⟩ := List.getElem?_of_mem mem
    exact Nat.lt_of_succ_lt_succ (h _ part (.item hi opens) nested)
  · intro h steps part opens nested
    cases opens with
    | here => exact Nat.succ_pos reach
    | item hv rest =>
        exact Nat.succ_lt_succ (h _ (List.mem_of_getElem? hv) _ part rest nested)

theorem shallow_obj_iff {reach : Nat} {fields : Json.Fields} :
    Shallow (reach + 1) (.obj fields) ↔ ∀ f ∈ fields, ¬ Secret f.1 → Shallow reach f.2 := by
  constructor
  · rintro h ⟨key, v⟩ mem secretless steps part opens nested
    obtain ⟨i, hi⟩ := List.getElem?_of_mem mem
    exact Nat.lt_of_succ_lt_succ (h _ part (.field hi secretless opens) nested)
  · intro h steps part opens nested
    cases opens with
    | here => exact Nat.succ_pos reach
    | field hv secretless rest =>
        exact Nat.succ_lt_succ
          (h _ (List.mem_of_getElem? hv) secretless _ part rest nested)

/-- A redacted document is as deep as the open ways go. -/
theorem depth_redact_le_iff {v : Json} {reach : Nat} :
    (redact v).depth ≤ reach ↔ Shallow reach v := by
  induction v using Json.inductOn generalizing reach with
  | scalar v leaf =>
      rw [redact_of_isScalar leaf, Json.depth_of_isScalar leaf]
      exact iff_of_true (Nat.zero_le _) (shallow_of_isScalar leaf reach)
  | arr items ih =>
      rw [redact_arr, Json.depth]
      cases reach with
      | zero => exact iff_of_false (Nat.not_succ_le_zero _) (not_shallow_zero rfl)
      | succ reach =>
          rw [Nat.add_le_add_iff_right, Json.depthOfItems_le_iff, shallow_arr_iff,
            List.forall_mem_map]
          exact forall₂_congr fun v mem => ih v mem
  | obj fields ih =>
      rw [redact_obj, Json.depth]
      cases reach with
      | zero => exact iff_of_false (Nat.not_succ_le_zero _) (not_shallow_zero rfl)
      | succ reach =>
          rw [Nat.add_le_add_iff_right, Json.depthOfFields_le_iff, shallow_obj_iff,
            List.forall_mem_map]
          refine forall₂_congr fun f mem => ?_
          obtain ⟨key, v⟩ := f
          by_cases secret : Secret key
          · rw [redactField_of_secret secret]
            exact iff_of_true (Nat.zero_le _) fun secretless => absurd secret secretless
          · rw [redactField_of_open secret, ih (key, v) mem]
            exact ⟨fun h _ => h, fun h => h secret⟩

theorem redactWithin_eq_some_iff {reach : Nat} {v w : Json} :
    redactWithin reach v = some w ↔ Masked v w ∧ Shallow reach v := by
  rw [redactWithin, masked_iff, ← depth_redact_le_iff]
  by_cases within : (redact v).depth ≤ reach
  · simp [within]
  · simp [within]

/-- What the log is told of a call is the same for parameters that differ in secrets
only. -/
theorem record_eq {reach : Nat} {r r' : Request} {reply reply' : Reply}
    (alike : Alike r.params.document r'.params.document) (method : r.method = r'.method)
    (outcome : reply.isError = reply'.isError) : record reach r reply = record reach r' reply' := by
  rw [record, record, redactWithin, redactWithin, alike.redact_eq, method, outcome]

/-- Redaction hides the secrets of a document and nothing else, as far as the stack
reaches.  Documents that differ in secrets only become equal, and so do the records of
calls with such parameters.  No other documents become equal. -/
theorem redactWithin_hides (reach : Nat) (v : Json) :
    (∀ w, redactWithin reach v = some w ↔ Masked v w ∧ Shallow reach v) ∧
      (∀ w, redactWithin reach v = some w → redactWithin reach w = some w ∧
        ∀ steps part, part.isScalar = true → (Opens v steps part ↔ Opens w steps part)) ∧
      (∀ v', Alike v v' → redactWithin reach v = redactWithin reach v' ∧
        ∀ r r' reply reply', r.params.document = v → r'.params.document = v' →
          r.method = r'.method → reply.isError = reply'.isError →
          record reach r reply = record reach r' reply') ∧
      ∀ v' w, redactWithin reach v = some w → redactWithin reach v' = some w → Alike v v' := by
  refine ⟨fun w => redactWithin_eq_some_iff, ?_, ?_, ?_⟩
  · intro w found
    obtain ⟨masked, _⟩ := redactWithin_eq_some_iff.mp found
    refine ⟨?_, fun steps part leaf => masked.opens_iff leaf⟩
    rw [redactWithin, ← masked.alike.redact_eq]
    exact found
  · intro v' alike
    refine ⟨by rw [redactWithin, redactWithin, alike.redact_eq], ?_⟩
    rintro r r' reply reply' rfl rfl
    exact record_eq alike
  · intro v' w found found'
    have same := masked_iff.mp (redactWithin_eq_some_iff.mp found).1
    have same' := masked_iff.mp (redactWithin_eq_some_iff.mp found').1
    exact alike_of_redact_eq (same.trans same'.symm)

/-! ## Six hundred levels -/

theorem redact_nested (n : Nat) : redact (Json.nested n) = Json.nested n := by
  induction n with
  | zero => rw [Json.nested, redact_arr, List.map_nil]
  | succ n ih => rw [Json.nested, redact_arr, List.map_singleton, ih]

theorem depth_nested (n : Nat) : (Json.nested n).depth = n + 1 := by
  induction n with
  | zero => rfl
  | succ n ih => rw [Json.nested, Json.depth, Json.depthOfItems, ih, Json.depthOfItems, Nat.max_zero]

/-- Lists inside each other hold no secret, but six hundred of them are not redacted. -/
theorem levels_unredacted :
    Masked (Json.nested 599) (Json.nested 599) ∧
      redactWithin auditReach (Json.nested 599) = none := by
  refine ⟨masked_iff.mpr (redact_nested 599), ?_⟩
  rw [redactWithin, redact_nested, if_neg]
  rw [depth_nested]
  decide

end HostMonitor.Audit
