import HostMonitor.Proofs.Outcomes
import HostMonitor.Tool.Arguments

/-!
# Arguments that fit a signature

Arguments fit when every key is declared and no value is of the wrong kind, and what a
tool is given are the values of the declared keys.  So only what is found under a key
matters, and not the order of the keys.
-/

namespace HostMonitor

open Text

theorem Json.isSome_get?_iff {key : WireText} {fields : Fields} :
    (Fields.get? key fields).isSome ↔ key ∈ fields.map Prod.fst := by
  induction fields with
  | nil => simp [Fields.get?]
  | cons f fields ih =>
      obtain ⟨k, v⟩ := f
      by_cases here : k = key
      · simp [Fields.get?, here]
      · simp [Fields.get?, here, Ne.symm here, ih]

namespace Tool

theorem chars?_eq_some_iff {key : WireText} {name : String} :
    key.chars? = some name ↔ key = .chars name := by
  cases key <;> simp [WireText.chars?]

theorem mapM_chars?_eq_some_iff {fields : Json.Fields} {keys : List String} :
    fields.mapM (fun field => field.1.chars?) = some keys ↔
      fields.map Prod.fst = keys.map WireText.chars := by
  rw [mapM_eq_some_iff, ← List.forall₂_eq_eq_eq, List.forall₂_map_left_iff,
    List.forall₂_map_right_iff]
  simp only [chars?_eq_some_iff]

theorem unknownKeys_eq_nil_iff {s : Signature} {keys : List String} :
    unknownKeys s keys = [] ↔ ∀ key ∈ keys, key ∈ s.map Argument.name := by
  rw [← List.length_eq_zero_iff, unknownKeys, List.length_mergeSort, List.length_eq_zero_iff,
    List.filter_eq_nil_iff]
  simp

/-- Arguments fit a signature when all of them are declared and none is of the wrong
kind. -/
theorem check_eq_ok_iff {s : Signature} {fields given : Json.Fields} :
    s.check fields = .ok given ↔
      (∀ key ∈ fields.map Prod.fst, ∃ name ∈ s.map Argument.name, key = .chars name) ∧
        firstWrong? s fields = none ∧ givenValues s fields = given := by
  rw [Signature.check]
  constructor
  · intro fits
    split at fits
    · cases fits
    · next keys found =>
        rw [mapM_chars?_eq_some_iff] at found
        simp only [Bool.not_eq_true'] at fits
        split at fits
        · cases fits
        · next known =>
            rw [Bool.not_eq_false, List.isEmpty_iff, unknownKeys_eq_nil_iff] at known
            split at fits
            · cases fits
            · next right =>
                refine ⟨fun key mem => ?_, right, Except.ok.inj fits⟩
                rw [found] at mem
                obtain ⟨name, inside, rfl⟩ := List.mem_map.mp mem
                exact ⟨name, known name inside, rfl⟩
  · rintro ⟨declared, right, rfl⟩
    obtain ⟨keys, texts⟩ : ∃ keys : List String, fields.map Prod.fst = keys.map .chars := by
      refine ⟨(fields.map Prod.fst).map fun key => (WireText.chars? key).getD "", ?_⟩
      rw [List.map_map]
      refine ((List.map_congr_left fun key mem => ?_).trans (List.map_id _)).symm
      obtain ⟨name, _, rfl⟩ := declared key mem
      rfl
    have known : unknownKeys s keys = [] := by
      refine unknownKeys_eq_nil_iff.mpr fun key mem => ?_
      obtain ⟨name, here, same⟩ := declared (.chars key) (texts ▸ List.mem_map_of_mem mem)
      exact WireText.chars.inj same ▸ here
    rw [mapM_chars?_eq_some_iff.mpr texts]
    simp only [known, right]
    rfl

/-- Only the values of the keys matter to a signature. -/
theorem check_congr {s : Signature} {fields fields' given : Json.Fields}
    (same : ∀ key, Json.Fields.get? key fields = Json.Fields.get? key fields')
    (fits : s.check fields' = .ok given) : s.check fields = .ok given := by
  have values : ∀ a, given? a fields = given? a fields' := fun a => by
    rw [given?, given?, same]
  rw [check_eq_ok_iff] at fits ⊢
  refine ⟨fun key mem => fits.1 key ?_, ?_, ?_⟩
  · rwa [← Json.isSome_get?_iff, ← same, Json.isSome_get?_iff]
  · simpa only [firstWrong?, values] using fits.2.1
  · simpa only [givenValues, values] using fits.2.2

end Tool

end HostMonitor
