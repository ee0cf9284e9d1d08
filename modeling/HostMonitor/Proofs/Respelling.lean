import HostMonitor.Journal.Record
import HostMonitor.Proofs.Faults
import HostMonitor.Proofs.Outcomes

/-!
# Texts and their bytes

A field of a record that is a text may as well be the list of its bytes: `Respelled` fields
give the same entry.  Any list of bytes is the text that they show, and a list with anything
else in it is none.
-/

namespace HostMonitor.Journal

open Text

/-- The names of the fields of a record whose texts an entry keeps. -/
def textFields : List String :=
  ["PRIORITY", "_PID", "_SYSTEMD_UNIT", "_HOSTNAME", "MESSAGE", "__CURSOR"]

/-- A text as the list of the bytes that it is written with. -/
def bytesOf (s : String) : Json := .arr ((Utf8.encode s.toList).map fun b => .int b.toNat)

/-- A field is as it was, or it was a text and is the list of its bytes. -/
inductive Respelled : WireText × Json → WireText × Json → Prop
  | same (f : WireText × Json) : Respelled f f
  | bytes {key : String} {s : String} : key ∈ textFields →
      Respelled (.chars key, .ofString s) (.chars key, bytesOf s)

/-- The item stands for the byte. -/
inductive IsByte : Json → UInt8 → Prop
  | int {n : Int} {b : UInt8} : n = b.toNat → IsByte (.int n) b
  | bool (b : Bool) : IsByte (.bool b) (if b then 1 else 0)

theorem byte?_eq_some_iff {item : Json} {b : UInt8} : byte? item = some b ↔ IsByte item b := by
  constructor
  · intro found
    rw [byte?.eq_def] at found
    split at found
    · next n =>
        split at found
        · next inside =>
            have value : b.toNat = n.toNat :=
              (Utf8.ofNat_eq_iff (by omega)).mp (Option.some.inj found)
            exact .int (by omega)
        · cases found
    · cases found
      exact .bool _
    · cases found
  · intro h
    cases h with
    | @int n b value =>
        have below := b.toNat_lt
        rw [byte?, if_pos (by omega), Option.some.injEq, Utf8.ofNat_eq_iff (by omega)]
        omega
    | bool b => rfl

/-- A list of bytes is the text that they show. -/
theorem fieldText_eq_some_iff {items : List Json} {text : String} :
    fieldText (.arr items) = some (.chars text) ↔
      ∃ bytes, List.Forall₂ IsByte items bytes ∧ Utf8.Shows bytes text.toList := by
  simp only [fieldText, Option.map_eq_some_iff, mapM_eq_some_iff, byte?_eq_some_iff,
    Utf8.shows_iff, WireText.chars.injEq, ← String.toList_inj, String.toList_ofList]

/-- It is never a text with a surrogate. -/
theorem chars_of_fieldText {items : List Json} {text : WireText}
    (found : fieldText (.arr items) = some text) : ∃ s, text = .chars s := by
  obtain ⟨bytes, -, rfl⟩ := Option.map_eq_some_iff.mp found
  exact ⟨_, rfl⟩

/-- A list with anything else in it is no text. -/
theorem fieldText_eq_none_iff {items : List Json} :
    fieldText (.arr items) = none ↔ ∃ item ∈ items, ∀ b, ¬ IsByte item b := by
  rw [fieldText, Option.map_eq_none_iff, mapM_eq_none_iff]
  simp only [Option.eq_none_iff_forall_ne_some, ne_eq, byte?_eq_some_iff]

theorem isByte_bytesOf (s : String) : List.Forall₂ IsByte
    ((Utf8.encode s.toList).map fun b => Json.int b.toNat) (Utf8.encode s.toList) := by
  rw [List.forall₂_map_left_iff]
  exact List.forall₂_same.mpr fun b _ => .int rfl

theorem fieldText_bytesOf (s : String) : fieldText (bytesOf s) = some s :=
  fieldText_eq_some_iff.mpr
    ⟨_, isByte_bytesOf s, Utf8.shows_iff.mpr (Utf8.decodeLossy_encode s.toList)⟩

/-! ## Records -/

/-- What a field is found to be after it may have been respelled. -/
theorem get?_respelled {fields fields' : Json.Fields} (h : List.Forall₂ Respelled fields fields')
    (key : WireText) : fields'.get? key = fields.get? key ∨
      ∃ name s, key = .chars name ∧ name ∈ textFields ∧ fields.get? key = some (.ofString s) ∧
        fields'.get? key = some (bytesOf s) := by
  induction h with
  | nil => exact .inl rfl
  | @cons f _ _ _ spelled _ ih =>
      cases spelled with
      | same =>
          obtain ⟨k, v⟩ := f
          rw [Json.Fields.get?, Json.Fields.get?]
          by_cases here : k = key
          · rw [if_pos here, if_pos here]
            exact .inl rfl
          · rw [if_neg here, if_neg here]
            exact ih
      | @bytes name s known =>
          rw [Json.Fields.get?, Json.Fields.get?]
          by_cases here : .chars name = key
          · rw [if_pos here, if_pos here]
            exact .inr ⟨name, s, here.symm, known, rfl, rfl⟩
          · rw [if_neg here, if_neg here]
            exact ih

theorem field_respelled {fields fields' : Json.Fields} (h : List.Forall₂ Respelled fields fields')
    (key : String) : field key fields' = field key fields := by
  rw [field, field]
  obtain same | ⟨name, s, -, -, text, bytes⟩ := get?_respelled h key
  · rw [same]
  · rw [text, bytes, Option.bind_some, fieldText_bytesOf]
    rfl

theorem timeOf_respelled {fields fields' : Json.Fields}
    (h : List.Forall₂ Respelled fields fields') : timeOf fields' = timeOf fields := by
  rw [timeOf, timeOf]
  obtain same | ⟨name, s, own, known, -⟩ := get?_respelled h "__REALTIME_TIMESTAMP"
  · rw [same]
  · cases own
    exact absurd known (by decide)

/-- Fields that are respelled give the same entry. -/
theorem ofRecord_respelled {fields fields' : Json.Fields}
    (h : List.Forall₂ Respelled fields fields') : ofRecord fields' = ofRecord fields := by
  simp only [ofRecord, fieldNumber, timeOf_respelled h, field_respelled h]

/-- Texts and lists of bytes are interchangeable in the fields of a record.  A list of bytes is
the one text that they show, which is the text they are written for, if there is one, and a
list with anything else in it is none. -/
theorem texts_are_bytes :
    (∀ fields fields', List.Forall₂ Respelled fields fields' →
      ofRecord fields' = ofRecord fields) ∧
      (∀ items text, fieldText (.arr items) = some (.chars text) ↔
        ∃ bytes, List.Forall₂ IsByte items bytes ∧ Utf8.Shows bytes text.toList) ∧
      (∀ items text, fieldText (.arr items) = some text → ∃ s, text = .chars s) ∧
      (∀ items, fieldText (.arr items) = none ↔ ∃ item ∈ items, ∀ b, ¬ IsByte item b) ∧
      (∀ bytes, ∃ text, Utf8.Shows bytes text ∧ ∀ text', Utf8.Shows bytes text' → text' = text) ∧
      ∀ cs text, Utf8.Shows (Utf8.encode cs) text ↔ text = cs := by
  refine ⟨fun _ _ => ofRecord_respelled, fun _ _ => fieldText_eq_some_iff,
    fun _ _ => chars_of_fieldText, fun _ => fieldText_eq_none_iff, fun bytes => ?_, fun cs text => ?_⟩
  · refine ⟨_, Utf8.shows_decodeLossy bytes, fun text' shows' => ?_⟩
    exact (Utf8.shows_iff.mp shows').symm
  · rw [Utf8.shows_iff, Utf8.decodeLossy_encode, eq_comm]

/-- A message and a process that are given by their bytes. -/
theorem ofRecord_of_bytes :
    ofRecord [("__REALTIME_TIMESTAMP", .ofString "1772154000000000"),
        ("MESSAGE", .arr [.int 104, .int 195, .int 169]), ("_PID", .arr [.int 55])] =
      ofRecord [("__REALTIME_TIMESTAMP", .ofString "1772154000000000"),
        ("MESSAGE", .ofString "hé"), ("_PID", .ofString "7")] :=
  texts_are_bytes.1 _ _ (.cons (.same _) (.cons (.bytes (s := "hé") (by decide))
    (.cons (.bytes (s := "7") (by decide)) .nil)))

end HostMonitor.Journal
