import HostMonitor.Host.Command
import HostMonitor.Proofs.Outcomes
import HostMonitor.Text.Utf8
import Mathlib.Data.List.Basic
import Mathlib.Data.Option.Basic
import Mathlib.Tactic.SplitIfs

/-!
# Reading UTF-8 undoes writing it

The strict reading gives a text for exactly the bytes that spell one.  A sequence
that has begun is completed by the bytes that lead it to its character, and a
sequence of bytes is that of a character when its first byte begins it and the
others complete it.  This is the same as being written for the character.
-/

namespace HostMonitor.Text.Utf8

/-- The bytes complete the sequence, which then is the character. -/
def Pending.Completes (p : Pending) (c : Char) : List UInt8 → Prop
  | [] => False
  | b :: rest =>
    p.takes b.toNat = true ∧
      match p.push b.toNat with
      | .inl d => d = c ∧ rest = []
      | .inr q => q.Completes c rest

/-- The bytes are the sequence of the character. -/
def Sequence (c : Char) : List UInt8 → Prop
  | [] => False
  | b :: rest =>
    match start b.toNat with
    | .char d => d = c ∧ rest = []
    | .pending p => p.Completes c rest
    | .fault => False

/-! ## One sequence -/

theorem completes_one {p : Pending} {c : Char} {bytes : List UInt8} (h : p.missing = 1) :
    p.Completes c bytes ↔
      ∃ b, bytes = [b] ∧ p.low ≤ b.toNat ∧ b.toNat ≤ p.high ∧
        Char.ofNat (p.bits * 64 + b.toNat % 64) = c := by
  cases bytes with
  | nil => simp [Pending.Completes]
  | cons b rest => simp [Pending.Completes, Pending.takes, Pending.push, h, and_assoc]; grind

theorem completes_more {p : Pending} {c : Char} {bytes : List UInt8} (h : 1 < p.missing) :
    p.Completes c bytes ↔
      ∃ b rest, bytes = b :: rest ∧ p.low ≤ b.toNat ∧ b.toNat ≤ p.high ∧
        Pending.Completes ⟨p.missing - 1, p.bits * 64 + b.toNat % 64, 0x80, 0xBF⟩ c rest := by
  have hp : ¬ p.missing ≤ 1 := by omega
  cases bytes with
  | nil => simp [Pending.Completes]
  | cons b rest => simp [Pending.Completes, Pending.takes, Pending.push, hp, and_assoc]

/-! ## The bytes of a character -/

theorem toNat_val (c : Char) : c.val.toNat = c.toNat := rfl

theorem ofNat_eq_iff {b : UInt8} {n : Nat} (h : n < 256) : UInt8.ofNat n = b ↔ b.toNat = n := by
  rw [← UInt8.toNat_inj, UInt8.toNat_ofNat', Nat.mod_eq_of_lt h]
  exact eq_comm

theorem toNat_lt (c : Char) : c.toNat < 0xD800 ∨ 0xDFFF < c.toNat ∧ c.toNat < 0x110000 := c.valid

theorem encodeChar_one {c : Char} (h : c.toNat ≤ 0x7F) (bytes : List UInt8) :
    bytes = String.utf8EncodeChar c ↔ ∃ b, bytes = [b] ∧ b.toNat = c.toNat := by
  rw [String.utf8EncodeChar, toNat_val, if_pos h]
  constructor
  · rintro rfl
    exact ⟨_, rfl, (ofNat_eq_iff (by omega)).mp rfl⟩
  · rintro ⟨b, rfl, hb⟩
    rw [(ofNat_eq_iff (by omega)).mpr hb]

theorem encodeChar_two {c : Char} (h : 0x7F < c.toNat) (h' : c.toNat ≤ 0x7FF)
    (bytes : List UInt8) :
    bytes = String.utf8EncodeChar c ↔
      ∃ a b, bytes = [a, b] ∧ a.toNat = c.toNat / 64 + 0xC0 ∧ b.toNat = c.toNat % 64 + 0x80 := by
  rw [String.utf8EncodeChar, toNat_val, if_neg (by omega), if_pos h']
  constructor
  · rintro rfl
    refine ⟨_, _, rfl, ?_, ?_⟩
    · rw [(ofNat_eq_iff (by omega)).mp rfl]
      omega
    · exact (ofNat_eq_iff (by omega)).mp rfl
  · rintro ⟨a, b, rfl, ha, hb⟩
    rw [(ofNat_eq_iff (by omega)).mpr (show a.toNat = c.toNat / 64 % 0x20 + 0xC0 by omega),
      (ofNat_eq_iff (by omega)).mpr hb]

theorem encodeChar_three {c : Char} (h : 0x7FF < c.toNat) (h' : c.toNat ≤ 0xFFFF)
    (bytes : List UInt8) :
    bytes = String.utf8EncodeChar c ↔
      ∃ a b d, bytes = [a, b, d] ∧ a.toNat = c.toNat / 4096 + 0xE0 ∧
        b.toNat = c.toNat / 64 % 64 + 0x80 ∧ d.toNat = c.toNat % 64 + 0x80 := by
  rw [String.utf8EncodeChar, toNat_val, if_neg (by omega), if_neg (by omega), if_pos h']
  constructor
  · rintro rfl
    refine ⟨_, _, _, rfl, ?_, ?_, ?_⟩
    · rw [(ofNat_eq_iff (by omega)).mp rfl]
      omega
    · exact (ofNat_eq_iff (by omega)).mp rfl
    · exact (ofNat_eq_iff (by omega)).mp rfl
  · rintro ⟨a, b, d, rfl, ha, hb, hd⟩
    rw [(ofNat_eq_iff (by omega)).mpr (show a.toNat = c.toNat / 4096 % 0x10 + 0xE0 by omega),
      (ofNat_eq_iff (by omega)).mpr hb, (ofNat_eq_iff (by omega)).mpr hd]

theorem encodeChar_four {c : Char} (h : 0xFFFF < c.toNat) (bytes : List UInt8) :
    bytes = String.utf8EncodeChar c ↔
      ∃ a b d e, bytes = [a, b, d, e] ∧ a.toNat = c.toNat / 262144 + 0xF0 ∧
        b.toNat = c.toNat / 4096 % 64 + 0x80 ∧ d.toNat = c.toNat / 64 % 64 + 0x80 ∧
        e.toNat = c.toNat % 64 + 0x80 := by
  have last := toNat_lt c
  rw [String.utf8EncodeChar, toNat_val, if_neg (by omega), if_neg (by omega), if_neg (by omega)]
  constructor
  · rintro rfl
    refine ⟨_, _, _, _, rfl, ?_, ?_, ?_, ?_⟩
    · rw [(ofNat_eq_iff (by omega)).mp rfl]
      omega
    · exact (ofNat_eq_iff (by omega)).mp rfl
    · exact (ofNat_eq_iff (by omega)).mp rfl
    · exact (ofNat_eq_iff (by omega)).mp rfl
  · rintro ⟨a, b, d, e, rfl, ha, hb, hd, he⟩
    rw [(ofNat_eq_iff (by omega)).mpr (show a.toNat = c.toNat / 262144 % 0x08 + 0xF0 by omega),
      (ofNat_eq_iff (by omega)).mpr hb, (ofNat_eq_iff (by omega)).mpr hd,
      (ofNat_eq_iff (by omega)).mpr he]

/-! ## The sequence of a character -/

theorem start_two {b : Nat} (h : 0xC2 ≤ b) (h' : b < 0xE0) :
    start b = .pending ⟨1, b - 0xC0, 0x80, 0xBF⟩ := by
  rw [start, if_neg (by omega), if_neg (by omega), if_pos h']

/-- The first byte of three leaves bounds for the second. -/
theorem start_three {b : Nat} (h : 0xE0 ≤ b) (h' : b < 0xF0) :
    start b = .pending ⟨2, b - 0xE0, if b = 0xE0 then 0xA0 else 0x80,
      if b = 0xED then 0x9F else 0xBF⟩ := by
  rw [start, if_neg (by omega), if_neg (by omega), if_neg (by omega)]
  by_cases h0 : b = 0xE0
  · subst h0
    rfl
  by_cases hD : b = 0xED
  · subst hD
    rfl
  rw [if_neg h0, if_neg hD, if_pos h', if_neg h0, if_neg hD]

/-- The first byte of four leaves bounds for the second. -/
theorem start_four {b : Nat} (h : 0xF0 ≤ b) (h' : b ≤ 0xF4) :
    start b = .pending ⟨3, b - 0xF0, if b = 0xF0 then 0x90 else 0x80,
      if b = 0xF4 then 0x8F else 0xBF⟩ := by
  rw [start, if_neg (by omega), if_neg (by omega), if_neg (by omega), if_neg (by omega),
    if_neg (by omega), if_neg (by omega)]
  by_cases h0 : b = 0xF0
  · subst h0
    rfl
  by_cases h4 : b = 0xF4
  · subst h4
    rfl
  rw [if_neg h0, if_pos (by omega), if_neg h0, if_neg h4]

theorem start_fault {b : Nat} (h : 0x80 ≤ b ∧ b < 0xC2 ∨ 0xF4 < b) : start b = .fault := by
  rw [start, if_neg (by omega)]
  by_cases h2 : b < 0xC2
  · rw [if_pos h2]
  rw [if_neg h2, if_neg (by omega), if_neg (by omega), if_neg (by omega), if_neg (by omega),
    if_neg (by omega), if_neg (by omega), if_neg (by omega)]

theorem ofNat_eq_char_iff {n : Nat} {c : Char} (h : n.isValidChar) :
    Char.ofNat n = c ↔ c.toNat = n := by
  constructor
  · rintro rfl
    exact toNat_ofNat_of_valid h
  · rintro rfl
    exact Char.ofNat_toNat c

theorem sequence_cons_of_pending {a : UInt8} {p : Pending} (h : start a.toNat = .pending p)
    (c : Char) (rest : List UInt8) : Sequence c (a :: rest) ↔ p.Completes c rest := by
  rw [Sequence, h]

/-- The bytes of a sequence are written for its character. -/
theorem eq_encodeChar_of_sequence {c : Char} {bytes : List UInt8} (h : Sequence c bytes) :
    bytes = String.utf8EncodeChar c := by
  cases bytes with
  | nil => cases h
  | cons a rest =>
      have ha := a.toNat_lt
      by_cases h1 : a.toNat < 0x80
      · rw [Sequence, start, if_pos h1] at h
        obtain ⟨hc, rfl⟩ := h
        rw [ofNat_eq_char_iff (.inl (by omega))] at hc
        exact (encodeChar_one (by omega) _).mpr ⟨a, rfl, hc.symm⟩
      by_cases hf : a.toNat < 0xC2 ∨ 0xF4 < a.toNat
      · rw [Sequence, start_fault (by omega)] at h
        cases h
      by_cases h2 : a.toNat < 0xE0
      · rw [sequence_cons_of_pending (start_two (by omega) h2), completes_one rfl] at h
        obtain ⟨b, rfl, low, high, hc⟩ := h
        simp only at low high hc
        rw [ofNat_eq_char_iff (.inl (by omega))] at hc
        exact (encodeChar_two (by omega) (by omega) _).mpr ⟨a, b, rfl, by omega, by omega⟩
      by_cases h3 : a.toNat < 0xF0
      · rw [sequence_cons_of_pending (start_three (by omega) h3),
          completes_more (by simp)] at h
        obtain ⟨b, _, rfl, low, high, h⟩ := h
        obtain ⟨d, rfl, low', high', hc⟩ := (completes_one rfl).mp h
        simp only at low high low' high' hc
        have bounds : 0x800 ≤ (a.toNat - 0xE0) * 4096 + b.toNat % 64 * 64 ∧
            ((a.toNat - 0xE0) * 4096 + b.toNat % 64 * 64 < 0xD800 ∨
              0xE000 ≤ (a.toNat - 0xE0) * 4096 + b.toNat % 64 * 64) := by
          split_ifs at low high <;> omega
        have low0 : 0x80 ≤ b.toNat := by split_ifs at low <;> omega
        have high0 : b.toNat ≤ 0xBF := by split_ifs at high <;> omega
        rw [ofNat_eq_char_iff (by simp only [Nat.isValidChar]; omega)] at hc
        exact (encodeChar_three (by omega) (by omega) _).mpr
          ⟨a, b, d, rfl, by omega, by omega, by omega⟩
      · rw [sequence_cons_of_pending (start_four (by omega) (by omega)),
          completes_more (by simp)] at h
        obtain ⟨b, _, rfl, low, high, h⟩ := h
        obtain ⟨d, _, rfl, low', high', h⟩ := (completes_more (by simp)).mp h
        obtain ⟨e, rfl, low'', high'', hc⟩ := (completes_one rfl).mp h
        simp only at low high low' high' low'' high'' hc
        have bounds : 0x10000 ≤ (a.toNat - 0xF0) * 262144 + b.toNat % 64 * 4096 ∧
            (a.toNat - 0xF0) * 262144 + b.toNat % 64 * 4096 < 0x110000 := by
          split_ifs at low high <;> omega
        have low0 : 0x80 ≤ b.toNat := by split_ifs at low <;> omega
        have high0 : b.toNat ≤ 0xBF := by split_ifs at high <;> omega
        rw [ofNat_eq_char_iff (by simp only [Nat.isValidChar]; omega)] at hc
        exact (encodeChar_four (by omega) _).mpr
          ⟨a, b, d, e, rfl, by omega, by omega, by omega, by omega⟩

/-- What is written for a character is its sequence. -/
theorem sequence_encodeChar (c : Char) : Sequence c (String.utf8EncodeChar c) := by
  have valid := toNat_lt c
  by_cases h1 : c.toNat ≤ 0x7F
  · obtain ⟨a, e, ha⟩ := (encodeChar_one h1 _).mp rfl
    rw [e, Sequence, start, if_pos (by omega), ha]
    exact ⟨Char.ofNat_toNat c, rfl⟩
  by_cases h2 : c.toNat ≤ 0x7FF
  · obtain ⟨a, b, e, ha, hb⟩ := (encodeChar_two (by omega) h2 _).mp rfl
    rw [e, sequence_cons_of_pending (start_two (by omega) (by omega)), completes_one rfl]
    refine ⟨b, rfl, by simp only; omega, by simp only; omega, ?_⟩
    rw [ofNat_eq_char_iff (by simp only [Nat.isValidChar]; omega)]
    simp only
    omega
  by_cases h3 : c.toNat ≤ 0xFFFF
  · obtain ⟨a, b, d, e, ha, hb, hd⟩ := (encodeChar_three (by omega) h3 _).mp rfl
    rw [e, sequence_cons_of_pending (start_three (by omega) (by omega)),
      completes_more (by simp)]
    refine ⟨b, _, rfl, by simp only; split_ifs <;> omega, by simp only; split_ifs <;> omega, ?_⟩
    rw [completes_one rfl]
    refine ⟨d, rfl, by simp only; omega, by simp only; omega, ?_⟩
    rw [ofNat_eq_char_iff (by simp only [Nat.isValidChar]; omega)]
    simp only
    omega
  · obtain ⟨a, b, d, f, e, ha, hb, hd, hf⟩ := (encodeChar_four (c := c) (by omega) _).mp rfl
    rw [e, sequence_cons_of_pending (start_four (by omega) (by omega)),
      completes_more (by simp)]
    refine ⟨b, _, rfl, by simp only; split_ifs <;> omega, by simp only; split_ifs <;> omega, ?_⟩
    rw [completes_more (by simp)]
    refine ⟨d, _, rfl, by simp only; omega, by simp only; omega, ?_⟩
    rw [completes_one rfl]
    refine ⟨f, rfl, by simp only; omega, by simp only; omega, ?_⟩
    rw [ofNat_eq_char_iff (by simp only [Nat.isValidChar]; omega)]
    simp only
    omega

/-! ## Runs over bytes -/

/-- Bytes that complete a sequence give its character. -/
theorem unitsFrom_completes {c : Char} :
    ∀ {tail : List UInt8} {p : Pending}, p.Completes c tail →
      ∀ (read : List (Option Char)) (rest : List UInt8),
        unitsFrom read (some p) (tail ++ rest) = unitsFrom (some c :: read) none rest
  | [], _, h => nomatch h
  | b :: tail, p, ⟨takes, h⟩ => by
      intro read rest
      rw [List.cons_append, unitsFrom]
      simp only [takes, if_true]
      cases e : p.push b.toNat with
      | inl d =>
          rw [e] at h
          obtain ⟨rfl, rfl⟩ := h
          rfl
      | inr q =>
          rw [e] at h
          exact unitsFrom_completes h read rest

/-- The sequence of a character is read as the character. -/
theorem unitsFrom_sequence {c : Char} {bytes : List UInt8} (h : Sequence c bytes)
    (read : List (Option Char)) (rest : List UInt8) :
    unitsFrom read none (bytes ++ rest) = unitsFrom (some c :: read) none rest := by
  cases bytes with
  | nil => cases h
  | cons b tail =>
      rw [List.cons_append, unitsFrom]
      simp only [begin]
      rw [Sequence] at h
      cases e : start b.toNat with
      | char d =>
          rw [e] at h
          obtain ⟨rfl, rfl⟩ := h
          rfl
      | pending p =>
          rw [e] at h
          exact unitsFrom_completes h read rest
      | fault =>
          rw [e] at h
          cases h

theorem encode_cons (c : Char) (cs : List Char) :
    encode (c :: cs) = String.utf8EncodeChar c ++ encode cs := List.flatMap_cons

theorem unitsFrom_encode :
    ∀ (cs : List Char) (read : List (Option Char)),
      unitsFrom read none (encode cs) = read.reverse ++ cs.map some
  | [], read => by simp [encode, unitsFrom]
  | c :: cs, read => by
      rw [encode_cons, unitsFrom_sequence (sequence_encodeChar c)]
      exact (unitsFrom_encode cs (some c :: read)).trans (by simp)

/-- Characters are read back from their bytes. -/
theorem decodeLossy_encode (cs : List Char) : decodeLossy (encode cs) = cs := by
  rw [decodeLossy, units, unitsFrom_encode, List.reverse_nil, List.nil_append, List.map_map]
  exact List.map_id cs

/-- What has been read stays. -/
theorem mem_unitsFrom {u : Option Char} :
    ∀ (bytes : List UInt8) {read : List (Option Char)} (open? : Option Pending),
      u ∈ read → u ∈ unitsFrom read open? bytes
  | [], read, open?, h => by
      rw [unitsFrom, List.mem_reverse]
      split
      · exact List.mem_cons_of_mem _ h
      · exact h
  | b :: rest, read, open?, h => by
      have step : ∀ {read : List (Option Char)}, u ∈ read → u ∈ (begin read b.toNat).1 := by
        intro read h
        rw [begin]
        split
        · exact List.mem_cons_of_mem _ h
        · exact h
        · exact List.mem_cons_of_mem _ h
      cases open? with
      | none => exact mem_unitsFrom rest _ (step h)
      | some p =>
          rw [unitsFrom]
          split
          · split
            · exact mem_unitsFrom rest _ (List.mem_cons_of_mem _ h)
            · exact mem_unitsFrom rest _ h
          · exact mem_unitsFrom rest _ (step (List.mem_cons_of_mem _ h))

/-- A sequence that begins and leads to no fault is completed. -/
theorem completes_of_faultless :
    ∀ {bytes : List UInt8} {p : Pending} {read : List (Option Char)},
      none ∉ unitsFrom read (some p) bytes →
        ∃ c tail rest, bytes = tail ++ rest ∧ p.Completes c tail
  | [], p, read, h => by simp [unitsFrom] at h
  | b :: bytes, p, read, h => by
      rw [unitsFrom] at h
      cases takes : p.takes b.toNat with
      | false =>
          simp only [takes] at h
          have : none ∈ (begin (none :: read) b.toNat).1 := by
            rw [begin]
            split <;> simp
          exact absurd (mem_unitsFrom bytes _ this) h
      | true =>
          simp only [takes, if_true] at h
          cases e : p.push b.toNat with
          | inl c =>
              refine ⟨c, [b], bytes, rfl, takes, ?_⟩
              rw [e]
              exact ⟨rfl, rfl⟩
          | inr q =>
              rw [e] at h
              obtain ⟨c, tail, rest, rfl, hq⟩ := completes_of_faultless h
              refine ⟨c, b :: tail, rest, rfl, takes, ?_⟩
              rw [e]
              exact hq

/-- Bytes that lead to no fault start with a sequence. -/
theorem sequence_of_faultless {b : UInt8} {bytes : List UInt8} {read : List (Option Char)}
    (h : none ∉ unitsFrom read none (b :: bytes)) :
    ∃ c tail rest, bytes = tail ++ rest ∧ Sequence c (b :: tail) := by
  rw [unitsFrom] at h
  simp only [begin] at h
  cases e : start b.toNat with
  | char c =>
      refine ⟨c, [], bytes, rfl, ?_⟩
      rw [Sequence, e]
      exact ⟨rfl, rfl⟩
  | pending p =>
      rw [e] at h
      obtain ⟨c, tail, rest, rfl, hp⟩ := completes_of_faultless h
      exact ⟨c, tail, rest, rfl, (sequence_cons_of_pending e c tail).mpr hp⟩
  | fault =>
      rw [e] at h
      exact absurd (mem_unitsFrom bytes _ List.mem_cons_self) h

theorem encode_of_faultless (bytes : List UInt8) (read : List (Option Char))
    (h : none ∉ unitsFrom read none bytes) : ∃ cs, bytes = encode cs := by
  match bytes with
  | [] => exact ⟨[], rfl⟩
  | b :: bytes =>
      obtain ⟨c, tail, rest, e, hc⟩ := sequence_of_faultless h
      have shorter : rest.length ≤ bytes.length := by
        rw [e, List.length_append]
        exact Nat.le_add_left _ _
      rw [e, ← List.cons_append, unitsFrom_sequence hc] at h
      obtain ⟨cs, rfl⟩ := encode_of_faultless rest _ h
      refine ⟨c :: cs, ?_⟩
      rw [e, encode_cons, ← eq_encodeChar_of_sequence hc]
      rfl
termination_by bytes.length
decreasing_by exact Nat.lt_succ_of_le shorter

/-- The strict reading gives a text for exactly the bytes that spell it. -/
theorem decode?_eq_some_iff {bytes : List UInt8} {cs : List Char} :
    decode? bytes = some cs ↔ bytes = encode cs := by
  rw [decode?, mapM_id_eq_some]
  constructor
  · intro h
    have clean : none ∉ unitsFrom [] none bytes := by
      rw [← units, h]
      simp
    obtain ⟨ds, rfl⟩ := encode_of_faultless bytes [] clean
    rw [units, unitsFrom_encode] at h
    rw [List.map_injective_iff.mpr (Option.some_injective Char) h]
  · rintro rfl
    rw [units, unitsFrom_encode]
    rfl

end HostMonitor.Text.Utf8

namespace HostMonitor.Host

/-- A text that a command writes is the text that is read. -/
theorem textOf_encode (text : String) : textOf (Text.Utf8.encode text.toList) = text := by
  rw [textOf, Text.Utf8.decodeLossy_encode, String.ofList_toList]

end HostMonitor.Host
