import HostMonitor.Proofs.Utf8
import Mathlib.Data.List.Infix

/-!
# Bytes that spell no text

Where the bytes of no character stand there is a fault.  Its part of the bytes is as long as it
can be while it begins some character, and one byte long when no character begins so.
`Shows` says which text any bytes show: their characters in order, and one replacement
character for each faulty part.

Bytes that lead a sequence on until it takes no more are such a part, as every sequence that
has begun can be completed.
-/

namespace HostMonitor.Text.Utf8

/-! ## What bytes show -/

/-- The part stands where no character does.  It is the longest part there that begins a
character, or one byte. -/
structure Faulty (part rest : List UInt8) : Prop where
  unreadable : ∀ c, ¬ String.utf8EncodeChar c <+: part ++ rest
  filled : part ≠ []
  opens : part.length = 1 ∨ ∃ c, part <+: String.utf8EncodeChar c
  longest : ∀ longer, longer <+: part ++ rest → part.length < longer.length →
    ∀ c, ¬ longer <+: String.utf8EncodeChar c

/-- The text that bytes show. -/
inductive Shows : List UInt8 → List Char → Prop
  | done : Shows [] []
  | char {c : Char} {rest : List UInt8} {text : List Char} : Shows rest text →
      Shows (String.utf8EncodeChar c ++ rest) (c :: text)
  | fault {part rest : List UInt8} {text : List Char} : Faulty part rest → Shows rest text →
      Shows (part ++ rest) (replacement :: text)

/-- In the same bytes there is one faulty part. -/
theorem Faulty.unique {part part' rest rest' : List UInt8} (h : Faulty part rest)
    (h' : Faulty part' rest') (whole : part ++ rest = part' ++ rest') :
    part = part' ∧ rest = rest' := by
  have notShorter {p p' r r' : List UInt8} (f : Faulty p r) (f' : Faulty p' r')
      (same : p ++ r = p' ++ r') : ¬ p.length < p'.length := by
    intro shorter
    obtain one | ⟨c, opens⟩ := f'.opens
    · have := List.length_pos_of_ne_nil f.filled
      omega
    · exact f.longest p' (same ▸ List.prefix_append p' r') shorter c opens
  have short := notShorter h h' whole
  have short' := notShorter h' h whole.symm
  exact List.append_inj whole (by omega)

/-! ## Sequences that have begun -/

/-- There is a byte that the sequence takes next. -/
def Pending.Sensible (p : Pending) : Prop := p.low ≤ p.high ∧ p.high < 256

/-- The bytes lead from one sequence that has begun to another. -/
inductive Pending.Leads : Pending → List UInt8 → Pending → Prop
  | refl {p : Pending} : Leads p [] p
  | step {p q r : Pending} {b : UInt8} {bytes : List UInt8} : p.takes b.toNat = true →
      p.push b.toNat = .inr q → Leads q bytes r → Leads p (b :: bytes) r

theorem sensible_of_push {p q : Pending} {b : Nat} (pushed : p.push b = .inr q) :
    q.Sensible ∧ q.missing < p.missing := by
  rw [Pending.push] at pushed
  split at pushed
  · cases pushed
  · cases pushed
    exact ⟨by simp [Pending.Sensible], by dsimp only; omega⟩

theorem sensible_of_start {b : Nat} {p : Pending} (begun : start b = .pending p) : p.Sensible := by
  rw [start] at begun
  split_ifs at begun <;> cases begun <;> simp [Pending.Sensible]

variable {p q : Pending} {c : Char} {bytes tail : List UInt8}

theorem Pending.Leads.sensible (h : p.Leads bytes q) (sensible : p.Sensible) : q.Sensible := by
  induction h with
  | refl => exact sensible
  | step _ pushed _ ih => exact ih (sensible_of_push pushed).1

theorem completes_cons {b : UInt8} (takes : p.takes b.toNat = true)
    (pushed : p.push b.toNat = .inr q) :
    p.Completes c (b :: tail) ↔ q.Completes c tail := by
  rw [Pending.Completes, pushed]
  exact and_iff_right takes

theorem completes_last {b : UInt8} (takes : p.takes b.toNat = true)
    (pushed : p.push b.toNat = .inl c) : p.Completes c [b] := by
  rw [Pending.Completes, pushed]
  exact ⟨takes, rfl, rfl⟩

/-- Every sequence that has begun can be completed. -/
theorem exists_completes {p : Pending} (sensible : p.Sensible) :
    ∃ c tail, p.Completes c tail := by
  induction missing : p.missing using Nat.strongRecOn generalizing p with
  | ind n ih =>
      -- the least byte that it takes leads on, and fewer are missing then
      obtain ⟨some, byte⟩ := sensible
      obtain ⟨b, value⟩ : ∃ b : UInt8, b.toNat = p.low :=
        ⟨.ofNat p.low, (ofNat_eq_iff (by omega)).mp rfl⟩
      have takes : p.takes b.toNat = true := by simp [Pending.takes, value, some]
      cases pushed : p.push b.toNat with
      | inl c => exact ⟨c, [b], completes_last takes pushed⟩
      | inr q =>
          obtain ⟨sensible, fewer⟩ := sensible_of_push pushed
          obtain ⟨c, tail, completes⟩ := ih q.missing (missing ▸ fewer) sensible rfl
          exact ⟨c, b :: tail, (completes_cons takes pushed).mpr completes⟩

/-- What leads on is completed as what it leads to. -/
theorem completes_append (h : p.Leads bytes q) :
    p.Completes c (bytes ++ tail) ↔ q.Completes c tail := by
  induction h with
  | refl => exact Iff.rfl
  | step takes pushed _ ih => rw [List.cons_append, completes_cons takes pushed, ih]

/-- What leads on completes nothing on its way. -/
theorem not_completes_of_leads {more : List UInt8} (h : p.Leads (bytes ++ more) q) :
    ¬ p.Completes c bytes := by
  induction bytes generalizing p with
  | nil => exact id
  | cons b bytes ih =>
      cases h with
      | step takes pushed h =>
          rw [completes_cons takes pushed]
          exact ih h

theorem unitsFrom_leads (h : p.Leads bytes q) (read : List (Option Char)) (rest : List UInt8) :
    unitsFrom read (some p) (bytes ++ rest) = unitsFrom read (some q) rest := by
  induction h with
  | refl => rfl
  | step takes pushed _ ih =>
      rw [List.cons_append, unitsFrom]
      simp only [takes, if_true, pushed, ih]

/-- A sequence is completed, or led on to where it takes no more. -/
theorem completes_or_leads (p : Pending) (bytes : List UInt8) :
    (∃ c tail rest, bytes = tail ++ rest ∧ p.Completes c tail) ∨
      ∃ q part rest, bytes = part ++ rest ∧ p.Leads part q ∧
        ∀ b ∈ rest.head?, q.takes b.toNat = false := by
  induction bytes generalizing p with
  | nil => exact .inr ⟨p, [], [], rfl, .refl, nofun⟩
  | cons b bytes ih =>
      cases takes : p.takes b.toNat with
      | false =>
          refine .inr ⟨p, [], b :: bytes, rfl, .refl, ?_⟩
          rintro _ ⟨⟩
          exact takes
      | true =>
          cases pushed : p.push b.toNat with
          | inl c => exact .inl ⟨c, [b], bytes, rfl, completes_last takes pushed⟩
          | inr q =>
              obtain ⟨c, tail, rest, rfl, completes⟩ | ⟨r, part, rest, rfl, leads, stuck⟩ := ih q
              · exact .inl ⟨c, b :: tail, rest, rfl, (completes_cons takes pushed).mpr completes⟩
              · exact .inr ⟨r, b :: part, rest, rfl, .step takes pushed leads, stuck⟩

theorem unitsFrom_stuck {rest : List UInt8} (stuck : ∀ b ∈ rest.head?, q.takes b.toNat = false)
    (read : List (Option Char)) :
    unitsFrom read (some q) rest = unitsFrom (none :: read) none rest := by
  cases rest with
  | nil => rfl
  | cons b rest =>
      rw [unitsFrom, unitsFrom]
      simp only [stuck b rfl, Bool.false_eq_true, if_false]

/-! ## Faults -/

theorem begin_read (read : List (Option Char)) (b : Nat) :
    begin read b = ((begin [] b).1 ++ read, (begin [] b).2) := by
  rw [begin, begin]
  cases start b <;> rfl

/-- What has been read stands in front. -/
theorem unitsFrom_read (read : List (Option Char)) (open? : Option Pending) (bytes : List UInt8) :
    unitsFrom read open? bytes = read.reverse ++ unitsFrom [] open? bytes := by
  induction bytes generalizing read open? with
  | nil => cases open? <;> simp [unitsFrom]
  | cons b bytes ih =>
      have next (read : List (Option Char)) :
          unitsFrom (begin read b.toNat).1 (begin read b.toNat).2 bytes =
            read.reverse ++ unitsFrom (begin [] b.toNat).1 (begin [] b.toNat).2 bytes := by
        rw [begin_read read, ih, ih (begin [] b.toNat).1, List.reverse_append, List.append_assoc]
      cases open? with
      | none => exact next read
      | some p =>
          rw [unitsFrom, unitsFrom]
          split
          · cases p.push b.toNat with
            | inl c =>
                dsimp only
                rw [ih, ih [some c], List.reverse_cons, List.append_assoc]
                rfl
            | inr q => exact ih read (some q)
          · dsimp only
            rw [next (none :: read), next [none], List.reverse_cons, List.append_assoc]
            rfl

theorem units_char (c : Char) (rest : List UInt8) :
    units (String.utf8EncodeChar c ++ rest) = some c :: units rest := by
  rw [units, unitsFrom_sequence (sequence_encodeChar c), unitsFrom_read]
  rfl

/-- A character begins with a byte that starts its sequence. -/
theorem encodeChar_eq_cons {b : UInt8} (e : String.utf8EncodeChar c = b :: tail) :
    start b.toNat = .char c ∧ tail = [] ∨ ∃ p, start b.toNat = .pending p ∧ p.Completes c tail := by
  have sequence := sequence_encodeChar c
  rw [e, Sequence] at sequence
  cases begun : start b.toNat with
  | char d =>
      rw [begun] at sequence
      exact .inl ⟨by rw [sequence.1], sequence.2⟩
  | pending p =>
      rw [begun] at sequence
      exact .inr ⟨p, rfl, sequence⟩
  | fault =>
      rw [begun] at sequence
      exact sequence.elim

/-- A part with no character inside is faulty when no longer one begins a character. -/
theorem Faulty.of_longest {part rest : List UInt8} (filled : part ≠ [])
    (opens : part.length = 1 ∨ ∃ c, part <+: String.utf8EncodeChar c)
    (longest : ∀ longer, longer <+: part ++ rest → part.length < longer.length →
      ∀ c, ¬ longer <+: String.utf8EncodeChar c)
    (inside : ∀ c, ¬ String.utf8EncodeChar c <+: part) : Faulty part rest where
  unreadable := by
    intro c char
    by_cases short : (String.utf8EncodeChar c).length ≤ part.length
    · exact inside c (List.prefix_of_prefix_length_le char (List.prefix_append part rest) short)
    · exact longest _ char (not_le.mp short) c List.prefix_rfl
  filled := filled
  opens := opens
  longest := longest

theorem faulty_of_start {b : UInt8} (begun : start b.toNat = .fault) (rest : List UInt8) :
    Faulty [b] rest := by
  have foreign (c : Char) (more : List UInt8) : String.utf8EncodeChar c ≠ b :: more := by
    intro e
    obtain ⟨other, -⟩ | ⟨p, other, -⟩ := encodeChar_eq_cons e
    · cases begun.symm.trans other
    · cases begun.symm.trans other
  refine .of_longest (List.cons_ne_nil _ _) (.inl rfl) ?_ ?_
  · intro longer ahead long c ⟨tail, e⟩
    obtain ⟨more, rfl⟩ :=
      List.prefix_of_prefix_length_le (List.prefix_append [b] rest) ahead long.le
    exact foreign c _ e.symm
  · intro c ⟨more, e⟩
    obtain ⟨d, tail, own⟩ := List.exists_cons_of_ne_nil (String.utf8EncodeChar_ne_nil (c := c))
    rw [own] at e
    obtain ⟨rfl, -⟩ := List.cons.inj e
    exact foreign c tail own

theorem faulty_of_stuck {b : UInt8} {part rest : List UInt8} (begun : start b.toNat = .pending p)
    (leads : p.Leads part q) (stuck : ∀ b ∈ rest.head?, q.takes b.toNat = false) :
    Faulty (b :: part) rest := by
  refine .of_longest (List.cons_ne_nil _ _) (.inr ?_) ?_ ?_
  · obtain ⟨c, tail, completes⟩ := exists_completes (leads.sensible (sensible_of_start begun))
    have sequence :=
      (sequence_cons_of_pending begun c _).mpr ((completes_append leads).mpr completes)
    exact ⟨c, tail, eq_encodeChar_of_sequence sequence⟩
  · intro longer ahead long c ⟨tail, e⟩
    -- a longer part goes on with a byte that the sequence does not take
    obtain ⟨more, rfl⟩ :=
      List.prefix_of_prefix_length_le (List.prefix_append (b :: part) rest) ahead long.le
    obtain ⟨x, more, rfl⟩ : ∃ x l, more = x :: l :=
      List.exists_cons_of_ne_nil fun none => by simp [none] at long
    obtain ⟨rest, rfl⟩ := (List.prefix_append_right_inj _).mp ahead
    have whole : String.utf8EncodeChar c = b :: (part ++ (x :: more ++ tail)) := by
      rw [← e, List.append_assoc]
      rfl
    obtain ⟨other, -⟩ | ⟨p', begun', completes⟩ := encodeChar_eq_cons whole
    · cases begun.symm.trans other
    cases begun.symm.trans begun'
    have takes := ((completes_append leads).mp completes).1
    exact Bool.false_ne_true ((stuck x rfl).symm.trans takes)
  · intro c ⟨more, e⟩
    obtain ⟨d, tail, own⟩ := List.exists_cons_of_ne_nil (String.utf8EncodeChar_ne_nil (c := c))
    rw [own] at e
    cases e
    obtain ⟨other, -⟩ | ⟨p', begun', completes⟩ := encodeChar_eq_cons own
    · cases begun.symm.trans other
    · cases begun.symm.trans begun'
      exact not_completes_of_leads leads completes

/-- Bytes begin with a character, or with a faulty part that is read as a fault. -/
theorem char_or_fault {bytes : List UInt8} (filled : bytes ≠ []) :
    (∃ c rest, bytes = String.utf8EncodeChar c ++ rest) ∨
      ∃ part rest, bytes = part ++ rest ∧ Faulty part rest ∧ units bytes = none :: units rest := by
  obtain ⟨b, bytes, rfl⟩ := List.exists_cons_of_ne_nil filled
  cases begun : start b.toNat with
  | char c =>
      have sequence : Sequence c [b] := by
        rw [Sequence, begun]
        exact ⟨rfl, rfl⟩
      exact .inl ⟨c, bytes, by rw [← eq_encodeChar_of_sequence sequence]; rfl⟩
  | fault =>
      refine .inr ⟨[b], bytes, rfl, faulty_of_start begun bytes, ?_⟩
      rw [units, unitsFrom, begin, begun]
      exact unitsFrom_read [none] none bytes
  | pending p =>
      obtain ⟨c, tail, rest, rfl, completes⟩ | ⟨q, part, rest, rfl, leads, stuck⟩ :=
        completes_or_leads p bytes
      · have sequence := (sequence_cons_of_pending begun c tail).mpr completes
        exact .inl ⟨c, rest, by rw [← eq_encodeChar_of_sequence sequence]; rfl⟩
      · refine .inr ⟨b :: part, rest, rfl, faulty_of_stuck begun leads stuck, ?_⟩
        rw [units, unitsFrom, begin, begun]
        exact (unitsFrom_leads leads [] rest).trans
          ((unitsFrom_stuck stuck []).trans (unitsFrom_read [none] none rest))

/-- A faulty part is read as a fault. -/
theorem units_fault {part rest : List UInt8} (h : Faulty part rest) :
    units (part ++ rest) = none :: units rest := by
  obtain ⟨c, more, e⟩ | ⟨part', rest', e, fault, read⟩ :=
    char_or_fault (List.append_ne_nil_of_left_ne_nil h.filled rest)
  · exact absurd (e ▸ List.prefix_append _ _) (h.unreadable c)
  · rw [read, (h.unique fault e).2]

theorem shows_decodeLossy (bytes : List UInt8) : Shows bytes (decodeLossy bytes) := by
  by_cases filled : bytes = []
  · rw [filled]
    exact .done
  obtain ⟨c, rest, e⟩ | ⟨part, rest, e, fault, read⟩ := char_or_fault filled
  · have shorter : rest.length < bytes.length := by
      simp [e, Char.utf8Size_pos]
    rw [e, decodeLossy, units_char, List.map_cons]
    exact .char (shows_decodeLossy rest)
  · have shorter : rest.length < bytes.length := by
      simp [e, List.length_pos_of_ne_nil fault.filled]
    rw [decodeLossy, read, List.map_cons, e]
    exact .fault fault (shows_decodeLossy rest)
termination_by bytes.length

/-- Bytes show the text that is read from them with replacement characters, and no other. -/
theorem shows_iff {text : List Char} : Shows bytes text ↔ decodeLossy bytes = text := by
  constructor
  · intro h
    induction h with
    | done => rfl
    | @char c rest text _ ih =>
        rw [decodeLossy, units_char, List.map_cons]
        exact congrArg (c :: ·) ih
    | fault h _ ih =>
        rw [decodeLossy, units_fault h, List.map_cons]
        exact congrArg (replacement :: ·) ih
  · rintro rfl
    exact shows_decodeLossy bytes

/-- Two bytes that begin a character, a letter, and a surrogate, each byte of which is at fault. -/
example : decodeLossy [0xE2, 0x82, 0x41, 0xED, 0xA0, 0x80] =
    [replacement, 'A', replacement, replacement, replacement] := by decide

end HostMonitor.Text.Utf8
