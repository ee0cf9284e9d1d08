import HostMonitor.Journal.Record
import HostMonitor.Proofs.Documents
import HostMonitor.Proofs.Outcomes
import HostMonitor.Proofs.Quotes

/-!
# Reading back printed records

The host prints a record on a line that ends in a line feed, and writes the
characters of its texts raw when it likes.  Three characters that can stand in a
text end a line for the reader, so it sees some records in pieces.  No entry is
read from a piece: the quotes do not close, or the key of the time would have to
stand outside of quotes.

So the entries are read back exactly when each record that gives one is printed
without the three characters and within the limits of the reader, and no line is
nested so deep that the reader gives up.
-/

namespace HostMonitor.Journal

open Number Text

/-- The character ends a line for the reader, although it can stand inside a
document. -/
def Cuts (c : Char) : Prop := c.toNat = 0x85 ∨ c.toNat = 0x2028 ∨ c.toNat = 0x2029

/-- The text prints the record without raw controls. -/
structure Prints (text : List Char) (fields : Json.Fields) : Prop where
  denotes : ∃ limits, Json.Denotes limits text (.obj fields)
  raw : ∀ c ∈ text, 0x20 ≤ c.toNat

/-- The texts, each on a line of its own. -/
def printed (texts : List (List Char)) : String :=
  String.ofList (texts.flatMap fun text => text ++ ['\n'])

/-- What the reader sees of a text on a line of its own. -/
def pieces (text : List Char) : List (List Char) := lines (text ++ ['\n'])

/-- The line is nested too deep, and the reader gives up. -/
def GivesUp (line : List Char) : Prop :=
  line.all isBlank = false ∧ Json.read lineLimits line = .error .tooDeep

/-- The text of a record gives what the record gives. -/
inductive Kept (text : List Char) : Option Entry → Prop where
  /-- It is seen as a whole, within the limits. -/
  | whole {entry : Option Entry} {doc : Json} :
      (∀ c ∈ text, ¬ Cuts c) → Json.Denotes lineLimits text doc → Kept text entry
  /-- There is nothing to give. -/
  | nothing : (∀ piece ∈ pieces text, ¬ GivesUp piece) → Kept text none

/-! ## Lines -/

/-- Of the characters that a document can hold, the three end lines. -/
theorem isLineEnd_iff {c : Char} (h : 0x20 ≤ c.toNat) : isLineEnd c = true ↔ Cuts c := by
  rw [isLineEnd, covered_iff, Covers, Cuts]
  simp only [lineEndCodes, List.mem_cons, List.not_mem_nil, or_false, exists_eq_or_imp,
    exists_eq_left]
  omega

theorem linesFrom_feed (held rest : List Char) :
    linesFrom held ('\n' :: rest) = held.reverse :: linesFrom [] rest := by
  rw [linesFrom, if_pos (show isLineEnd '\n' = true from rfl)]
  rintro _ ⟨⟩

theorem linesFrom_cons {c : Char} (h : 0x20 ≤ c.toNat) (held rest : List Char) :
    linesFrom held (c :: rest) =
      if isLineEnd c then held.reverse :: linesFrom [] rest else linesFrom (c :: held) rest := by
  rw [linesFrom]
  rintro _ rfl
  exact absurd h (by decide)

theorem linesFrom_append {text : List Char} (raw : ∀ c ∈ text, 0x20 ≤ c.toNat) :
    ∀ held rest : List Char,
      linesFrom held (text ++ '\n' :: rest) = linesFrom held (text ++ ['\n']) ++ lines rest := by
  induction text with
  | nil =>
      intro held rest
      rw [List.nil_append, List.nil_append, linesFrom_feed, linesFrom_feed]
      rfl
  | cons c text ih =>
      intro held rest
      have tail := ih fun d mem => raw d (List.mem_cons_of_mem _ mem)
      have printable := raw c List.mem_cons_self
      rw [List.cons_append, List.cons_append, linesFrom_cons printable, linesFrom_cons printable]
      split
      · rw [tail, List.cons_append]
      · rw [tail]

theorem lines_printed {texts : List (List Char)}
    (raw : ∀ text ∈ texts, ∀ c ∈ text, 0x20 ≤ c.toNat) :
    lines (printed texts).toList = texts.flatMap pieces := by
  rw [printed, String.toList_ofList]
  induction texts with
  | nil => rfl
  | cons text texts ih =>
      rw [List.flatMap_cons, List.flatMap_cons, List.append_assoc, List.singleton_append, lines,
        linesFrom_append (raw text List.mem_cons_self),
        ih fun text mem => raw text (List.mem_cons_of_mem _ mem)]
      rfl

/-- A text without the three characters is seen as a whole. -/
theorem pieces_of_uncut {text : List Char} (raw : ∀ c ∈ text, 0x20 ≤ c.toNat)
    (uncut : ∀ c ∈ text, ¬ Cuts c) : pieces text = [text] := by
  have kept : ∀ held, linesFrom held (text ++ ['\n']) = [held.reverse ++ text] := by
    induction text with
    | nil =>
        intro held
        rw [List.nil_append, linesFrom_feed, List.append_nil]
        rfl
    | cons c text ih =>
        intro held
        have printable := raw c List.mem_cons_self
        have goes : ¬ isLineEnd c = true := fun ends =>
          uncut c List.mem_cons_self ((isLineEnd_iff printable).mp ends)
        rw [List.cons_append, linesFrom_cons printable, if_neg goes,
          ih (fun d mem => raw d (List.mem_cons_of_mem _ mem))
            fun d mem => uncut d (List.mem_cons_of_mem _ mem)]
        simp
  exact kept []

/-- A piece starts or ends inside quotes. -/
def Broken (piece : List Char) : Prop :=
  ∃ first last, Json.Leads first piece last ∧ (first = true ∨ last = true)

/-- What is held belongs to the line that is being read, and either it starts
inside quotes or one of the three characters is still to come. -/
theorem broken_of_mem {last : Bool} :
    ∀ (text held : List Char) {first : Bool}, (∀ c ∈ text, 0x20 ≤ c.toNat) →
      Json.Leads first (held.reverse ++ text) last → (first = true ∨ ∃ c ∈ text, Cuts c) →
      ∀ piece ∈ linesFrom held (text ++ ['\n']), Broken piece
  | [], held, first, _, leads, open' => by
      intro piece mem
      rw [List.nil_append, linesFrom_feed] at mem
      rw [List.mem_singleton.mp mem]
      rw [List.append_nil] at leads
      have inside : first = true := by simpa using open'
      exact ⟨_, _, leads, .inl inside⟩
  | c :: text, held, first, raw, leads, open' => by
      intro piece mem
      have printable := raw c List.mem_cons_self
      have tail : ∀ d ∈ text, 0x20 ≤ d.toNat := fun d mem => raw d (List.mem_cons_of_mem _ mem)
      rw [List.cons_append, linesFrom_cons printable] at mem
      split at mem
      · next ends =>
          have beyond : 0x80 ≤ c.toNat := by
            rcases (isLineEnd_iff printable).mp ends with h | h | h <;> omega
          obtain ⟨before, after⟩ := leads.inside beyond
          rcases List.mem_cons.mp mem with rfl | mem
          · exact ⟨_, _, before, .inr rfl⟩
          · exact broken_of_mem text [] tail after (.inl rfl) piece mem
      · next goes =>
          refine broken_of_mem text (c :: held) tail (by simpa using leads) ?_ piece mem
          rcases open' with inside | ⟨d, hd, cut⟩
          · exact .inl inside
          · rcases List.mem_cons.mp hd with rfl | hd
            · exact absurd ((isLineEnd_iff printable).mpr cut) goes
            · exact .inr ⟨d, hd, cut⟩

/-! ## Records on lines -/

/-- No entry can be read from the line. -/
def Lost (line : List Char) : Prop :=
  ∀ fields, Json.Denotes lineLimits line (.obj fields) → ofRecord fields = .ok none

/-- A record without a time gives no entry. -/
theorem ofRecord_timeless {fields : Json.Fields}
    (h : fields.get? "__REALTIME_TIMESTAMP" = none) : ofRecord fields = .ok none := by
  rw [ofRecord, timeOf, h]
  rfl

/-- A piece that starts outside of quotes does not close them.  One that starts
inside could only hold the key of the time outside of quotes. -/
theorem lost_of_broken {piece : List Char} (h : Broken piece) : Lost piece := by
  intro fields denotes
  have own := Json.leads_of_denotes denotes
  obtain ⟨first, last, leads, open'⟩ := h
  cases first with
  | false =>
      cases leads.unique own
      rcases open' with h | h <;> cases h
  | true =>
      have few := own.bare_of_both leads
      have raw : '\\' ∉ piece := by
        intro mem
        rcases few _ mem with h | h
        · cases h
        · exact h.2.2.1 rfl
      have missing : '_' ∉ piece := by
        intro mem
        rcases few _ mem with h | h
        · cases h
        · exact h.2.2.2.1 rfl
      have underscore : '_' ∈ "__REALTIME_TIMESTAMP".toList := by decide
      exact ofRecord_timeless (Json.get?_eq_none denotes raw underscore missing)

/-- No document is blank. -/
theorem not_blank_of_denotes {limits : Json.Limits} {text : List Char} {fields : Json.Fields}
    (h : Json.Denotes limits text (.obj fields)) : text.all isBlank = false := by
  obtain ⟨g, body, k, _, _, rfl, spells⟩ := h
  obtain ⟨more, rfl⟩ := Json.brace_of_object spells
  rw [List.all_eq_false]
  exact ⟨Json.openBrace, by simp, by decide⟩

/-- A line that prints a record is read as the record. -/
theorem ofLine_of_denotes {text : List Char} {fields : Json.Fields}
    (h : Json.Denotes lineLimits text (.obj fields)) : ofLine text = ofRecord fields := by
  rw [ofLine, if_neg (by simp [not_blank_of_denotes h]), Json.read_eq_ok_iff.mpr h]

theorem ofLine_of_lost {line : List Char} (h : Lost line) {found : Option Entry} :
    ofLine line = .ok found ↔ found = none ∧ ¬ GivesUp line := by
  rw [ofLine, GivesUp]
  cases blank : line.all isBlank with
  | true => simp [eq_comm]
  | false =>
      cases e : Json.read lineLimits line with
      | ok doc =>
          cases doc with
          | obj fields => simp [h fields (Json.read_eq_ok_iff.mp e), eq_comm]
          | _ => simp [eq_comm]
      | error f => cases f <;> simp [eq_comm]

/-! ## Lines together -/

/-- The entries on lines. -/
def entriesOf (ls : List (List Char)) : Except Fault (List Entry) :=
  (ls.mapM ofLine).map fun found => found.filterMap id

theorem ofOutput_eq (output : String) : ofOutput output = entriesOf (lines output.toList) := rfl

theorem entriesOf_eq_ok {ls : List (List Char)} {entries : List Entry} :
    entriesOf ls = .ok entries ↔
      ∃ found, List.Forall₂ (fun line o => ofLine line = .ok o) ls found ∧
        entries = found.filterMap id := by
  rw [entriesOf]
  simp only [← mapM_eq_ok_iff]
  cases ls.mapM ofLine with
  | ok found => simp [Except.map, eq_comm]
  | error f => simp [Except.map]

theorem entriesOf_cons {line : List Char} {ls : List (List Char)} {entries : List Entry} :
    entriesOf (line :: ls) = .ok entries ↔
      ∃ o rest, ofLine line = .ok o ∧ entriesOf ls = .ok rest ∧ entries = o.toList ++ rest := by
  simp only [entriesOf_eq_ok]
  constructor
  · rintro ⟨found, h, rfl⟩
    cases h with
    | @cons _ o _ found first rest =>
        refine ⟨o, _, first, ⟨found, rest, rfl⟩, ?_⟩
        cases o <;> rfl
  · rintro ⟨o, _, first, ⟨found, rest, rfl⟩, rfl⟩
    refine ⟨o :: found, .cons first rest, ?_⟩
    cases o <;> rfl

/-- Lines are read one part after the other. -/
theorem entriesOf_append_eq (ls ls' : List (List Char)) :
    entriesOf (ls ++ ls') = do return (← entriesOf ls) ++ (← entriesOf ls') := by
  rw [entriesOf, List.mapM_append, entriesOf, entriesOf]
  cases ls.mapM ofLine with
  | error f => rfl
  | ok found =>
      cases ls'.mapM ofLine with
      | error f => rfl
      | ok found' => exact congrArg Except.ok (List.filterMap_append ..)

theorem entriesOf_append {ls ls' : List (List Char)} {entries : List Entry} :
    entriesOf (ls ++ ls') = .ok entries ↔
      ∃ first rest, entriesOf ls = .ok first ∧ entriesOf ls' = .ok rest ∧
        entries = first ++ rest := by
  simp only [entriesOf_append_eq, bind_eq_ok]
  constructor
  · rintro ⟨first, h, rest, h', together⟩
    cases together
    exact ⟨first, rest, h, h', rfl⟩
  · rintro ⟨first, rest, h, h', rfl⟩
    exact ⟨first, h, rest, h', rfl⟩

/-- Of lines without entries there is nothing to read, unless the reader gives up. -/
theorem entriesOf_lost {ls : List (List Char)} (h : ∀ line ∈ ls, Lost line) :
    ∀ {entries : List Entry},
      entriesOf ls = .ok entries ↔ entries = [] ∧ ∀ line ∈ ls, ¬ GivesUp line := by
  induction ls with
  | nil =>
      intro entries
      constructor
      · rintro ⟨⟩
        exact ⟨rfl, fun _ h => nomatch h⟩
      · rintro ⟨rfl, _⟩
        rfl
  | cons line ls ih =>
      intro entries
      have tail := @ih fun line mem => h line (List.mem_cons_of_mem _ mem)
      rw [entriesOf_cons, List.forall_mem_cons]
      constructor
      · rintro ⟨o, rest, first, more, rfl⟩
        obtain ⟨rfl, ready⟩ := (ofLine_of_lost (h line List.mem_cons_self)).mp first
        obtain ⟨rfl, others⟩ := tail.mp more
        exact ⟨rfl, ready, others⟩
      · rintro ⟨rfl, ready, others⟩
        exact ⟨none, [], (ofLine_of_lost (h line List.mem_cons_self)).mpr ⟨rfl, ready⟩,
          tail.mpr ⟨rfl, others⟩, rfl⟩

/-! ## What is read back -/

section

variable {text : List Char} {fields : Json.Fields} {entry : Option Entry}

/-- A printed record is seen as a whole, within the limits, or all that is seen of
it is lost. -/
theorem whole_or_lost (prints : Prints text fields) :
    (pieces text = [text] ∧ (∀ c ∈ text, ¬ Cuts c) ∧ Json.Denotes lineLimits text (.obj fields)) ∨
      (¬ ((∀ c ∈ text, ¬ Cuts c) ∧ Json.Denotes lineLimits text (.obj fields)) ∧
        ∀ piece ∈ pieces text, Lost piece) := by
  obtain ⟨⟨limits, denotes⟩, raw⟩ := prints
  by_cases uncut : ∀ c ∈ text, ¬ Cuts c
  · have seen := pieces_of_uncut raw uncut
    by_cases within : Json.Denotes lineLimits text (.obj fields)
    · exact .inl ⟨seen, uncut, within⟩
    · refine .inr ⟨fun h => within h.2, ?_⟩
      intro piece mem fields' h
      rw [seen] at mem
      rw [List.mem_singleton.mp mem] at h
      cases Json.denotes_unique denotes h
      exact absurd h within
  · refine .inr ⟨fun h => uncut h.1, ?_⟩
    obtain ⟨c, cut⟩ := not_forall.mp uncut
    obtain ⟨mem, cut⟩ := Classical.not_imp.mp cut
    intro piece seen
    exact lost_of_broken (broken_of_mem text [] raw (Json.leads_of_denotes denotes)
      (.inr ⟨c, mem, not_not.mp cut⟩) piece seen)

theorem entriesOf_whole (seen : pieces text = [text])
    (within : Json.Denotes lineLimits text (.obj fields)) (outcome : ofRecord fields = .ok entry)
    {entries : List Entry} : entriesOf (pieces text) = .ok entries ↔ entries = entry.toList := by
  rw [seen, entriesOf_cons, ofLine_of_denotes within, outcome]
  constructor
  · rintro ⟨_, _, ⟨⟩, ⟨⟩, rfl⟩
    exact List.append_nil _
  · rintro rfl
    exact ⟨entry, [], rfl, rfl, (List.append_nil _).symm⟩

/-- What is read of one record is its entry, or nothing. -/
theorem entriesOf_record (prints : Prints text fields) (outcome : ofRecord fields = .ok entry)
    {entries : List Entry} (h : entriesOf (pieces text) = .ok entries) :
    entries = entry.toList ∨ entries = [] := by
  rcases whole_or_lost prints with ⟨seen, _, within⟩ | ⟨_, lost⟩
  · exact .inl ((entriesOf_whole seen within outcome).mp h)
  · exact .inr ((entriesOf_lost lost).mp h).1

theorem entriesOf_record_iff (prints : Prints text fields) (outcome : ofRecord fields = .ok entry) :
    entriesOf (pieces text) = .ok entry.toList ↔ Kept text entry := by
  rcases whole_or_lost prints with ⟨seen, uncut, within⟩ | ⟨broken, lost⟩
  · rw [entriesOf_whole seen within outcome]
    exact ⟨fun _ => .whole uncut within, fun _ => rfl⟩
  · rw [entriesOf_lost lost]
    constructor
    · rintro ⟨none, ready⟩
      cases entry with
      | none => exact .nothing ready
      | some entry => cases none
    · intro kept
      cases kept with
      | whole uncut within =>
          obtain ⟨_, denotes⟩ := prints.denotes
          cases Json.denotes_unique denotes within
          exact absurd ⟨uncut, within⟩ broken
      | nothing ready => exact ⟨rfl, ready⟩

end

section

variable {texts : List (List Char)} {records : List Json.Fields} {found : List (Option Entry)}

theorem raw_of_prints (h : List.Forall₂ Prints texts records) :
    ∀ text ∈ texts, ∀ c ∈ text, 0x20 ≤ c.toNat := by
  induction h with
  | nil => exact fun _ h => nomatch h
  | cons first _ ih => exact List.forall_mem_cons.mpr ⟨first.raw, ih⟩

theorem filterMap_id_cons (o : Option Entry) (found : List (Option Entry)) :
    (o :: found).filterMap id = o.toList ++ found.filterMap id := by cases o <;> rfl

/-- No more is read than the entries of the records. -/
theorem length_entriesOf (prints : List.Forall₂ Prints texts records) :
    ∀ {found : List (Option Entry)} {entries : List Entry},
      List.Forall₂ (fun fields entry => ofRecord fields = .ok entry) records found →
      entriesOf (texts.flatMap pieces) = .ok entries →
      entries.length ≤ (found.filterMap id).length := by
  induction prints with
  | nil =>
      rintro found entries outcomes ⟨⟩
      exact Nat.zero_le _
  | cons first _ ih =>
      intro found entries outcomes h
      cases outcomes with
      | cons outcome outcomes =>
          rw [List.flatMap_cons] at h
          obtain ⟨_, rest, read, more, rfl⟩ := entriesOf_append.mp h
          have others := ih outcomes more
          rw [filterMap_id_cons, List.length_append, List.length_append]
          rcases entriesOf_record first outcome read with rfl | rfl
          · omega
          · rw [List.length_nil]
            omega

/-- Printed records are read back if and only if each of them is: it is seen as a
whole and within the limits, or it gives no entry and the reader does not give up
on what it sees of it. -/
theorem ofOutput_printed (prints : List.Forall₂ Prints texts records)
    (outcomes : List.Forall₂ (fun fields entry => ofRecord fields = .ok entry) records found) :
    ofOutput (printed texts) = .ok (found.filterMap id) ↔ List.Forall₂ Kept texts found := by
  rw [ofOutput_eq, lines_printed (raw_of_prints prints)]
  induction prints generalizing found with
  | nil =>
      cases outcomes
      exact ⟨fun _ => .nil, fun _ => rfl⟩
  | @cons text _ texts _ first prints ih =>
      cases outcomes with
      | @cons _ o _ found outcome outcomes =>
          rw [List.flatMap_cons, entriesOf_append, filterMap_id_cons]
          constructor
          · rintro ⟨entries, rest, read, more, same⟩
            have others := length_entriesOf prints outcomes more
            have all : entries = o.toList := by
              rcases entriesOf_record first outcome read with all | rfl
              · exact all
              · have total := congrArg List.length same
                rw [List.length_append, List.length_append, List.length_nil] at total
                exact (List.length_eq_zero_iff.mp (by omega)).symm
            subst all
            cases List.append_cancel_left same
            exact .cons ((entriesOf_record_iff first outcome).mp read) ((ih outcomes).mp more)
          · intro kept
            cases kept with
            | cons kept others =>
                exact ⟨_, _, (entriesOf_record_iff first outcome).mpr kept,
                  (ih outcomes).mpr others, rfl⟩

end

/-! ## Records of one character -/

/-- A printing character of ASCII. -/
def Plain (c : Char) : Prop := 0x20 ≤ c.toNat ∧ c.toNat ≤ 0x7E

instance (c : Char) : Decidable (Plain c) := inferInstanceAs (Decidable (_ ∧ _))

/-- What is printed of a record before its message. -/
def beforeMessage : List Char :=
  "\x7b\"__REALTIME_TIMESTAMP\":\"0\",\"MESSAGE\":\"".toList

/-- A record whose message is one character, as it is printed. -/
def spoken (c : Char) : List Char :=
  beforeMessage ++ [c, doubleQuote, Json.closeBrace]

/-- The record whose message is one character. -/
def speech (c : Char) : Json.Fields :=
  [("__REALTIME_TIMESTAMP", .ofString "0"), ("MESSAGE", .ofString (String.singleton c))]

/-- The entry of the record. -/
def heard (c : Char) : Entry :=
  ⟨⟨0⟩, none, none, none, none, some (String.singleton c), none⟩

theorem mem_spoken (c : Char) : c ∈ spoken c := List.mem_append_right _ List.mem_cons_self

theorem ofRecord_speech (c : Char) : ofRecord (speech c) = .ok (some (heard c)) := rfl

/-- A letter is read back, and a raw separator of lines is not. -/
theorem ofOutput_printed_letter :
    ofOutput (printed [spoken 'a']) = .ok [heard 'a'] ∧
      ofOutput (printed [spoken 'a', spoken (Char.ofNat 0x2028)]) ≠
        .ok [heard 'a', heard (Char.ofNat 0x2028)] := by
  have letter : Json.Denotes lineLimits (spoken 'a') (.obj (speech 'a')) :=
    Json.read_eq_ok_iff.mp (by decide +kernel)
  have separator : Json.Denotes lineLimits (spoken (Char.ofNat 0x2028))
      (.obj (speech (Char.ofNat 0x2028))) :=
    Json.read_eq_ok_iff.mp (by decide +kernel)
  have raw : (spoken 'a').all (fun c => decide (Plain c)) = true := by decide +kernel
  have raw' : (spoken (Char.ofNat 0x2028)).all (fun c => decide (0x20 ≤ c.toNat)) = true := by
    decide +kernel
  have plain : ∀ c ∈ spoken 'a', Plain c := fun c mem =>
    of_decide_eq_true (List.all_eq_true.mp raw c mem)
  have prints : Prints (spoken 'a') (speech 'a') := ⟨⟨_, letter⟩, fun c mem => (plain c mem).1⟩
  have prints' : Prints (spoken (Char.ofNat 0x2028)) (speech (Char.ofNat 0x2028)) :=
    ⟨⟨_, separator⟩, fun c mem => of_decide_eq_true (List.all_eq_true.mp raw' c mem)⟩
  have uncut : ∀ c ∈ spoken 'a', ¬ Cuts c := by
    intro c mem cut
    have high := (plain c mem).2
    rcases cut with cut | cut | cut <;> omega
  constructor
  · exact (ofOutput_printed (.cons prints .nil) (.cons (ofRecord_speech 'a') .nil)).mpr
      (.cons (.whole uncut letter) .nil)
  · intro read
    cases (ofOutput_printed (.cons prints (.cons prints' .nil))
      (.cons (ofRecord_speech 'a') (.cons (ofRecord_speech _) .nil))).mp read with
    | cons _ others =>
        cases others with
        | cons kept _ =>
            cases kept with
            | whole uncut _ =>
                exact uncut _ (mem_spoken _) (.inr (.inl rfl))

end HostMonitor.Journal
