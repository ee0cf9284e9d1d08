import HostMonitor.Json.Printer
import HostMonitor.Proofs.Documents
import HostMonitor.Proofs.Quotes
import HostMonitor.Proofs.Timestamps

/-!
# Reading what is written

A document is written with a blank after each separator and in ASCII.  The text
spells the document again: a code point beyond ASCII by one escaped unit or two, an
integer by its digits, a list or an object by what stands between its brackets.

Three things do not come back: a number that is no integer is only rounded to what
was written, a surrogate without a partner can find one in the text, and of two
fields with one key the later is kept.  `Plain` holds of the documents without the first
and the last, and `Reread` tells what comes back of them.
A reader also has limits, on the levels and on the digits of integers, and
`ReadsBack` is about all readers whose limits leave the document room.
-/

namespace HostMonitor.Json

open Number Text

/-! ## Documents that come back -/

/-- A document of integers, texts, and objects with one field for each key.  Its texts are
made of characters or have the property. -/
inductive Plain (P : WireText → Prop) : Json → Prop where
  | null : Plain P .null
  | bool (b : Bool) : Plain P (.bool b)
  | int (n : Int) : Plain P (.int n)
  | str (s : String) : Plain P (.str (.chars s))
  | text {t : WireText} : P t → Plain P (.str t)
  | arr {items : List Json} : (∀ v ∈ items, Plain P v) → Plain P (.arr items)
  | obj {fields : Fields} : (fields.map Prod.fst).Nodup →
      (∀ p ∈ fields, ∃ key : String, p.1 = .chars key) → (∀ p ∈ fields, Plain P p.2) →
      Plain P (.obj fields)

/-- Every reader whose limits leave room for the document reads it from the text. -/
def ReadsBack (text : String) (v : Json) : Prop :=
  ∀ limits : Limits, v.depth ≤ limits.depth → v.digits ≤ limits.digits →
    read limits text.toList = .ok v

/-! ## Integers -/

theorem digitChar_ne_zero : ∀ n < 10, 0 < n → Nat.digitChar n ≠ '0' := by decide

/-- A positive number does not start with a zero. -/
theorem head_toDigits {n : Nat} (pos : 0 < n) : (Nat.toDigits 10 n).head? ≠ some '0' := by
  induction n using Nat.strongRecOn with
  | ind n ih =>
      by_cases small : n < 10
      · rw [Nat.toDigits_of_lt_base small, List.head?_cons, Ne, Option.some.injEq]
        exact digitChar_ne_zero n small pos
      · have smaller := ih (n / 10) (by omega) (by omega)
        rw [Nat.toDigits_of_base_le (by decide) (by omega),
          List.head?_append_of_ne_nil _ Nat.toDigits_ne_nil]
        exact smaller

theorem whole_toDigits (n : Nat) : Whole (Nat.toDigits 10 n) := by
  rcases Nat.eq_zero_or_pos n with rfl | pos
  · exact .inl rfl
  · exact .inr ⟨⟨Nat.toDigits_ne_nil, fun _ mem => Time.isDigit_toDigits mem⟩, head_toDigits pos⟩

/-- An integer by its parts. -/
def numeralOf (n : Int) : Numeral := ⟨decide (n < 0), Nat.toDigits 10 n.natAbs, [], none⟩

theorem text_numeralOf (n : Int) : (numeralOf n).text = writeInt n := by
  by_cases negative : n < 0
  · simp [numeralOf, Numeral.text, Numeral.fractionText, Numeral.exponentText, writeInt, negative]
  · simp [numeralOf, Numeral.text, Numeral.fractionText, Numeral.exponentText, writeInt, negative]

theorem value_numeralOf (n : Int) : (numeralOf n).value = .int n := by
  rw [Numeral.value, if_pos (show (numeralOf n).isInteger = true from rfl)]
  simp only [numeralOf, Time.natOfDigits_toDigits, decide_eq_true_eq, int.injEq]
  split <;> omega

/-- An integer with few enough digits is spelled as it is written. -/
theorem spells_writeInt {limits : Limits} {n : Int}
    (short : (Nat.toDigits 10 n.natAbs).length ≤ limits.digits) (depth : Nat) :
    Spells limits depth (writeInt n) (.value (.int n)) := by
  rw [← text_numeralOf, ← value_numeralOf]
  exact .numeral ⟨whole_toDigits _, nofun, nofun⟩ fun _ => short

/-! ## Texts -/

theorem Marks.append {cs ds : List Char} {ms ns : List (Nat × Bool)} (h : Marks cs ms)
    (h' : Marks ds ns) : Marks (cs ++ ds) (ms ++ ns) := by
  induction h with
  | nil => exact h'
  | plain printable noQuote noEscape _ ih => exact .plain printable noQuote noEscape ih
  | letter known _ ih => exact .letter known ih
  | unit known _ ih => exact .unit known ih

theorem hexValue?_hexDigit : ∀ n < 16, hexValue? (hexDigit n) = some n := by decide

/-- The digits of a unit are read as the unit. -/
theorem hexUnit?_hexDigit {a b c d : Nat} (ha : a < 16) (hb : b < 16) (hc : c < 16)
    (hd : d < 16) : hexUnit? (hexDigit a) (hexDigit b) (hexDigit c) (hexDigit d) =
      some (((a * 16 + b) * 16 + c) * 16 + d) := by
  rw [hexUnit?, hexValue?_hexDigit a ha, hexValue?_hexDigit b hb, hexValue?_hexDigit c hc,
    hexValue?_hexDigit d hd]
  rfl

theorem marks_unitEscape (unit : Nat) : Marks (unitEscape unit) [(unit % 0x10000, true)] := by
  have known : hexUnit? (hexDigit (unit / 16 / 16 / 16 % 16)) (hexDigit (unit / 16 / 16 % 16))
      (hexDigit (unit / 16 % 16)) (hexDigit (unit % 16)) = some (unit % 0x10000) := by
    rw [hexUnit?_hexDigit (Nat.mod_lt _ (by decide)) (Nat.mod_lt _ (by decide))
      (Nat.mod_lt _ (by decide)) (Nat.mod_lt _ (by decide))]
    congr 1
    omega
  exact .unit known .nil

/-- What is marked so spells one code point, whatever stands after it. -/
def Yields (point : Nat) (ms : List (Nat × Bool)) : Prop :=
  ∀ more, joined (ms ++ more) = point :: joined more

theorem yields_raw (point : Nat) : Yields point [(point, false)] := fun more => by
  rw [List.singleton_append, joined]
  rintro _ _ _ ⟨⟩

/-- A unit that does not start a pair is a code point of its own. -/
theorem yields_unit {unit : Nat} (single : isHigh unit = false) :
    Yields unit [(unit, true)] := by
  intro more
  cases more with
  | nil => rfl
  | cons next more =>
      obtain ⟨low, marked⟩ := next
      cases marked with
      | true =>
          rw [List.singleton_append, joined, single, Bool.false_and]
          rfl
      | false =>
          rw [List.singleton_append, joined]
          intro _ _ e
          cases e

theorem yields_pair {high low : Nat} (first : isHigh high = true) (second : isLow low = true) :
    Yields (0x10000 + (high - 0xD800) * 0x400 + (low - 0xDC00)) [(high, true), (low, true)] := by
  intro more
  rw [List.cons_append, List.singleton_append, joined, first, second]
  rfl

theorem isHigh_of_isValidChar {point : Nat} (valid : point.isValidChar) :
    isHigh point = false := by
  rw [isHigh, Bool.and_eq_false_iff, decide_eq_false_iff_not, decide_eq_false_iff_not]
  rw [Nat.isValidChar] at valid
  omega

/-- An escape of a unit that is a character spells it. -/
theorem yields_unitEscape {unit : Nat} (small : unit < 0x10000) (valid : unit.isValidChar) :
    Yields unit [(unit % 0x10000, true)] := by
  rw [Nat.mod_eq_of_lt small]
  exact yields_unit (isHigh_of_isValidChar valid)

/-- The two units of a character beyond the first plane spell it. -/
theorem yields_units {point : Nat} (big : 0x10000 ≤ point) (valid : point.isValidChar) :
    Yields point ([((0xD800 + (point - 0x10000) / 0x400) % 0x10000, true)] ++
      [((0xDC00 + (point - 0x10000) % 0x400) % 0x10000, true)]) := by
  have bound : point < 0x110000 := by
    rw [Nat.isValidChar] at valid
    omega
  have first : isHigh ((0xD800 + (point - 0x10000) / 0x400) % 0x10000) = true := by
    rw [isHigh, Bool.and_eq_true, decide_eq_true_eq, decide_eq_true_eq]
    omega
  have second : isLow ((0xDC00 + (point - 0x10000) % 0x400) % 0x10000) = true := by
    rw [isLow, Bool.and_eq_true, decide_eq_true_eq, decide_eq_true_eq]
    omega
  have pair := yields_pair first second
  rwa [show 0x10000 + ((0xD800 + (point - 0x10000) / 0x400) % 0x10000 - 0xD800) * 0x400 +
    ((0xDC00 + (point - 0x10000) % 0x400) % 0x10000 - 0xDC00) = point by omega] at pair

/-- An escape is one of a text, and that of a character spells the character. -/
theorem marks_pointEscape (point : Nat) :
    ∃ ms, Marks (pointEscape point) ms ∧ (point.isValidChar → Yields point ms) := by
  rw [pointEscape]
  split
  · next small => exact ⟨_, marks_unitEscape point, yields_unitEscape small⟩
  · next big =>
      exact ⟨_, (marks_unitEscape _).append (marks_unitEscape _),
        yields_units (Nat.not_lt.mp big)⟩

/-- A code point is written as a part of a text, and a character spells itself there. -/
theorem marks_writePoint (point : Nat) :
    ∃ ms, Marks (writePoint true point) ms ∧ (point.isValidChar → Yields point ms) := by
  have letter : ∀ {e : Char} {p : Nat}, point = p → letterEscape? e = some p →
      ∃ ms, Marks ['\\', e] ms ∧ (point.isValidChar → Yields point ms) := by
    rintro e p rfl known
    exact ⟨_, .letter known .nil, fun _ => yields_raw _⟩
  rw [writePoint]
  split
  · next e => exact letter e rfl
  split
  · next e => exact letter e rfl
  split
  · next e => exact letter e rfl
  split
  · next e => exact letter e rfl
  split
  · next e => exact letter e rfl
  split
  · next e => exact letter e rfl
  split
  · next e => exact letter e rfl
  split
  · exact ⟨_, marks_unitEscape point, yields_unitEscape (by omega)⟩
  split
  · exact marks_pointEscape point
  · next noQuote noEscape _ _ _ _ _ printable ascii =>
      have low : point < 0x7F := by simpa using ascii
      have valid : point.isValidChar := .inl (by omega)
      have same : (Char.ofNat point).toNat = point := by
        rw [Char.ofNat, dif_pos valid]
        rfl
      rw [if_pos valid]
      have plain := Marks.plain (c := Char.ofNat point) (by omega) (by omega)
        (fun e => noEscape (by rw [← same, e]; rfl)) .nil
      rw [same] at plain
      exact ⟨_, plain, fun _ => yields_raw _⟩

/-- Code points inside a text are marks of one. -/
theorem exists_marks (points : List Nat) : ∃ ms, Marks (points.flatMap (writePoint true)) ms := by
  induction points with
  | nil => exact ⟨[], .nil⟩
  | cons point points ih =>
      obtain ⟨ms, marks, -⟩ := marks_writePoint point
      obtain ⟨more, rest⟩ := ih
      exact ⟨ms ++ more, marks.append rest⟩

/-- Characters inside a text spell themselves. -/
theorem marks_writePoints (cs : List Char) :
    ∃ ms, Marks ((cs.map Char.toNat).flatMap (writePoint true)) ms ∧
      joined ms = cs.map Char.toNat := by
  induction cs with
  | nil => exact ⟨[], .nil, rfl⟩
  | cons c cs ih =>
      obtain ⟨ms, marks, yields⟩ := marks_writePoint c.toNat
      obtain ⟨more, rest, same⟩ := ih
      refine ⟨ms ++ more, ?_, ?_⟩
      · rw [List.map_cons, List.flatMap_cons]
        exact marks.append rest
      · rw [yields c.valid, same, List.map_cons]

/-- A text is written as marks of itself between quotes. -/
theorem marks_writeText (s : String) : ∃ cs ms, Marks cs ms ∧
    writeText true (.chars s) = doubleQuote :: (cs ++ [doubleQuote]) ∧
    WireText.ofPoints (joined ms) = .chars s := by
  obtain ⟨ms, marks, same⟩ := marks_writePoints s.toList
  refine ⟨_, ms, marks, rfl, ?_⟩
  rw [same, WireText.ofPoints_chars, String.ofList_toList]

/-! ## Lists and objects -/

variable {limits : Limits} {depth : Nat}

theorem gap_blank : Gap [' '] := by
  intro c mem
  rw [List.mem_singleton.mp mem]
  rfl

/-- What is written of items that are written spells the list of what is read of each. -/
theorem spells_writeItems {items : List Json} {f : Json → Json}
    (each : ∀ v ∈ items, Spells limits depth (write .wide v) (.value (f v)))
    (filled : items ≠ []) :
    Spells limits depth (writeItems .wide items) (.items (items.map f)) := by
  induction items with
  | nil => exact absurd rfl filled
  | cons v items ih =>
      have first := each v List.mem_cons_self
      cases items with
      | nil =>
          have alone := Spells.item first gap_nil
          rwa [List.append_nil] at alone
      | cons w items =>
          have rest := ih (fun u mem => each u (List.mem_cons_of_mem _ mem)) nofun
          have all := Spells.items first gap_nil gap_blank rest
          rw [writeItems, List.append_assoc]
          · exact all
          · nofun

/-- What is written of fields spells the members with what is read of each value. -/
theorem spells_writeFields {fields : Fields} {f : Json → Json}
    (keys : ∀ p ∈ fields, ∃ key : String, p.1 = .chars key)
    (each : ∀ p ∈ fields, Spells limits depth (write .wide p.2) (.value (f p.2)))
    (filled : fields ≠ []) :
    Spells limits depth (writeFields .wide fields) (.members (fields.mapValues f)) := by
  induction fields with
  | nil => exact absurd rfl filled
  | cons p fields ih =>
      obtain ⟨k, v⟩ := p
      obtain ⟨key, rfl⟩ := keys (k, v) List.mem_cons_self
      have first := each (.chars key, v) List.mem_cons_self
      obtain ⟨cs, ms, marks, text, same⟩ := marks_writeText key
      cases fields with
      | nil =>
          have alone := Spells.member marks gap_nil gap_blank first gap_nil
          rw [same, List.append_nil] at alone
          rw [writeFields, show Style.wide.asciiOnly = true from rfl, text,
            show Style.wide.afterKey.toList = [':', ' '] from rfl]
          simpa [Keyed.mapValues] using alone
      | cons g fields =>
          have rest := ih (fun p mem => keys p (List.mem_cons_of_mem _ mem))
            (fun p mem => each p (List.mem_cons_of_mem _ mem)) (List.cons_ne_nil _ _)
          have all := Spells.members marks gap_nil gap_blank first gap_nil gap_blank rest
          rw [same] at all
          rw [writeFields, show Style.wide.asciiOnly = true from rfl, text,
            show Style.wide.afterKey.toList = [':', ' '] from rfl,
            show Style.wide.between.toList = [',', ' '] from rfl]
          · simpa [Keyed.mapValues_cons] using all
          · exact List.cons_ne_nil _ _

/-- Fields with a key each are kept as they are. -/
theorem collected_of_nodup {fields before : Fields}
    (h : ((before ++ fields).map Prod.fst).Nodup) : collected fields before = before ++ fields := by
  induction fields generalizing before with
  | nil => exact (List.append_nil _).symm
  | cons f fields ih =>
      have fresh : f.1 ∉ before.map Prod.fst := by
        rw [List.map_append, List.map_cons] at h
        intro mem
        exact (List.nodup_append.mp h).2.2 _ mem _ List.mem_cons_self rfl
      rw [collected, List.foldl_cons, Keyed.put_of_not_mem fresh]
      have rest := @ih (before ++ [(f.1, f.2)]) (by simpa using h)
      rw [collected] at rest
      rw [rest, List.append_assoc, List.singleton_append]

/-! ## Documents -/

/-- What a document is read as after it was written.  A text with surrogates may come back
as another one. -/
inductive Reread : Json → Json → Prop where
  | null : Reread .null .null
  | bool (b : Bool) : Reread (.bool b) (.bool b)
  | int (n : Int) : Reread (.int n) (.int n)
  | str (s : String) : Reread (.str (.chars s)) (.str (.chars s))
  | broken {points : List Nat} {lone : points.all Nat.isValidChar = false}
      {ms : List (Nat × Bool)} : Marks (points.flatMap (writePoint true)) ms →
      Reread (.str (.broken points lone)) (.str (.ofPoints (joined ms)))
  | arr {items : List Json} {f : Json → Json} : (∀ v ∈ items, Reread v (f v)) →
      Reread (.arr items) (.arr (items.map f))
  | obj {fields : Fields} {f : Json → Json} : (fields.map Prod.fst).Nodup →
      (∀ p ∈ fields, ∃ key : String, p.1 = .chars key) → (∀ p ∈ fields, Reread p.2 (f p.2)) →
      Reread (.obj fields) (.obj (fields.mapValues f))

/-- A plain document of characters comes back as it was. -/
theorem Plain.reread {v : Json} (plain : Plain (sendable · = true) v) : Reread v v := by
  induction plain with
  | null => exact .null
  | bool b => exact .bool b
  | int n => exact .int n
  | str s => exact .str s
  | @text t whole =>
      cases t with
      | chars s => exact .str s
      | broken _ _ => cases whole
  | @arr items _ ih =>
      have same := @Reread.arr items id ih
      rwa [List.map_id] at same
  | @obj fields nodup keys _ ih =>
      have same := @Reread.obj fields id nodup keys ih
      rwa [Keyed.mapValues_id] at same

/-- A plain document comes back, but perhaps with other texts. -/
theorem Plain.exists_reread {P : WireText → Prop} {v : Json} (plain : Plain P v) :
    ∃ w, Reread v w := by
  induction plain with
  | null => exact ⟨_, .null⟩
  | bool b => exact ⟨_, .bool b⟩
  | int n => exact ⟨_, .int n⟩
  | str s => exact ⟨_, .str s⟩
  | @text t _ =>
      cases t with
      | chars s => exact ⟨_, .str s⟩
      | broken points _ =>
          obtain ⟨ms, marks⟩ := exists_marks points
          exact ⟨_, .broken marks⟩
  | @arr items _ ih =>
      have each : ∀ v, ∃ w, v ∈ items → Reread v w := fun v =>
        if mem : v ∈ items then (ih v mem).imp fun _ h _ => h else ⟨v, fun h => absurd h mem⟩
      choose f back using each
      exact ⟨_, .arr back⟩
  | @obj fields nodup keys _ ih =>
      have each : ∀ v, ∃ w, v ∈ fields.map Prod.snd → Reread v w := fun v =>
        if mem : v ∈ fields.map Prod.snd then
          have ⟨p, inside, same⟩ := List.mem_map.mp mem
          (ih p inside).imp fun _ h _ => same ▸ h
        else ⟨v, fun h => absurd h mem⟩
      choose f back using each
      exact ⟨_, .obj nodup keys fun p mem => back p.2 (List.mem_map_of_mem mem)⟩

/-- What is written of a document spells what it is read as. -/
theorem Reread.spells {v w : Json} (h : Reread v w) : ∀ {depth : Nat}, w.depth ≤ depth →
    w.digits ≤ limits.digits → Spells limits depth (write .wide v) (.value w) := by
  -- A list or an object takes one of the levels there are.
  have level : ∀ {n depth : Nat}, n + 1 ≤ depth → ∃ d, depth = d + 1 ∧ n ≤ d :=
    fun {_ depth} h => ⟨depth - 1, by omega, by omega⟩
  induction h with
  | null => exact fun _ _ => .word (by simp [plainWords, write])
  | bool b =>
      intro depth _ _
      cases b with
      | true => exact .word (by simp [plainWords, write])
      | false => exact .word (by simp [plainWords, write])
  | int n => exact fun _ short => spells_writeInt short _
  | str s =>
      intro depth _ _
      obtain ⟨cs, ms, marks, text, same⟩ := marks_writeText s
      have spelled := @Spells.text limits depth _ _ marks
      rw [same, ← text] at spelled
      exact spelled
  | broken marks => exact fun _ _ => .text marks
  | @arr items f _ ih =>
      intro depth deep short
      obtain ⟨d, rfl, inner⟩ := level deep
      replace inner := List.forall_mem_map.mp (depthOfItems_le_iff.mp inner)
      rw [digits, digitsOfItems_le_iff, List.forall_mem_map] at short
      have each := fun v mem => ih v mem (inner v mem) (short v mem)
      cases items with
      | nil => exact .emptyList gap_nil
      | cons v items => exact .list gap_nil (spells_writeItems each (List.cons_ne_nil _ _))
  | @obj fields f nodup keys _ ih =>
      intro depth deep short
      obtain ⟨d, rfl, inner⟩ := level deep
      replace inner := List.forall_mem_map.mp (depthOfFields_le_iff.mp inner)
      rw [digits, digitsOfFields_le_iff, Keyed.mapValues, List.forall_mem_map] at short
      have each := fun p mem => ih p mem (inner p mem) (short p mem)
      cases fields with
      | nil => exact .emptyObject gap_nil
      | cons p fields =>
          have spelled :=
            Spells.object gap_nil (spells_writeFields keys each (List.cons_ne_nil _ _))
          rw [← Keyed.keys, ← Keyed.keys_mapValues f] at nodup
          have kept : collected (Keyed.mapValues f (p :: fields)) [] = _ := collected_of_nodup nodup
          rwa [kept] at spelled

/-- What is written of a document is read back as what it is read as. -/
theorem Reread.readsBack {v w : Json} (h : Reread v w) : ReadsBack v.wide w := by
  intro limits deep short
  rw [wide, String.toList_ofList, read_eq_ok_iff]
  exact ⟨[], write .wide v, [], gap_nil, gap_nil, by simp, h.spells deep short⟩

end HostMonitor.Json
