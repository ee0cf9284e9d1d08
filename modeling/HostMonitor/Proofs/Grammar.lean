import HostMonitor.Json.Reader
import HostMonitor.Text.Quoted

/-!
# The grammar of documents

What a text means is said here without the reader.  A number is spelled by its
parts, a text by marked code points, and a list or an object by what stands
between its brackets.  `Spells` puts them together: it holds of a text and a
part of a document when the text spells the part, with no more levels of nesting
than it is given.

The grammar is that of JSON.  The three limits of a reader bound it: without the
words for numbers, and with limits that no text reaches, nothing else is spelled
than what JSON allows.
-/

namespace HostMonitor.Json

open Number Text

/-! ## Gaps -/

/-- A blank of the grammar. -/
def isGap (c : Char) : Bool := c == ' ' || c == '\t' || c == '\n' || c == '\r'

/-- The text holds nothing but blanks of the grammar. -/
def Gap (cs : List Char) : Prop := ∀ c ∈ cs, isGap c = true

theorem gap_nil : Gap [] := fun _ h => nomatch h

/-! ## Numbers -/

/-- One digit or more. -/
def Digits (ds : List Char) : Prop := ds ≠ [] ∧ ∀ d ∈ ds, d.isDigit = true

/-- The whole part of a number: a zero, or digits that do not start with one. -/
def Whole (ds : List Char) : Prop := ds = ['0'] ∨ Digits ds ∧ ds.head? ≠ some '0'

/-- The exponent of a number. -/
structure Exponent where
  /-- The letter before it. -/
  letter : Char
  /-- Its sign, which may be missing. -/
  sign : List Char
  /-- Its digits. -/
  digits : List Char

namespace Exponent

/-- The parts of an exponent are as the grammar has them. -/
structure WellFormed (e : Exponent) : Prop where
  letter : e.letter = 'e' ∨ e.letter = 'E'
  sign : e.sign = [] ∨ e.sign = ['+'] ∨ e.sign = ['-']
  digits : Digits e.digits

/-- How the exponent is spelled. -/
def text (e : Exponent) : List Char := e.letter :: (e.sign ++ e.digits)

/-- The number that the exponent is. -/
def value (e : Exponent) : Int :=
  if e.sign = ['-'] then -(natOfDigits e.digits : Int) else natOfDigits e.digits

end Exponent

/-- A number by its parts. -/
structure Numeral where
  /-- Whether a minus stands before it. -/
  negative : Bool
  /-- The digits before the point. -/
  whole : List Char
  /-- The digits after the point; none without a point. -/
  fraction : List Char
  /-- The exponent. -/
  exponent : Option Exponent

namespace Numeral

/-- The parts of a number are as the grammar has them. -/
structure WellFormed (n : Numeral) : Prop where
  whole : Whole n.whole
  fraction : ∀ d ∈ n.fraction, d.isDigit = true
  exponent : ∀ e ∈ n.exponent, e.WellFormed

/-- How the digits after the point are spelled. -/
def fractionText (ds : List Char) : List Char := if ds = [] then [] else '.' :: ds

/-- How the exponent is spelled. -/
def exponentText : Option Exponent → List Char
  | none => []
  | some e => e.text

/-- How the number is spelled. -/
def text (n : Numeral) : List Char :=
  (if n.negative then ['-'] else []) ++
    (n.whole ++ (fractionText n.fraction ++ exponentText n.exponent))

/-- The number is an integer: it has neither a point nor an exponent. -/
def isInteger (n : Numeral) : Bool := n.fraction.isEmpty && n.exponent.isNone

/-- The value of the number. -/
def value (n : Numeral) : Json :=
  if n.isInteger then
    .int (if n.negative then -(natOfDigits n.whole : Int) else natOfDigits n.whole)
  else
    .float (.ofDecimal n.negative (natOfDigits (n.whole ++ n.fraction))
      ((n.exponent.map Exponent.value).getD 0 - n.fraction.length))

/-- An integer has no more digits than the limit. -/
def Fits (limits : Limits) (n : Numeral) : Prop :=
  n.isInteger = true → n.whole.length ≤ limits.digits

end Numeral

/-! ## Texts -/

/-- The text between two quotes spells the code points.  Those that are escaped
by their unit are marked. -/
inductive Marks : List Char → List (Nat × Bool) → Prop where
  | nil : Marks [] []
  | plain {c : Char} {cs : List Char} {ms : List (Nat × Bool)} :
      0x20 ≤ c.toNat → c.toNat ≠ 0x22 → c ≠ '\\' → Marks cs ms →
      Marks (c :: cs) ((c.toNat, false) :: ms)
  | letter {e : Char} {point : Nat} {cs : List Char} {ms : List (Nat × Bool)} :
      letterEscape? e = some point → Marks cs ms →
      Marks ('\\' :: e :: cs) ((point, false) :: ms)
  | unit {a b c d : Char} {u : Nat} {cs : List Char} {ms : List (Nat × Bool)} :
      hexUnit? a b c d = some u → Marks cs ms →
      Marks ('\\' :: 'u' :: a :: b :: c :: d :: cs) ((u, true) :: ms)

/-- The code points of a text.  The two units of a pair are one code point when
both are escaped and stand side by side. -/
def joined : List (Nat × Bool) → List Nat
  | [] => []
  | (high, true) :: (low, true) :: rest =>
    if isHigh high && isLow low then
      (0x10000 + (high - 0xD800) * 0x400 + (low - 0xDC00)) :: joined rest
    else high :: joined ((low, true) :: rest)
  | (point, _) :: rest => point :: joined rest

/-! ## Values -/

/-- The brace before the fields of an object. -/
def openBrace : Char := Char.ofNat 0x7B

/-- The brace after the fields of an object. -/
def closeBrace : Char := Char.ofNat 0x7D

/-- A part of a document. -/
inductive Part where
  /-- One value. -/
  | value (v : Json)
  /-- The items of a list, one or more. -/
  | items (vs : List Json)
  /-- The fields of an object as they are spelled, one or more. -/
  | members (fs : Fields)

/-- The fields of an object in which a key can stand more than once. -/
def collected (fs : Fields) (before : Fields) : Fields :=
  fs.foldl (fun found f => found.put f.1 f.2) before

/-- The text spells the part within the limits, with so many levels of nesting. -/
inductive Spells (limits : Limits) : Nat → List Char → Part → Prop where
  | word {depth : Nat} {w : List Char} {v : Json} :
      (w, v) ∈ plainWords → Spells limits depth w (.value v)
  | numberWord {depth : Nat} {w : List Char} {v : Json} :
      limits.words = true → (w, v) ∈ numberWords → Spells limits depth w (.value v)
  | numeral {depth : Nat} {n : Numeral} :
      n.WellFormed → n.Fits limits → Spells limits depth n.text (.value n.value)
  | text {depth : Nat} {cs : List Char} {ms : List (Nat × Bool)} :
      Marks cs ms →
      Spells limits depth (doubleQuote :: (cs ++ [doubleQuote]))
        (.value (.str (.ofPoints (joined ms))))
  | emptyList {depth : Nat} {g : List Char} :
      Gap g → Spells limits (depth + 1) ('[' :: (g ++ [']'])) (.value (.arr []))
  | list {depth : Nat} {g cs : List Char} {vs : List Json} :
      Gap g → Spells limits depth cs (.items vs) →
      Spells limits (depth + 1) ('[' :: (g ++ (cs ++ [']']))) (.value (.arr vs))
  | emptyObject {depth : Nat} {g : List Char} :
      Gap g → Spells limits (depth + 1) (openBrace :: (g ++ [closeBrace])) (.value (.obj []))
  | object {depth : Nat} {g cs : List Char} {fs : Fields} :
      Gap g → Spells limits depth cs (.members fs) →
      Spells limits (depth + 1) (openBrace :: (g ++ (cs ++ [closeBrace])))
        (.value (.obj (collected fs [])))
  | item {depth : Nat} {cs g : List Char} {v : Json} :
      Spells limits depth cs (.value v) → Gap g → Spells limits depth (cs ++ g) (.items [v])
  | items {depth : Nat} {cs g h more : List Char} {v : Json} {vs : List Json} :
      Spells limits depth cs (.value v) → Gap g → Gap h →
      Spells limits depth more (.items vs) →
      Spells limits depth (cs ++ (g ++ ',' :: (h ++ more))) (.items (v :: vs))
  | member {depth : Nat} {key g h cs k : List Char} {ms : List (Nat × Bool)} {v : Json} :
      Marks key ms → Gap g → Gap h → Spells limits depth cs (.value v) → Gap k →
      Spells limits depth (doubleQuote :: (key ++ doubleQuote :: (g ++ ':' :: (h ++ (cs ++ k)))))
        (.members [(.ofPoints (joined ms), v)])
  | members {depth : Nat} {key g h cs k l more : List Char} {ms : List (Nat × Bool)}
      {v : Json} {fs : Fields} :
      Marks key ms → Gap g → Gap h → Spells limits depth cs (.value v) → Gap k → Gap l →
      Spells limits depth more (.members fs) →
      Spells limits depth
        (doubleQuote ::
          (key ++ doubleQuote :: (g ++ ':' :: (h ++ (cs ++ (k ++ ',' :: (l ++ more)))))))
        (.members ((.ofPoints (joined ms), v) :: fs))

/-- The text spells the document within the limits, with blanks around it. -/
def Denotes (limits : Limits) (cs : List Char) (doc : Json) : Prop :=
  ∃ g body h, Gap g ∧ Gap h ∧ cs = g ++ (body ++ h) ∧
    Spells limits limits.depth body (.value doc)

/-! ## Wider limits -/

/-- What is spelled stays spelled within wider limits and in more levels. -/
theorem Spells.widen {limits limits' : Limits} (digits : limits.digits ≤ limits'.digits)
    (words : limits.words = true → limits'.words = true) {depth : Nat} {cs : List Char}
    {part : Part} (h : Spells limits depth cs part) :
    ∀ {depth' : Nat}, depth ≤ depth' → Spells limits' depth' cs part := by
  -- A list or an object takes one level, so the wider depth has one to give.
  have level : ∀ {d d' : Nat}, d + 1 ≤ d' → ∃ e, d' = e + 1 ∧ d ≤ e :=
    fun {_ d'} h => ⟨d' - 1, by omega, by omega⟩
  induction h with
  | word mem => exact fun _ => .word mem
  | numberWord on mem => exact fun _ => .numberWord (words on) mem
  | numeral wf fits => exact fun _ => .numeral wf fun integer => Nat.le_trans (fits integer) digits
  | text marks => exact fun _ => .text marks
  | emptyList hg =>
      intro depth' deep
      obtain ⟨e, rfl, _⟩ := level deep
      exact .emptyList hg
  | list hg _ ih =>
      intro depth' deep
      obtain ⟨e, rfl, deeper⟩ := level deep
      exact .list hg (ih deeper)
  | emptyObject hg =>
      intro depth' deep
      obtain ⟨e, rfl, _⟩ := level deep
      exact .emptyObject hg
  | object hg _ ih =>
      intro depth' deep
      obtain ⟨e, rfl, deeper⟩ := level deep
      exact .object hg (ih deeper)
  | item _ hg ih => exact fun deep => .item (ih deep) hg
  | items _ hg hh _ ih ihs => exact fun deep => .items (ih deep) hg hh (ihs deep)
  | member hk hg hh _ gk ih => exact fun deep => .member hk hg hh (ih deep) gk
  | members hk hg hh _ gk hl _ ih ihs =>
      exact fun deep => .members hk hg hh (ih deep) gk hl (ihs deep)

theorem Denotes.widen {limits limits' : Limits} (digits : limits.digits ≤ limits'.digits)
    (deep : limits.depth ≤ limits'.depth) (words : limits.words = true → limits'.words = true)
    {cs : List Char} {doc : Json} (h : Denotes limits cs doc) : Denotes limits' cs doc := by
  obtain ⟨g, body, k, hg, hk, e, spells⟩ := h
  exact ⟨g, body, k, hg, hk, e, spells.widen digits words deep⟩

/-! ## Levels -/

/-- How many lists and objects stand inside each other in a part. -/
def Part.depth : Part → Nat
  | .value v => v.depth
  | .items vs => depthOfItems vs
  | .members fs => depthOfFields fs

theorem depth_le_of_get? {fields : Fields} {key : WireText} {v : Json}
    (h : fields.get? key = some v) : v.depth ≤ depthOfFields fields := by
  induction fields with
  | nil => cases h
  | cons f fields ih =>
      rw [Fields.get?] at h
      rw [depthOfFields]
      split at h
      · cases h
        exact Nat.le_max_left _ _
      · exact Nat.le_trans (ih h) (Nat.le_max_right _ _)

theorem depthOfFields_put (key : WireText) (v : Json) (fields : Fields) :
    depthOfFields (fields.put key v) ≤ max v.depth (depthOfFields fields) := by
  induction fields with
  | nil => simp [Keyed.put, depthOfFields]
  | cons f fields ih =>
      rw [Keyed.put]
      split
      · simp only [depthOfFields]
        omega
      · simp only [depthOfFields]
        omega

theorem depthOfFields_collected (fs before : Fields) :
    depthOfFields (collected fs before) ≤ max (depthOfFields fs) (depthOfFields before) := by
  induction fs generalizing before with
  | nil => exact Nat.le_max_right _ _
  | cons f fs ih =>
      have put := depthOfFields_put f.1 f.2 before
      have rest := ih (before.put f.1 f.2)
      rw [collected, List.foldl_cons]
      rw [collected] at rest
      simp only [depthOfFields]
      omega

/-- No part has more levels than it may be spelled with. -/
theorem Spells.depth_le {limits : Limits} {depth : Nat} {cs : List Char} {part : Part}
    (h : Spells limits depth cs part) : part.depth ≤ depth := by
  induction h with
  | word mem =>
      simp only [plainWords, List.mem_cons, Prod.mk.injEq, List.not_mem_nil, or_false] at mem
      rcases mem with ⟨_, rfl⟩ | ⟨_, rfl⟩ | ⟨_, rfl⟩ <;> exact Nat.zero_le _
  | numberWord _ mem =>
      simp only [numberWords, List.mem_cons, Prod.mk.injEq, List.not_mem_nil, or_false] at mem
      rcases mem with ⟨_, rfl⟩ | ⟨_, rfl⟩ | ⟨_, rfl⟩ <;> exact Nat.zero_le _
  | @numeral _ n _ _ =>
      rw [Part.depth, Numeral.value]
      split <;> exact Nat.zero_le _
  | text _ => exact Nat.zero_le _
  | emptyList _ => exact Nat.succ_le_succ (Nat.zero_le _)
  | list _ _ ih => exact Nat.succ_le_succ ih
  | emptyObject _ => exact Nat.succ_le_succ (Nat.zero_le _)
  | @object _ _ _ fs _ _ ih =>
      have kept : depthOfFields (collected fs []) ≤ max (depthOfFields fs) 0 :=
        depthOfFields_collected fs []
      simp only [Part.depth, Json.depth] at ih ⊢
      omega
  | item _ _ ih =>
      simp only [Part.depth, depthOfItems] at ih ⊢
      omega
  | items _ _ _ _ ih ihs =>
      simp only [Part.depth, depthOfItems] at ih ihs ⊢
      omega
  | member _ _ _ _ _ ih =>
      simp only [Part.depth, depthOfFields] at ih ⊢
      omega
  | members _ _ _ _ _ _ _ ih ihs =>
      simp only [Part.depth, depthOfFields] at ih ihs ⊢
      omega

/-! ## Objects and items -/

/-- An object is spelled by two braces, or by what spells its fields between them. -/
theorem object_cases {limits : Limits} {depth : Nat} {cs : List Char} {fs : Fields}
    (h : Spells limits depth cs (.value (.obj fs))) :
    (∃ g, cs = openBrace :: (g ++ [closeBrace]) ∧ fs = []) ∨
      ∃ g body depth' fs', cs = openBrace :: (g ++ (body ++ [closeBrace])) ∧
        Spells limits depth' body (.members fs') ∧ fs = collected fs' [] := by
  generalize e : Part.value (.obj fs) = part at h
  cases h with
  | word mem =>
      cases e
      simp [plainWords] at mem
  | numberWord _ mem =>
      cases e
      simp [numberWords] at mem
  | numeral _ _ =>
      injection e with e
      rw [Numeral.value] at e
      split at e <;> cases e
  | emptyObject _ =>
      cases e
      exact .inl ⟨_, rfl, rfl⟩
  | object _ members =>
      cases e
      exact .inr ⟨_, _, _, _, rfl, members, rfl⟩
  | _ => cases e

/-- An object starts with its brace. -/
theorem brace_of_object {limits : Limits} {depth : Nat} {cs : List Char} {fs : Fields}
    (h : Spells limits depth cs (.value (.obj fs))) : ∃ more, cs = openBrace :: more := by
  rcases object_cases h with ⟨_, rfl, _⟩ | ⟨_, _, _, _, rfl, _, _⟩
  · exact ⟨_, rfl⟩
  · exact ⟨_, rfl⟩

/-- A list with items is spelled by what spells its items. -/
theorem items_of_list {limits : Limits} {depth : Nat} {cs : List Char} {v : Json}
    {vs : List Json} (h : Spells limits depth cs (.value (.arr (v :: vs)))) :
    ∃ depth' body, depth = depth' + 1 ∧ Spells limits depth' body (.items (v :: vs)) := by
  generalize e : Part.value (.arr (v :: vs)) = part at h
  cases h with
  | word mem =>
      cases e
      simp [plainWords] at mem
  | numberWord _ mem =>
      cases e
      simp [numberWords] at mem
  | numeral _ _ =>
      injection e with e
      rw [Numeral.value] at e
      split at e <;> cases e
  | list _ items =>
      cases e
      exact ⟨_, _, rfl, items⟩
  | _ => cases e

/-- Each item of a list is spelled somewhere in what spells them all. -/
theorem item_of_items {limits : Limits} {depth : Nat} {cs : List Char} {vs : List Json}
    (h : Spells limits depth cs (.items vs)) :
    ∀ v ∈ vs, ∃ body, Spells limits depth body (.value v) := by
  generalize e : Part.items vs = part at h
  induction h generalizing vs with
  | item hv _ _ =>
      cases e
      intro v mem
      rw [List.mem_singleton.mp mem]
      exact ⟨_, hv⟩
  | items hv _ _ _ _ ih =>
      cases e
      intro v mem
      rcases List.mem_cons.mp mem with rfl | mem
      · exact ⟨_, hv⟩
      · exact ih rfl v mem
  | _ => cases e

/-- An item of a list makes a list by itself. -/
theorem denotes_singleton {limits : Limits} {cs : List Char} {vs : List Json} {v : Json}
    (h : Denotes limits cs (.arr vs)) (mem : v ∈ vs) : ∃ cs', Denotes limits cs' (.arr [v]) := by
  obtain ⟨_, body, _, _, _, _, spells⟩ := h
  cases vs with
  | nil => cases mem
  | cons w vs =>
      obtain ⟨depth, _, deep, items⟩ := items_of_list spells
      obtain ⟨one, hv⟩ := item_of_items items v mem
      have alone := Spells.list gap_nil (.item hv gap_nil)
      rw [← deep] at alone
      exact ⟨_, [], _, [], gap_nil, gap_nil, rfl, alone⟩

end HostMonitor.Json
