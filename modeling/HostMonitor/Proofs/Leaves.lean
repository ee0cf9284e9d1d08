import HostMonitor.Proofs.Grammar
import Mathlib.Data.List.TakeWhile

/-!
# Reading the leaves of documents

Gaps, numbers and texts are read as they are spelled, and what is read is
spelled.  A number ends where no further character could belong to it, so its
reading depends on one character after it.
-/

namespace HostMonitor.Json

open Number Text

/-- The text does not go on with a character of the class. -/
def Stops (p : Char → Bool) : List Char → Prop
  | [] => True
  | c :: _ => p c = false

theorem takeWhile_stops {p : Char → Bool} :
    ∀ {rest : List Char}, Stops p rest → rest.takeWhile p = []
  | [], _ => rfl
  | _ :: _, h => List.takeWhile_cons_of_neg (ne_true_of_eq_false h)

theorem dropWhile_stops {p : Char → Bool} :
    ∀ {rest : List Char}, Stops p rest → rest.dropWhile p = rest
  | [], _ => rfl
  | _ :: _, h => List.dropWhile_cons_of_neg (ne_true_of_eq_false h)

/-- A run of a class is taken whole when the text stops after it. -/
theorem takeWhile_run {p : Char → Bool} {ds rest : List Char} (h : ∀ d ∈ ds, p d = true)
    (stop : Stops p rest) : (ds ++ rest).takeWhile p = ds := by
  rw [List.takeWhile_append_of_pos h, takeWhile_stops stop, List.append_nil]

theorem dropWhile_run {p : Char → Bool} {ds rest : List Char} (h : ∀ d ∈ ds, p d = true)
    (stop : Stops p rest) : (ds ++ rest).dropWhile p = rest := by
  rw [List.dropWhile_append_of_pos h, dropWhile_stops stop]

/-! ## Gaps -/

theorem skipBlanks_eq (cs : List Char) : skipBlanks cs = cs.dropWhile isGap := rfl

theorem skipBlanks_gap {g : List Char} (h : Gap g) (rest : List Char) :
    skipBlanks (g ++ rest) = skipBlanks rest := by
  rw [skipBlanks_eq, List.dropWhile_append_of_pos h, skipBlanks_eq]

theorem skipBlanks_of_stops {cs : List Char} (h : Stops isGap cs) : skipBlanks cs = cs :=
  dropWhile_stops h

theorem skipBlanks_gap_cons {g : List Char} (h : Gap g) {c : Char} (hc : isGap c = false)
    (rest : List Char) : skipBlanks (g ++ c :: rest) = c :: rest := by
  rw [skipBlanks_gap h]
  exact skipBlanks_of_stops (show Stops isGap (c :: rest) from hc)

/-- What is skipped is a gap. -/
theorem exists_gap (cs : List Char) : ∃ g, Gap g ∧ cs = g ++ skipBlanks cs :=
  ⟨cs.takeWhile isGap, fun _ h => List.mem_takeWhile_imp h,
    (List.takeWhile_append_dropWhile).symm⟩

/-! ## Numbers -/

theorem isDigit_ne {d : Char} (h : d.isDigit = true) (c : Char) (hc : c.isDigit = false) :
    d ≠ c := by
  rintro rfl
  rw [h] at hc
  cases hc

theorem wholePart?_cons {c : Char} (h : c ≠ '0') (cs : List Char) :
    wholePart? (c :: cs) =
      if ((c :: cs).takeWhile Char.isDigit).isEmpty then none
      else some ((c :: cs).takeWhile Char.isDigit, (c :: cs).dropWhile Char.isDigit) := by
  rw [wholePart?]
  rintro rest ⟨⟩
  exact h rfl

/-- A whole part is read as it is spelled. -/
theorem wholePart?_append {ds rest : List Char} (h : Whole ds) (stop : Stops Char.isDigit rest) :
    wholePart? (ds ++ rest) = some (ds, rest) := by
  rcases h with rfl | ⟨⟨filled, digits⟩, first⟩
  · rfl
  · cases ds with
    | nil => exact absurd rfl filled
    | cons d ds =>
        have hd : d ≠ '0' := fun e => first (by rw [e]; rfl)
        rw [List.cons_append, wholePart?_cons hd, ← List.cons_append, takeWhile_run digits stop,
          dropWhile_run digits stop]
        rfl

/-- What is read as a whole part is one. -/
theorem whole_of_wholePart? {cs ds rest : List Char} (h : wholePart? cs = some (ds, rest)) :
    Whole ds ∧ cs = ds ++ rest := by
  cases cs with
  | nil => simp [wholePart?] at h
  | cons c cs =>
      by_cases hc : c = '0'
      · subst hc
        cases h
        exact ⟨.inl rfl, rfl⟩
      · rw [wholePart?_cons hc] at h
        cases hd : c.isDigit with
        | false => simp [hd] at h
        | true =>
            rw [List.takeWhile_cons_of_pos hd, List.dropWhile_cons_of_pos hd] at h
            cases h
            refine ⟨.inr ⟨⟨by simp, ?_⟩, by simpa using hc⟩, ?_⟩
            · rintro d (_ | ⟨_, h⟩)
              · exact hd
              · exact List.mem_takeWhile_imp h
            · rw [List.cons_append, List.takeWhile_append_dropWhile]

/-- The digits after a point are read as they are spelled. -/
theorem fractionPart_append {ds rest : List Char} (h : ∀ d ∈ ds, d.isDigit = true)
    (stop : Stops Char.isDigit rest) (point : Stops (· == '.') rest) :
    fractionPart (Numeral.fractionText ds ++ rest) = (ds, rest) := by
  rw [Numeral.fractionText]
  split
  · next none =>
      subst none
      cases rest with
      | nil => rfl
      | cons c rest =>
          rw [List.nil_append, fractionPart]
          rintro _ ⟨⟩
          cases point
  · next filled =>
      rw [List.cons_append, fractionPart, takeWhile_run h stop, dropWhile_run h stop]
      simp [filled]

/-- What is read after a point is spelled there. -/
theorem fraction_of_fractionPart {cs ds rest : List Char} (h : fractionPart cs = (ds, rest)) :
    (∀ d ∈ ds, d.isDigit = true) ∧ cs = Numeral.fractionText ds ++ rest := by
  unfold fractionPart at h
  split at h
  · next more =>
      dsimp only at h
      split at h
      · cases h
        exact ⟨by simp, rfl⟩
      · next filled =>
          cases h
          refine ⟨fun _ h => List.mem_takeWhile_imp h, ?_⟩
          rw [Numeral.fractionText, if_neg (by simpa using filled), List.cons_append,
            List.takeWhile_append_dropWhile]
  · cases h
    exact ⟨by simp, rfl⟩

/-- A sign is taken off as it is spelled. -/
theorem takeSign_append {sign ds rest : List Char}
    (h : sign = [] ∨ sign = ['+'] ∨ sign = ['-']) (hd : Digits ds) :
    takeSign (sign ++ (ds ++ rest)) = (decide (sign = ['-']), ds ++ rest) := by
  rcases h with rfl | rfl | rfl
  · obtain ⟨filled, digits⟩ := hd
    cases ds with
    | nil => exact absurd rfl filled
    | cons d ds =>
        have hd := digits d List.mem_cons_self
        rw [List.nil_append, List.cons_append, takeSign]
        · rfl
        · rintro _ ⟨⟩
          cases hd
        · rintro _ ⟨⟩
          cases hd
  · rfl
  · rfl

/-- A sign that is taken off is spelled there. -/
theorem sign_of_takeSign {cs body : List Char} {negative : Bool}
    (h : takeSign cs = (negative, body)) :
    ∃ sign, (sign = [] ∨ sign = ['+'] ∨ sign = ['-']) ∧ negative = decide (sign = ['-']) ∧
      cs = sign ++ body := by
  unfold takeSign at h
  split at h
  · cases h
    exact ⟨['-'], by simp, rfl, rfl⟩
  · cases h
    exact ⟨['+'], by simp, rfl, rfl⟩
  · cases h
    exact ⟨[], by simp, rfl, rfl⟩

/-- An exponent is read as it is spelled. -/
theorem exponentPart_append {e : Option Exponent} {rest : List Char}
    (h : ∀ x ∈ e, x.WellFormed) (stop : Stops Char.isDigit rest)
    (letter : Stops (fun c => c == 'e' || c == 'E') rest) :
    exponentPart (Numeral.exponentText e ++ rest) = (e.map Exponent.value, rest) := by
  cases e with
  | none =>
      rw [Numeral.exponentText, List.nil_append]
      cases rest with
      | nil => rfl
      | cons c rest =>
          have hc : (c == 'e' || c == 'E') = false := letter
          simp [exponentPart, hc]
  | some x =>
      obtain ⟨hl, hs, hd⟩ := h x rfl
      have hc : (x.letter == 'e' || x.letter == 'E') = true := by simpa using hl
      have filled : x.digits.isEmpty = false := by simpa using hd.1
      rw [Numeral.exponentText, Exponent.text, List.cons_append, List.append_assoc, exponentPart,
        if_pos hc, takeSign_append hs hd]
      simp only [takeWhile_run hd.2 stop, dropWhile_run hd.2 stop, filled, Option.map_some,
        Exponent.value]
      simp

/-- An exponent that is read is spelled there. -/
theorem exponent_of_exponentPart {cs rest : List Char} {value : Option Int}
    (h : exponentPart cs = (value, rest)) :
    ∃ e : Option Exponent, (∀ x ∈ e, x.WellFormed) ∧ value = e.map Exponent.value ∧
      cs = Numeral.exponentText e ++ rest := by
  have nothing : (none, cs) = (value, rest) → ∃ e : Option Exponent,
      (∀ x ∈ e, x.WellFormed) ∧ value = e.map Exponent.value ∧
        cs = Numeral.exponentText e ++ rest := by
    rintro ⟨⟩
    exact ⟨none, by simp, rfl, rfl⟩
  cases cs with
  | nil => exact nothing h
  | cons c cs =>
      rw [exponentPart] at h
      split at h
      · next letter =>
          obtain ⟨sign, signed, minus, split⟩ := sign_of_takeSign (Prod.eta (takeSign cs)).symm
          dsimp only at h
          split at h
          · exact nothing h
          · next filled =>
              cases h
              refine ⟨some ⟨c, sign, (takeSign cs).2.takeWhile Char.isDigit⟩, ?_, ?_, ?_⟩
              · rintro x ⟨⟩
                exact ⟨by simpa using letter, signed, by simpa using filled,
                  fun _ h => List.mem_takeWhile_imp h⟩
              · simp [Exponent.value, minus]
              · rw [Numeral.exponentText, Exponent.text, List.cons_append, List.append_assoc,
                  List.takeWhile_append_dropWhile, ← split]
      · exact nothing h

/-- A character that could go on in a number. -/
def inNumber (c : Char) : Bool := c.isDigit || c == '.' || c == 'e' || c == 'E'

theorem stops_of_stops {p q : Char → Bool} (h : ∀ c, q c = true → p c = true) :
    ∀ {rest : List Char}, Stops p rest → Stops q rest
  | [], _ => trivial
  | c :: _, stop => by
      cases hq : q c with
      | true => exact (ne_true_of_eq_false stop (h c hq)).elim
      | false => exact hq

/-- A point or the letter of an exponent is no digit. -/
theorem stops_exponentText {e : Option Exponent} {rest : List Char} {p : Char → Bool}
    (h : ∀ x ∈ e, x.WellFormed) (letters : p 'e' = false ∧ p 'E' = false)
    (stop : Stops p rest) : Stops p (Numeral.exponentText e ++ rest) := by
  cases e with
  | none => exact stop
  | some x =>
      show p x.letter = false
      rcases (h x rfl).letter with hl | hl
      · rw [hl]
        exact letters.1
      · rw [hl]
        exact letters.2

theorem stops_fractionText {ds rest : List Char} {p : Char → Bool} (point : p '.' = false)
    (stop : Stops p rest) : Stops p (Numeral.fractionText ds ++ rest) := by
  rw [Numeral.fractionText]
  split
  · exact stop
  · exact point

/-- A whole part starts with a digit. -/
theorem whole_head {ds : List Char} (h : Whole ds) :
    ∃ d more, ds = d :: more ∧ d.isDigit = true := by
  rcases h with rfl | ⟨⟨filled, digits⟩, _⟩
  · exact ⟨'0', [], rfl, rfl⟩
  · cases ds with
    | nil => exact absurd rfl filled
    | cons d more => exact ⟨d, more, rfl, digits d List.mem_cons_self⟩

theorem number_minus (limits : Limits) (body : List Char) :
    number limits ('-' :: body) = unsignedNumber limits true body := rfl

theorem number_plain (limits : Limits) {body : List Char} (h : body.head? ≠ some '-') :
    number limits body = unsignedNumber limits false body := by
  rw [number]
  rintro rest rfl
  exact h rfl

/-- A number is read as it is spelled. -/
theorem number_of_numeral {limits : Limits} {n : Numeral} {rest : List Char}
    (h : n.WellFormed) (fits : n.Fits limits) (stop : Stops inNumber rest) :
    number limits (n.text ++ rest) = .ok (n.value, rest) := by
  have digit : Stops Char.isDigit rest := stops_of_stops (fun c h => by simp [inNumber, h]) stop
  have point : Stops (· == '.') rest := stops_of_stops (fun c h => by simp [inNumber, h]) stop
  have letter : Stops (fun c => c == 'e' || c == 'E') rest :=
    stops_of_stops (fun c h => by rw [inNumber, Bool.or_assoc, h, Bool.or_true]) stop
  have digit' : Stops Char.isDigit (Numeral.exponentText n.exponent ++ rest) :=
    stops_exponentText h.exponent ⟨rfl, rfl⟩ digit
  have point' : Stops (· == '.') (Numeral.exponentText n.exponent ++ rest) :=
    stops_exponentText h.exponent ⟨rfl, rfl⟩ point
  have after : unsignedNumber limits n.negative
      (n.whole ++ (Numeral.fractionText n.fraction ++ (Numeral.exponentText n.exponent ++ rest)))
        = .ok (n.value, rest) := by
    rw [unsignedNumber, wholePart?_append h.whole (stops_fractionText rfl digit')]
    simp only [fractionPart_append h.fraction digit' point',
      exponentPart_append h.exponent digit letter, Option.isNone_map]
    rw [Numeral.value, Numeral.isInteger]
    split
    · next integer => rw [if_neg (by have := fits integer; omega)]
    · rfl
  have spelled : n.text ++ rest = (if n.negative then ['-'] else []) ++ (n.whole ++
      (Numeral.fractionText n.fraction ++ (Numeral.exponentText n.exponent ++ rest))) := by
    simp [Numeral.text]
  rw [spelled]
  cases sign : n.negative with
  | true =>
      rw [sign] at after
      exact (number_minus limits _).trans after
  | false =>
      rw [sign] at after
      obtain ⟨d, more, e, hd⟩ := whole_head h.whole
      have first : d ≠ '-' := isDigit_ne hd '-' rfl
      rw [← after]
      refine number_plain limits ?_
      simpa [e] using first

/-- A number that is read is spelled there. -/
theorem numeral_of_number {limits : Limits} {cs rest : List Char} {v : Json}
    (h : number limits cs = .ok (v, rest)) :
    ∃ n : Numeral, n.WellFormed ∧ n.Fits limits ∧ v = n.value ∧ cs = n.text ++ rest := by
  have after : ∀ {negative : Bool} {body : List Char},
      unsignedNumber limits negative body = .ok (v, rest) →
      ∃ n : Numeral, n.WellFormed ∧ n.Fits limits ∧ v = n.value ∧ n.negative = negative ∧
        body = n.whole ++ (Numeral.fractionText n.fraction ++
          (Numeral.exponentText n.exponent ++ rest)) := by
    intro negative body h
    rw [unsignedNumber] at h
    split at h
    · cases h
    · next whole rest' hw =>
        obtain ⟨wf, rfl⟩ := whole_of_wholePart? hw
        obtain ⟨digits, hf⟩ := fraction_of_fractionPart (Prod.eta (fractionPart rest')).symm
        obtain ⟨e, we, hv, he⟩ := exponent_of_exponentPart
          (Prod.eta (exponentPart (fractionPart rest').2)).symm
        dsimp only at h
        refine ⟨⟨negative, whole, (fractionPart rest').1, e⟩, ⟨wf, digits, we⟩, ?_⟩
        rw [hv, Option.isNone_map] at h
        split at h
        · next integer =>
            split at h
            · cases h
            · next short =>
                cases h
                refine ⟨fun _ => by simpa using short, ?_, rfl, ?_⟩
                · rw [Numeral.value, Numeral.isInteger, if_pos integer]
                · rw [← he, ← hf]
        · next real =>
            cases h
            refine ⟨fun integer => absurd integer real, ?_, rfl, ?_⟩
            · rw [Numeral.value, Numeral.isInteger, if_neg real]
            · rw [← he, ← hf]
  by_cases minus : cs.head? = some '-'
  · cases cs with
    | nil => cases minus
    | cons c body =>
        cases minus
        rw [number_minus] at h
        obtain ⟨n, wf, fits, hv, sign, e⟩ := after h
        exact ⟨n, wf, fits, hv, by simp [Numeral.text, sign, e]⟩
  · rw [number_plain limits minus] at h
    obtain ⟨n, wf, fits, hv, sign, e⟩ := after h
    exact ⟨n, wf, fits, hv, by simp [Numeral.text, sign, e]⟩

/-! ## Texts -/

/-- What the reader holds after marked code points, backwards. -/
def pushed (read : List (Nat × Bool)) (ms : List (Nat × Bool)) : List (Nat × Bool) :=
  ms.foldl (fun held m => if m.2 then pushUnit held m.1 else m :: held) read

theorem pushUnit_marked (u l : Nat) (before : List (Nat × Bool)) :
    pushUnit ((u, true) :: before) l =
      if isHigh u && isLow l then
        (0x10000 + (u - 0xD800) * 0x400 + (l - 0xDC00), false) :: before
      else (l, true) :: (u, true) :: before := rfl

theorem pushUnit_unmarked {read : List (Nat × Bool)} (h : ∀ m ∈ read.head?, m.2 = false)
    (l : Nat) : pushUnit read l = (l, true) :: read := by
  rw [pushUnit]
  rintro u before rfl
  cases h _ rfl

/-- The reader joins the units of pairs.  It holds the last unit open, since the
next one can complete it. -/
theorem joined_pushed :
    ∀ ms : List (Nat × Bool),
      (∀ read : List (Nat × Bool), (∀ m ∈ read.head?, m.2 = false) →
        (pushed read ms).reverse.map Prod.fst = read.reverse.map Prod.fst ++ joined ms) ∧
      ∀ (u : Nat) (before : List (Nat × Bool)),
        (pushed ((u, true) :: before) ms).reverse.map Prod.fst =
          before.reverse.map Prod.fst ++ joined ((u, true) :: ms)
  | [] => by simp [pushed, joined]
  | (p, false) :: ms => by
      have closed := (joined_pushed ms).1
      constructor
      · intro read _
        exact (closed ((p, false) :: read) (by simp)).trans (by simp [joined])
      · intro u before
        exact (closed ((p, false) :: (u, true) :: before) (by simp)).trans (by simp [joined])
  | (l, true) :: ms => by
      obtain ⟨closed, opened⟩ := joined_pushed ms
      constructor
      · intro read h
        have step : pushed read ((l, true) :: ms) = pushed ((l, true) :: read) ms := by
          rw [pushed, List.foldl_cons, if_pos rfl, pushUnit_unmarked h]
          rfl
        rw [step]
        exact opened l read
      · intro u before
        have step : pushed ((u, true) :: before) ((l, true) :: ms) =
            pushed (pushUnit ((u, true) :: before) l) ms := rfl
        rw [step, pushUnit_marked, joined]
        split
        · exact (closed _ (by simp)).trans (by simp)
        · exact (opened l _).trans (by simp)

/-- A text is read as it is spelled. -/
theorem textPoints_of_marks {cs : List Char} {ms : List (Nat × Bool)} (h : Marks cs ms) :
    ∀ (read : List (Nat × Bool)) (rest : List Char),
      textPoints read (cs ++ doubleQuote :: rest) =
        .ok ((pushed read ms).reverse.map Prod.fst, rest) := by
  induction h with
  | nil =>
      intro read rest
      rfl
  | @plain c cs ms printable noQuote noEscape _ ih =>
      intro read rest
      rw [List.cons_append, textPoints]
      · rw [if_neg noQuote, if_neg (by simp [noEscape]; omega)]
        exact ih _ rest
      · rintro _ _ _ _ _ ⟨⟩
        exact absurd rfl noEscape
      · rintro _ _ ⟨⟩
        exact absurd rfl noEscape
  | @letter e point cs ms known _ ih =>
      intro read rest
      rw [List.cons_append, List.cons_append, textPoints]
      · rw [known]
        exact ih _ rest
      · rintro _ _ _ _ _ ⟨⟩
        cases known
  | @unit a b c d u cs ms known _ ih =>
      intro read rest
      simp only [List.cons_append]
      rw [textPoints, known]
      exact ih _ rest

/-- A text that is read is spelled there. -/
theorem marks_of_textPoints (read : List (Nat × Bool)) (cs : List Char) {points : List Nat}
    {rest : List Char} (h : textPoints read cs = .ok (points, rest)) :
    ∃ body ms, Marks body ms ∧ points = (pushed read ms).reverse.map Prod.fst ∧
      cs = body ++ doubleQuote :: rest := by
  fun_induction textPoints read cs with
  | case1 => cases h
  | case2 read a b c d more u known ih =>
      obtain ⟨body, ms, hm, hp, rfl⟩ := ih h
      exact ⟨_, _, .unit known hm, hp, rfl⟩
  | case3 => cases h
  | case4 read e more _ point known ih =>
      obtain ⟨body, ms, hm, hp, rfl⟩ := ih h
      exact ⟨_, _, .letter known hm, hp, rfl⟩
  | case5 => cases h
  | case6 read c more _ _ quote =>
      cases h
      refine ⟨[], [], .nil, rfl, ?_⟩
      rw [show c = doubleQuote from Char.toNat_inj.mp quote]
      rfl
  | case7 => cases h
  | case8 read c more _ _ noQuote plain ih =>
      obtain ⟨body, ms, hm, hp, rfl⟩ := ih h
      have printable : 0x20 ≤ c.toNat ∧ c ≠ '\\' := by simpa using plain
      exact ⟨_, _, .plain printable.1 noQuote printable.2 hm, hp, rfl⟩

/-- A text whose opening quote has been read is read as it is spelled. -/
theorem text_of_marks {cs : List Char} {ms : List (Nat × Bool)} (h : Marks cs ms)
    (rest : List Char) :
    text (cs ++ doubleQuote :: rest) = .ok (.ofPoints (joined ms), rest) := by
  rw [text, textPoints_of_marks h, (joined_pushed ms).1 [] (by simp)]
  rfl

theorem marks_of_text {cs rest : List Char} {t : WireText} (h : text cs = .ok (t, rest)) :
    ∃ body ms, Marks body ms ∧ t = .ofPoints (joined ms) ∧
      cs = body ++ doubleQuote :: rest := by
  rw [text] at h
  cases e : textPoints [] cs with
  | error _ =>
      rw [e] at h
      cases h
  | ok found =>
      rw [e] at h
      cases h
      obtain ⟨body, ms, hm, hp, hc⟩ := marks_of_textPoints [] cs e
      refine ⟨body, ms, hm, ?_, hc⟩
      rw [hp, (joined_pushed ms).1 [] (by simp)]
      rfl

end HostMonitor.Json
