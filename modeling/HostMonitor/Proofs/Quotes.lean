import HostMonitor.Proofs.Grammar

/-!
# Between quotes

What a text spells can be inside quotes or outside of them, and each quote that
is not escaped leads from one to the other.  Outside there are few characters:
the brackets, what separates, blanks, and what numbers and words are spelled
with.  Inside there can be any.

A part of a text that starts inside has the two the wrong way round.  If it
spells a document by itself, then both its inside and its outside are made of
the few, and no key of the document has any other character.
-/

namespace HostMonitor.Json

open Number Text

/-- The character can stand outside of quotes.  There are fewer such characters,
but this much tells them from texts. -/
def Bare (c : Char) : Prop :=
  c.toNat < 0x80 ∧ c ≠ doubleQuote ∧ c ≠ '\\' ∧ c ≠ '_' ∧ c ≠ '='

instance (c : Char) : Decidable (Bare c) := inferInstanceAs (Decidable (_ ∧ _))

/-- The text leads from inside quotes, or from outside of them, to inside or
outside. -/
inductive Leads : Bool → List Char → Bool → Prop where
  | nil {inside : Bool} : Leads inside [] inside
  | quote {inside last : Bool} {cs : List Char} :
      Leads (!inside) cs last → Leads inside (doubleQuote :: cs) last
  | bare {last : Bool} {c : Char} {cs : List Char} :
      Bare c → Leads false cs last → Leads false (c :: cs) last
  | plain {last : Bool} {c : Char} {cs : List Char} :
      c ≠ doubleQuote → c ≠ '\\' → Leads true cs last → Leads true (c :: cs) last
  | escaped {last : Bool} {c : Char} {cs : List Char} :
      c.toNat < 0x80 → Leads true cs last → Leads true ('\\' :: c :: cs) last

namespace Leads

theorem append {first middle last : Bool} {cs ds : List Char} (h : Leads first cs middle)
    (h' : Leads middle ds last) : Leads first (cs ++ ds) last := by
  induction h with
  | nil => exact h'
  | quote _ ih => exact .quote (ih h')
  | bare hc _ ih => exact .bare hc (ih h')
  | plain noQuote noEscape _ ih => exact .plain noQuote noEscape (ih h')
  | escaped hc _ ih => exact .escaped hc (ih h')

/-- A text leads to one place. -/
theorem unique {first last last' : Bool} {cs : List Char} (h : Leads first cs last)
    (h' : Leads first cs last') : last = last' := by
  induction h with
  | nil =>
      cases h'
      rfl
  | quote _ ih =>
      cases h' with
      | quote h' => exact ih h'
      | bare hc _ => exact absurd rfl hc.2.1
      | plain noQuote _ _ => exact absurd rfl noQuote
  | bare hc _ ih =>
      cases h' with
      | quote _ => exact absurd rfl hc.2.1
      | bare _ h' => exact ih h'
  | plain noQuote noEscape _ ih =>
      cases h' with
      | quote _ => exact absurd rfl noQuote
      | plain _ _ h' => exact ih h'
      | escaped _ _ => exact absurd rfl noEscape
  | escaped _ _ ih =>
      cases h' with
      | plain _ noEscape _ => exact absurd rfl noEscape
      | escaped _ h' => exact ih h'

/-- A text that can be read from inside and from outside has nothing but the few
characters and quotes. -/
theorem bare_of_both {first last last' : Bool} {cs : List Char} (h : Leads first cs last)
    (h' : Leads (!first) cs last') : ∀ c ∈ cs, c = doubleQuote ∨ Bare c := by
  induction h with
  | nil => exact fun _ h => nomatch h
  | @quote first last cs _ ih =>
      intro c mem
      rcases List.mem_cons.mp mem with rfl | mem
      · exact .inl rfl
      · refine ih ?_ c mem
        cases first with
        | false =>
            cases h' with
            | quote h' => exact h'
            | plain noQuote _ _ => exact absurd rfl noQuote
        | true =>
            cases h' with
            | quote h' => exact h'
            | bare hc _ => exact absurd rfl hc.2.1
  | bare hc _ ih =>
      intro d mem
      rcases List.mem_cons.mp mem with rfl | mem
      · exact .inr hc
      · refine ih ?_ d mem
        cases h' with
        | quote _ => exact absurd rfl hc.2.1
        | plain _ _ h' => exact h'
        | escaped _ _ => exact absurd rfl hc.2.2.1
  | plain noQuote noEscape _ ih =>
      intro d mem
      cases h' with
      | quote _ => exact absurd rfl noQuote
      | bare hc h' =>
          rcases List.mem_cons.mp mem with rfl | mem
          · exact .inr hc
          · exact ih h' d mem
  | escaped _ _ _ =>
      cases h' with
      | bare hc _ => exact absurd rfl hc.2.2.1

/-- Read from the other side, a text leads to the other side. -/
theorem flip {first last last' : Bool} {cs : List Char} (h : Leads first cs last)
    (h' : Leads (!first) cs last') : last' = !last := by
  induction h with
  | nil => exact h'.unique .nil
  | @quote first last cs _ ih =>
      refine ih ?_
      cases first with
      | false =>
          cases h' with
          | quote h' => exact h'
          | plain noQuote _ _ => exact absurd rfl noQuote
      | true =>
          cases h' with
          | quote h' => exact h'
          | bare hc _ => exact absurd rfl hc.2.1
  | bare hc _ ih =>
      cases h' with
      | quote _ => exact absurd rfl hc.2.1
      | plain _ _ h' => exact ih h'
      | escaped _ _ => exact absurd rfl hc.2.2.1
  | plain noQuote _ _ ih =>
      cases h' with
      | quote _ => exact absurd rfl noQuote
      | bare _ h' => exact ih h'
  | escaped _ _ _ =>
      cases h' with
      | bare hc _ => exact absurd rfl hc.2.2.1

/-- After a character that is none of the few, and neither a quote nor an escape, a
text goes on inside. -/
theorem after {c : Char} (odd : ¬ Bare c) (noQuote : c ≠ doubleQuote) (noEscape : c ≠ '\\')
    {first last : Bool} {cs ds : List Char} (h : Leads first (cs ++ c :: ds) last) :
    Leads true ds last := by
  generalize e : cs ++ c :: ds = whole at h
  induction h generalizing cs with
  | nil => cases cs <;> cases e
  | quote _ ih =>
      cases cs with
      | nil =>
          cases e
          exact absurd rfl noQuote
      | cons d cs =>
          cases e
          exact ih rfl
  | bare hd _ ih =>
      cases cs with
      | nil =>
          cases e
          exact absurd hd odd
      | cons d cs =>
          cases e
          exact ih rfl
  | plain _ _ h ih =>
      cases cs with
      | nil =>
          cases e
          exact h
      | cons d cs =>
          cases e
          exact ih rfl
  | escaped _ h ih =>
      match cs, e with
      | [], e =>
          cases e
          exact absurd rfl noEscape
      | [_], e =>
          cases e
          exact h
      | _ :: _ :: cs, e =>
          cases e
          exact ih rfl

/-- A character beyond ASCII stands inside. -/
theorem inside {c : Char} (hc : 0x80 ≤ c.toNat) {first last : Bool} {cs ds : List Char}
    (h : Leads first (cs ++ c :: ds) last) : Leads first cs true ∧ Leads true ds last := by
  have odd : ¬ Bare c := fun h => absurd h.1 (Nat.not_lt_of_le hc)
  have noQuote : c ≠ doubleQuote := by
    rintro rfl
    exact absurd hc (by decide)
  have noEscape : c ≠ '\\' := by
    rintro rfl
    exact absurd hc (by decide)
  refine ⟨?_, h.after odd noQuote noEscape⟩
  generalize e : cs ++ c :: ds = whole at h
  induction h generalizing cs with
  | nil => cases cs <;> cases e
  | quote _ ih =>
      cases cs with
      | nil =>
          cases e
          exact absurd rfl noQuote
      | cons d cs =>
          cases e
          exact .quote (ih rfl)
  | bare hd _ ih =>
      cases cs with
      | nil =>
          cases e
          exact absurd hd odd
      | cons d cs =>
          cases e
          exact .bare hd (ih rfl)
  | plain noQuote' noEscape' _ ih =>
      cases cs with
      | nil =>
          cases e
          exact .nil
      | cons d cs =>
          cases e
          exact .plain noQuote' noEscape' (ih rfl)
  | escaped hd _ ih =>
      match cs, e with
      | [], e =>
          cases e
          exact absurd rfl noEscape
      | [_], e =>
          cases e
          exact absurd hd (Nat.not_lt_of_le hc)
      | _ :: _ :: cs, e =>
          cases e
          exact .escaped hd (ih rfl)

end Leads

/-! ## Documents -/

theorem leads_of_bare {cs : List Char} (h : ∀ c ∈ cs, Bare c) : Leads false cs false := by
  induction cs with
  | nil => exact .nil
  | cons c cs ih =>
      exact .bare (h c List.mem_cons_self) (ih fun d mem => h d (List.mem_cons_of_mem _ mem))

theorem bare_of_all {cs : List Char} (h : cs.all (fun c => decide (Bare c)) = true) :
    ∀ c ∈ cs, Bare c :=
  fun c mem => of_decide_eq_true (List.all_eq_true.mp h c mem)

theorem bare_digit {d : Char} (h : d.isDigit = true) : Bare d := by
  have digit : 48 ≤ d.toNat ∧ d.toNat ≤ 57 := by
    rw [Char.isDigit, Bool.and_eq_true, decide_eq_true_eq, decide_eq_true_eq] at h
    exact h
  refine ⟨by omega, ?_, ?_, ?_, ?_⟩
  all_goals
    rintro rfl
    exact absurd digit (by decide)

theorem bare_gap {g : List Char} (h : Gap g) : ∀ c ∈ g, Bare c := by
  intro c mem
  have gap := h c mem
  simp only [isGap, Bool.or_eq_true, beq_iff_eq] at gap
  rcases gap with ((rfl | rfl) | rfl) | rfl <;> decide

theorem bare_word {w : List Char} {v : Json} (h : (w, v) ∈ plainWords ++ numberWords) :
    ∀ c ∈ w, Bare c := by
  have words : (plainWords ++ numberWords).all (fun f => f.1.all fun c => decide (Bare c)) := by
    decide +kernel
  exact bare_of_all (List.all_eq_true.mp words _ h)

theorem bare_numeral {n : Numeral} (h : n.WellFormed) : ∀ c ∈ n.text, Bare c := by
  intro c mem
  rw [Numeral.text, List.mem_append, List.mem_append, List.mem_append] at mem
  rcases mem with mem | mem | mem | mem
  · split at mem
    · rw [List.mem_singleton.mp mem]
      decide
    · cases mem
  · rcases h.whole with zero | ⟨⟨_, digits⟩, _⟩
    · rw [zero] at mem
      rw [List.mem_singleton.mp mem]
      decide
    · exact bare_digit (digits c mem)
  · rw [Numeral.fractionText] at mem
    split at mem
    · cases mem
    · rcases List.mem_cons.mp mem with rfl | mem
      · decide
      · exact bare_digit (h.fraction c mem)
  · cases e : n.exponent with
    | none =>
        rw [e] at mem
        cases mem
    | some exponent =>
        have wf := h.exponent exponent e
        rw [e, Numeral.exponentText, Exponent.text, List.mem_cons, List.mem_append] at mem
        rcases mem with rfl | mem | mem
        · rcases wf.letter with e | e <;> rw [e] <;> decide
        · rcases wf.sign with e | e | e
          · rw [e] at mem
            cases mem
          · rw [e] at mem
            rw [List.mem_singleton.mp mem]
            decide
          · rw [e] at mem
            rw [List.mem_singleton.mp mem]
            decide
        · exact bare_digit (wf.digits.2 c mem)

theorem letter_lt {e : Char} {point : Nat} (h : letterEscape? e = some point) :
    e.toNat < 0x80 := by
  apply Nat.lt_of_not_le
  intro high
  have ne : ∀ d : Char, d.toNat < 0x80 → e ≠ d := by
    rintro d low rfl
    omega
  have none : letterEscape? e = none := by
    simp [letterEscape?, ne letterEscape?.doubleQuote (by decide), ne '\\' (by decide),
      ne '/' (by decide), ne 'b' (by decide), ne 'f' (by decide), ne 'n' (by decide),
      ne 'r' (by decide), ne 't' (by decide)]
  rw [none] at h
  cases h

theorem leads_of_hex {c : Char} {v : Nat} (h : hexValue? c = some v) {cs : List Char}
    (rest : Leads true cs true) : Leads true (c :: cs) true := by
  refine .plain ?_ ?_ rest
  · rintro rfl
    cases h
  · rintro rfl
    cases h

theorem leads_of_marks {cs : List Char} {ms : List (Nat × Bool)} (h : Marks cs ms) :
    Leads true cs true := by
  induction h with
  | nil => exact .nil
  | plain _ noQuote noEscape _ ih =>
      exact .plain (fun e => noQuote (by rw [e]; rfl)) noEscape ih
  | letter known _ ih => exact .escaped (letter_lt known) ih
  | unit known _ ih =>
      simp only [hexUnit?, Option.bind_eq_bind, Option.bind_eq_some_iff] at known
      obtain ⟨_, ha, _, hb, _, hc, _, hd, _⟩ := known
      exact .escaped (by decide) (leads_of_hex ha (leads_of_hex hb (leads_of_hex hc
        (leads_of_hex hd ih))))

theorem leads_of_spells {limits : Limits} {depth : Nat} {cs : List Char} {part : Part}
    (h : Spells limits depth cs part) : Leads false cs false := by
  have gap : ∀ {g : List Char}, Gap g → Leads false g false := fun h => leads_of_bare (bare_gap h)
  have bare : ∀ {c : Char} {cs : List Char}, Bare c → Leads false cs false →
      Leads false (c :: cs) false := fun hc h => .bare hc h
  have quoted : ∀ {key : List Char} {ms : List (Nat × Bool)} {cs : List Char}, Marks key ms →
      Leads false cs false → Leads false (doubleQuote :: (key ++ doubleQuote :: cs)) false :=
    fun marks h => .quote ((leads_of_marks marks).append (.quote h))
  induction h with
  | word mem => exact leads_of_bare (bare_word (List.mem_append_left _ mem))
  | numberWord _ mem => exact leads_of_bare (bare_word (List.mem_append_right _ mem))
  | numeral wf _ => exact leads_of_bare (bare_numeral wf)
  | text marks => exact quoted marks .nil
  | emptyList hg => exact bare (by decide) ((gap hg).append (bare (by decide) .nil))
  | list hg _ ih => exact bare (by decide) ((gap hg).append (ih.append (bare (by decide) .nil)))
  | emptyObject hg => exact bare (by decide) ((gap hg).append (bare (by decide) .nil))
  | object hg _ ih => exact bare (by decide) ((gap hg).append (ih.append (bare (by decide) .nil)))
  | item _ hg ih => exact ih.append (gap hg)
  | items _ hg hh _ ih ihs =>
      exact ih.append ((gap hg).append (bare (by decide) ((gap hh).append ihs)))
  | member hk hg hh _ gk ih =>
      exact quoted hk ((gap hg).append (bare (by decide) ((gap hh).append (ih.append (gap gk)))))
  | members hk hg hh _ gk hl _ ih ihs =>
      exact quoted hk ((gap hg).append (bare (by decide) ((gap hh).append (ih.append
        ((gap gk).append (bare (by decide) ((gap hl).append ihs)))))))

/-- A document leads from outside to outside. -/
theorem leads_of_denotes {limits : Limits} {cs : List Char} {doc : Json}
    (h : Denotes limits cs doc) : Leads false cs false := by
  obtain ⟨g, body, k, hg, hk, rfl, spells⟩ := h
  exact (leads_of_bare (bare_gap hg)).append
    ((leads_of_spells spells).append (leads_of_bare (bare_gap hk)))

/-! ## Keys -/

/-- Without escapes a text is spelled by itself. -/
theorem points_of_marks {cs : List Char} {ms : List (Nat × Bool)} (h : Marks cs ms)
    (raw : '\\' ∉ cs) : joined ms = cs.map Char.toNat := by
  induction h with
  | nil => rfl
  | @plain c cs ms _ _ _ _ ih =>
      rw [List.map_cons, ← ih fun mem => raw (List.mem_cons_of_mem _ mem), joined]
      rintro _ _ _ ⟨⟩
  | letter _ _ _ => exact absurd List.mem_cons_self raw
  | unit _ _ _ => exact absurd List.mem_cons_self raw

/-- The characters of a key stand in what spells the fields. -/
theorem mem_of_key {limits : Limits} {depth : Nat} {cs : List Char} {fs : Fields}
    (h : Spells limits depth cs (.members fs)) (raw : '\\' ∉ cs) :
    ∀ f ∈ fs, ∃ key : List Char, f.1 = .chars (String.ofList key) ∧ ∀ c ∈ key, c ∈ cs := by
  generalize e : Part.members fs = part at h
  induction h generalizing fs with
  | @member _ key _ _ _ _ ms v hk _ _ _ _ _ =>
      cases e
      intro f mem
      rw [List.mem_singleton.mp mem]
      refine ⟨key, ?_, by simp +contextual⟩
      rw [points_of_marks hk (fun mem => raw (by simp [mem])), WireText.ofPoints_chars]
  | @members _ key _ _ _ _ _ _ ms v fs hk _ _ _ _ _ _ _ ih =>
      cases e
      intro f mem
      rcases List.mem_cons.mp mem with rfl | mem
      · refine ⟨key, ?_, by simp +contextual⟩
        rw [points_of_marks hk (fun mem => raw (by simp [mem])), WireText.ofPoints_chars]
      · obtain ⟨key, same, inside⟩ := ih (fun mem => raw (by simp [mem])) rfl f mem
        exact ⟨key, same, fun c mem => by simp [inside c mem]⟩
  | _ => cases e

theorem get?_put_of_ne {key k : WireText} (h : k ≠ key) (v : Json) (fs : Fields) :
    Fields.get? key (fs.put k v) = fs.get? key := by
  induction fs with
  | nil => exact if_neg h
  | cons f fs ih =>
      obtain ⟨k', v'⟩ := f
      rw [Keyed.put]
      split
      · next same => rw [Fields.get?, Fields.get?, if_neg (same ▸ h), if_neg (same ▸ h)]
      · rw [Fields.get?, Fields.get?, ih]

theorem get?_collected {key : WireText} {fs : Fields} (h : ∀ f ∈ fs, f.1 ≠ key) :
    ∀ before : Fields, (collected fs before).get? key = before.get? key := by
  induction fs with
  | nil => exact fun _ => rfl
  | cons f fs ih =>
      intro before
      have rest := ih (fun f mem => h f (List.mem_cons_of_mem _ mem)) (before.put f.1 f.2)
      rw [get?_put_of_ne (h f List.mem_cons_self)] at rest
      exact rest

/-- A document without escapes has no key with a character that does not stand in
its text. -/
theorem get?_eq_none {limits : Limits} {cs : List Char} {fs : Fields}
    (h : Denotes limits cs (.obj fs)) (raw : '\\' ∉ cs) {key : String} {c : Char}
    (mem : c ∈ key.toList) (missing : c ∉ cs) : fs.get? key = none := by
  obtain ⟨g, body, k, _, _, rfl, spells⟩ := h
  obtain ⟨_, rfl, rfl⟩ | ⟨_, more, _, _, rfl, members, rfl⟩ :=
    object_cases spells
  · rfl
  · rw [get?_collected]
    · rfl
    · intro f hf same
      obtain ⟨text, e, inside⟩ := mem_of_key members (fun mem => raw (by simp [mem])) f hf
      rw [e] at same
      cases same
      rw [String.toList_ofList] at mem
      exact missing (by simp [inside c mem])

end HostMonitor.Json
