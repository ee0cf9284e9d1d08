import HostMonitor.Pattern.Reader
import HostMonitor.Proofs.Outcomes
import Mathlib.Data.List.Basic
import Mathlib.Tactic.SplitIfs

/-!
# Scans of tokens

`Overreaches` names three things that a pattern can ask too much of: a count that is too
great, more opening brackets than groups may nest deep, or flags for both alphabets.

A scan reads a part of the tokens and leaves their end.  Most scans fail for malformed
patterns only.  A count in braces is the one that can be beyond reach, and then it is too
great.
-/

namespace HostMonitor.Pattern

open Number Text

/-! ## What a pattern asks too much of -/

def openBrace : Token := .plain '\x7b'

def closeBrace : Token := .plain '\x7d'

/-- The digits are a count that is too great. -/
def TooGreat (ds : List Char) : Prop := digitLimit < ds.length ∨ countLimit ≤ natOfDigits ds

/-- One count in braces, or the second of two, is too great. -/
inductive AsksGreatCount : List Token → Prop
  | one {before after : List Token} {ds : List Char} : (∀ c ∈ ds, c.isDigit = true) →
      TooGreat ds →
      AsksGreatCount (before ++ openBrace :: (ds.map .plain ++ closeBrace :: after))
  | two {before after : List Token} {ds es : List Char} : (∀ c ∈ ds, c.isDigit = true) →
      (∀ c ∈ es, c.isDigit = true) → TooGreat ds ∨ TooGreat es →
      AsksGreatCount (before ++ openBrace ::
        (ds.map .plain ++ .plain ',' :: (es.map .plain ++ closeBrace :: after)))

/-- Flags for the whole pattern have the letter. -/
inductive AsksFlag (letter : Char) : List Token → Prop
  | intro {before after : List Token} {letters : List Char} :
      (∀ c ∈ letters, isFlagLetter c = true) → letter ∈ letters →
      AsksFlag letter (before ++ .plain '(' :: .plain '?' ::
        (letters.map .plain ++ .plain ')' :: after))

/-- How many brackets are opened. -/
def opens (ts : List Token) : Nat := ts.count (.plain '(')

/-- What a pattern beyond reach asks for. -/
inductive Overreaches (ts : List Token) : Prop
  | count : AsksGreatCount ts → Overreaches ts
  | depth : depthLimit ≤ opens ts → Overreaches ts
  | alphabets : AsksFlag 'a' ts → AsksFlag 'u' ts → Overreaches ts

/-! ## Scans -/

/-- Characters at the front are those of plain tokens. -/
theorem charsAtMost_eq (p : Char → Bool) (most : Nat) (ts : List Token) :
    ts = (charsAtMost p most ts).1.map .plain ++ (charsAtMost p most ts).2 ∧
      ∀ c ∈ (charsAtMost p most ts).1, p c = true := by
  induction most generalizing ts with
  | zero => simp [charsAtMost]
  | succ most ih =>
      unfold charsAtMost
      split
      · next most' c rest same =>
          cases same
          split
          · next passes =>
              obtain ⟨same, each⟩ := ih rest
              exact ⟨congrArg (Token.plain c :: ·) same, List.forall_mem_cons.mpr ⟨passes, each⟩⟩
          · simp
      · simp

theorem charsAtMost_suffix (p : Char → Bool) (most : Nat) (ts : List Token) :
    (charsAtMost p most ts).2 <:+ ts :=
  ⟨_, (charsAtMost_eq p most ts).1.symm⟩

/-- A scan leaves the end of the tokens, and when it fails, the pattern is malformed. -/
def Scanned {α : Type} (ts : List Token) : Scan α → Prop :=
  Ends (fun x => x.2 <:+ ts) (· = .malformed)

section

variable {α β : Type} {ts rest : List Token} {names : CharNames}

theorem scanned_ok (a : α) (suffix : rest <:+ ts) : Scanned ts (.ok (a, rest)) := suffix

theorem Scanned.map {o : Scan α} (h : Scanned ts o) (f : α → β) :
    Scanned ts (o.map fun x => (f x.1, x.2)) :=
  Ends.map h fun _ suffix => suffix

theorem Scanned.of_suffix {o : Scan α} (h : Scanned rest o) (suffix : rest <:+ ts) :
    Scanned ts o :=
  Ends.imp h (fun _ inside => inside.trans suffix) fun _ same => same

theorem scanned_hexCode (width : Nat) (ts : List Token) : Scanned ts (hexCode width ts) := by
  unfold hexCode
  dsimp only
  split
  · exact charsAtMost_suffix _ _ _
  · rfl

theorem scanned_octalCode (first : Char) (ts : List Token) : Scanned ts (octalCode first ts) := by
  unfold octalCode
  dsimp only
  split
  · exact charsAtMost_suffix _ _ _
  · rfl

theorem scanned_namedCode (ts : List Token) : Scanned ts (namedCode names ts) := by
  unfold namedCode
  dsimp only
  split
  · rfl
  · next closing rest behind =>
      have suffix : rest <:+ ts :=
        (List.suffix_cons closing rest).trans (behind ▸ List.drop_suffix _ _)
      split
      · rfl
      · split
        · exact suffix
        · rfl

theorem scanned_codeEscape (c : Char) (ts : List Token) : Scanned ts (codeEscape names c ts) := by
  unfold codeEscape
  split
  · exact List.suffix_rfl
  · split_ifs
    · exact scanned_hexCode 2 ts
    · exact scanned_hexCode 4 ts
    · exact scanned_hexCode 8 ts
    · exact scanned_namedCode ts
    · rfl
    · exact List.suffix_rfl

theorem scanned_memberEscape (ascii : Bool) (c : Char) (ts : List Token) :
    Scanned ts (memberEscape names ascii c ts) := by
  unfold memberEscape
  split
  · exact List.suffix_rfl
  · split
    · exact List.suffix_rfl
    · split
      · exact (scanned_octalCode c ts).map CharItem.code
      · exact (scanned_codeEscape c ts).map CharItem.code

theorem scanned_digitEscape (c : Char) (ts : List Token) : Scanned ts (digitEscape c ts) := by
  unfold digitEscape
  split
  · exact (scanned_octalCode c ts).map Sum.inl
  · split
    · next d rest =>
        split
        · split
          · next e more =>
              dsimp only
              split
              · split
                · exact (List.suffix_cons _ _).trans (List.suffix_cons _ _)
                · rfl
              · exact List.suffix_cons _ _
          · exact List.suffix_cons _ _
        · exact List.suffix_rfl
    · exact List.suffix_rfl

theorem scanned_member (ascii : Bool) (ts : List Token) : Scanned ts (member names ascii ts) := by
  unfold member
  split
  · exact List.suffix_cons _ _
  · exact (scanned_memberEscape ascii _ _).of_suffix (List.suffix_cons _ _)
  · exact List.suffix_cons _ _
  · rfl

theorem rangeOf_ends (first last : CharItem) :
    Ends (fun _ => True) (· = .malformed) (rangeOf first last) := by
  unfold rangeOf
  split
  · split
    · trivial
    · rfl
  · rfl

theorem scanned_members (ascii : Bool) (fuel : Nat) (found : List CharItem) (ts : List Token) :
    Scanned ts (members names ascii fuel found ts) := by
  induction fuel generalizing found ts with
  | zero => rfl
  | succ fuel ih =>
      unfold members
      split
      · rfl
      · next t rest =>
          split
          · exact List.suffix_cons _ _
          · refine Ends.bind (scanned_member ascii _) fun ⟨first, rest⟩ suffix => ?_
            dsimp only at suffix ⊢
            split
            · exact ((List.suffix_cons _ _).trans (List.suffix_cons _ _)).trans suffix
            · have after := (List.suffix_cons _ _).trans suffix
              refine Ends.bind ((scanned_member ascii _).of_suffix after)
                fun ⟨last, rest⟩ suffix => ?_
              refine Ends.bind (rangeOf_ends first last) fun item _ => ?_
              exact (ih _ _).of_suffix suffix
            · exact (ih _ _).of_suffix suffix

theorem scanned_brackets (ascii : Bool) (fold : Fold) (ts : List Token) :
    Scanned ts (brackets names ascii fold ts) := by
  unfold brackets
  split
  next negated body start =>
    have suffix : body <:+ ts := by
      split at start
      · cases start
        exact List.suffix_cons _ _
      · cases start
        exact List.suffix_rfl
    exact ((scanned_members ascii _ _ _).of_suffix suffix).map fun items =>
      CharTest.mk negated items fold

/-! ## Flags -/

/-- Flags are read of letters, and they are those of the letters. -/
theorem flagLetters_ends (ts : List Token) :
    Ends (fun x => ∃ letters, ts = letters.map .plain ++ x.2 ∧
        (∀ c ∈ letters, isFlagLetter c = true) ∧ Flags.ofLetters? letters = some x.1)
      (· = .malformed) (flagLetters ts) := by
  obtain ⟨same, each⟩ := charsAtMost_eq isFlagLetter ts.length ts
  unfold flagLetters
  dsimp only [charsWhile]
  split
  · next f found =>
      split
      · rfl
      · exact ⟨_, same, each, found⟩
  · rfl

/-- A flag that only its letter sets is set when the letter is there. -/
theorem mem_of_foldlM {get : Flags → Bool} {letter : Char}
    (step : ∀ f c f', f.withLetter? c = some f' → get f' = true → get f = true ∨ letter = c)
    {letters : List Char} {f g : Flags} (h : letters.foldlM Flags.withLetter? f = some g)
    (given : get g = true) : get f = true ∨ letter ∈ letters := by
  induction letters generalizing f with
  | nil =>
      cases h
      exact .inl given
  | cons c letters ih =>
      obtain ⟨f', set, h⟩ := Option.bind_eq_some_iff.mp h
      rcases ih h with before | mem
      · exact (step f c f' set before).imp_right fun same => List.mem_cons.mpr (.inl same)
      · exact .inr (List.mem_cons_of_mem _ mem)

theorem ascii_of_letters {letters : List Char} {f : Flags} (h : Flags.ofLetters? letters = some f)
    (given : f.ascii = true) : 'a' ∈ letters := by
  refine (@mem_of_foldlM Flags.ascii 'a' (fun f c f' set => ?_) _ _ _ h given).resolve_left nofun
  unfold Flags.withLetter? at set
  split at set <;> cases set <;> simp

theorem allScripts_of_letters {letters : List Char} {f : Flags}
    (h : Flags.ofLetters? letters = some f) (given : f.allScripts = true) : 'u' ∈ letters := by
  refine (@mem_of_foldlM Flags.allScripts 'u' (fun f c f' set => ?_) _ _ _ h given).resolve_left
    nofun
  unfold Flags.withLetter? at set
  split at set <;> cases set <;> simp

theorem flagScope_ends (ts : List Token) :
    Ends (fun x => x.2 <:+ ts ∧ ∀ on, x.1 = .whole on →
        (on.ascii = true → AsksFlag 'a' (.plain '(' :: .plain '?' :: ts)) ∧
          (on.allScripts = true → AsksFlag 'u' (.plain '(' :: .plain '?' :: ts)))
      (· = .malformed) (flagScope ts) := by
  unfold flagScope
  refine Ends.bind (flagLetters_ends ts) fun ⟨on, rest⟩ ⟨letters, same, each, found⟩ => ?_
  dsimp only at same found ⊢
  have suffix : rest <:+ ts := ⟨_, same.symm⟩
  split
  · next after =>
      refine ⟨(List.suffix_cons _ _).trans suffix, fun on' whole => ?_⟩
      cases whole
      rw [same]
      exact ⟨fun given => @AsksFlag.intro _ [] _ _ each (ascii_of_letters found given),
        fun given => @AsksFlag.intro _ [] _ _ each (allScripts_of_letters found given)⟩
  · split
    · rfl
    · exact ⟨(List.suffix_cons _ _).trans suffix, nofun⟩
  · refine Ends.bind (flagLetters_ends _) fun ⟨off, after⟩ ⟨letters', same', _, _⟩ => ?_
    dsimp only at same' ⊢
    have inside : after <:+ _ := ⟨_, same'.symm⟩
    have suffix' := inside.trans ((List.suffix_cons _ _).trans suffix)
    split
    · split
      · rfl
      · exact ⟨(List.suffix_cons _ _).trans suffix', nofun⟩
    · rfl
  · rfl

/-! ## Counts -/

/-- A count is refused only when it is too great. -/
theorem count?_ends (ds : List Char) :
    Ends (fun _ => True) (fun e => e = .beyondReach ∧ TooGreat ds) (count? ds) := by
  unfold count?
  dsimp only
  split
  · trivial
  · split
    · next great =>
        simp only [Bool.or_eq_true, decide_eq_true_eq] at great
        exact ⟨rfl, great⟩
    · trivial

theorem charsWhile_eq {p : Char → Bool} {ts rest : List Token} {cs : List Char}
    (h : charsWhile p ts = (cs, rest)) : ts = cs.map .plain ++ rest ∧ ∀ c ∈ cs, p c = true := by
  have eq := charsAtMost_eq p ts.length ts
  rw [charsWhile] at h
  rwa [h] at eq

/-- The counts of braces: one of them, or two with a comma between. -/
inductive Counted (ts : List Token) : List Char → List Char → List Token → Prop
  | one {ds : List Char} {rest : List Token} : ts = ds.map .plain ++ rest →
      (∀ c ∈ ds, c.isDigit = true) → Counted ts ds ds rest
  | two {ds es : List Char} {rest : List Token} :
      ts = ds.map .plain ++ .plain ',' :: (es.map .plain ++ rest) →
      (∀ c ∈ ds, c.isDigit = true) → (∀ c ∈ es, c.isDigit = true) → Counted ts ds es rest

theorem Counted.suffix {ts rest : List Token} {ds es : List Char} (h : Counted ts ds es rest) :
    rest <:+ ts := by
  cases h with
  | one same _ => exact ⟨_, same.symm⟩
  | two same _ _ =>
      exact (List.suffix_append _ _).trans ((List.suffix_cons _ _).trans ⟨_, same.symm⟩)

theorem Counted.asks {ts rest : List Token} {ds es : List Char}
    (h : Counted ts ds es (closeBrace :: rest)) (great : TooGreat ds ∨ TooGreat es) :
    AsksGreatCount (openBrace :: ts) := by
  cases h with
  | one same digits =>
      rw [same]
      exact @AsksGreatCount.one [] _ _ digits (great.elim id id)
  | two same digits digits' =>
      rw [same]
      exact @AsksGreatCount.two [] _ _ _ digits digits' great

/-- What is left after counts in braces, or that there is none. -/
theorem braceCounts_ends (ts : List Token) :
    Ends (fun o => ∀ counts : Counts, o = some counts → counts.2.2 <:+ ts)
      (fun e => e = .beyondReach → AsksGreatCount (openBrace :: ts)) (braceCounts ts) := by
  unfold braceCounts
  split
  next c more =>
    split
    · nofun
    · split
      next low rest found =>
      split
      next high rest' found' =>
      have counted : Counted (.plain c :: more) low high rest' := by
        obtain ⟨same, digits⟩ := charsWhile_eq found
        split at found'
        · obtain ⟨same', digits'⟩ := charsWhile_eq found'
          exact .two (same' ▸ same) digits digits'
        · cases found'
          exact .one same digits
      split
      · split
        · nofun
        · next closed =>
          rw [show Token.plain _ = closeBrace from
            congrArg Token.plain (Char.toNat_inj.mp (not_not.mp closed))] at counted
          split
          · nofun
          · refine Ends.bind ((count?_ends low).imp (fun _ h => h) fun e great _ =>
              counted.asks (.inl great.2)) fun least _ => ?_
            refine Ends.bind ((count?_ends high).imp (fun _ h => h) fun e great _ =>
              counted.asks (.inr great.2)) fun most _ => ?_
            have suffix := (List.suffix_cons _ _).trans counted.suffix
            split
            · split
              · nofun
              · rintro _ ⟨⟩
                exact suffix
            · rintro _ ⟨⟩
              exact suffix
      · nofun
  · nofun

theorem countsOf_ends {c : Char} (quantifier : isQuantifier c = true) (ts : List Token) :
    Ends (fun o => ∀ counts : Counts, o = some counts → counts.2.2 <:+ ts)
      (fun e => e = .beyondReach → AsksGreatCount (.plain c :: ts)) (countsOf c ts) := by
  unfold countsOf
  split
  · rintro _ ⟨⟩
    exact List.suffix_rfl
  · split
    · rintro _ ⟨⟩
      exact List.suffix_rfl
    · split
      · rintro _ ⟨⟩
        exact List.suffix_rfl
      · next noQuestion noStar noPlus =>
          have brace : c = '\x7b' := by
            simp only [isQuantifier, Bool.or_eq_true, noQuestion, noStar, noPlus, beq_iff_eq,
              Bool.false_eq_true, false_or] at quantifier
            exact Char.toNat_inj.mp quantifier
          rw [brace]
          exact braceCounts_ends ts

end

end HostMonitor.Pattern
