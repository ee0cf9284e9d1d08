import HostMonitor.Proofs.PatternScans

/-!
# Patterns beyond reach

A pattern that is not accepted is malformed or beyond reach, and one that is beyond reach
overreaches.

Readers are put together from steps that leave a part of the tokens and change no flags, and
so they take three things along: what is left is the end of the pattern, as many brackets
have been opened as groups have been entered, and the flags for the whole pattern have been
read in it.
-/

namespace HostMonitor.Pattern

open Number Text

/-! ## Steps -/

/-- From a state a step leaves the end of the tokens and the flags, and when it fails, the
pattern is malformed. -/
def StepsFrom {α : Type} (g : Gathered) (m : Reading α) : Prop :=
  Ends (fun x => x.2.rest <:+ g.rest ∧ x.2.flags = g.flags) (· = .malformed) (m.run g)

def Steps {α : Type} (m : Reading α) : Prop := ∀ g, StepsFrom g m

section

variable {α β : Type} {g g' : Gathered} {m : Reading α}

theorem StepsFrom.bind {next : α → Reading β} (h : StepsFrom g m) (after : ∀ a, Steps (next a)) :
    StepsFrom g (m >>= next) := by
  rw [StepsFrom, StateT.run_bind]
  refine Ends.bind h fun x ⟨suffix, flags⟩ => ?_
  exact (after x.1 x.2).imp
    (fun _ inside => ⟨inside.1.trans suffix, inside.2.trans flags⟩) fun _ same => same

theorem Steps.bind {next : α → Reading β} (h : Steps m) (after : ∀ a, Steps (next a)) :
    Steps (m >>= next) := fun g => (h g).bind after

theorem steps_get {next : Gathered → Reading β} (after : ∀ g, StepsFrom g (next g)) :
    Steps (get >>= next) := fun g => after g

theorem stepsFrom_set (rest : g'.rest <:+ g.rest) (flags : g'.flags = g.flags) :
    StepsFrom g (set g') := ⟨rest, flags⟩

theorem steps_modify {f : Gathered → Gathered} (rest : ∀ g, (f g).rest <:+ g.rest)
    (flags : ∀ g, (f g).flags = g.flags) : Steps (modify f) := fun g => ⟨rest g, flags g⟩

theorem steps_pure (a : α) : Steps (pure a) := fun _ => ⟨List.suffix_rfl, rfl⟩

theorem steps_malformed : Steps (malformed : Reading α) := fun _ => rfl

theorem steps_pop : Steps pop := by
  unfold pop
  refine steps_get fun g => ?_
  split
  · rfl
  · next same => exact ⟨same ▸ List.suffix_cons _ _, rfl⟩

theorem steps_took (c : Char) : Steps (took c) := by
  unfold took
  refine steps_get fun g => ?_
  split
  · next same =>
      split
      · exact ⟨same ▸ List.suffix_cons _ _, rfl⟩
      · exact ⟨List.suffix_rfl, rfl⟩
  · exact ⟨List.suffix_rfl, rfl⟩

theorem steps_expect (c : Char) : Steps (expect c) := by
  unfold expect
  refine (steps_took c).bind fun found => ?_
  split
  · exact steps_malformed
  · exact steps_pure _

theorem steps_scan {f : List Token → Scan α} (scanned : ∀ ts, Scanned ts (f ts)) :
    Steps (scan f) := by
  unfold scan
  refine steps_get fun g => ?_
  have ends := scanned g.rest
  cases found : f g.rest with
  | ok x =>
      rw [found] at ends
      exact ⟨ends, rfl⟩
  | error e =>
      rw [found] at ends
      exact ends

theorem steps_upTo (close : Char) : Steps (upTo close) := by
  unfold upTo
  refine (steps_scan fun ts => scanned_ok _ (charsAtMost_suffix _ _ ts)).bind fun cs => ?_
  exact (steps_expect close).bind fun _ => steps_pure _

theorem steps_nameUntil (close : Char) : Steps (nameUntil close) := by
  unfold nameUntil
  refine (steps_upTo close).bind fun name => ?_
  split
  · exact steps_pure _
  · exact steps_malformed

theorem steps_skipLine : Steps skipLine := by
  unfold skipLine
  refine steps_get fun g => ?_
  dsimp only
  split
  · rfl
  · exact ⟨List.drop_suffix _ _, rfl⟩

theorem steps_skipComment : Steps skipComment := by
  unfold skipComment
  refine Steps.bind (steps_modify ?_ ?_) fun _ => steps_expect ')'
  · exact fun g => List.dropWhile_suffix _
  · exact fun _ => rfl

theorem steps_reference (fold : Fold) (index : Nat) : Steps (reference fold index) := by
  unfold reference
  refine steps_get fun g => ?_
  split
  · exact steps_pure _ g
  · rfl

theorem steps_groupNamed (name : List Char) : Steps (groupNamed name) := by
  unfold groupNamed
  refine steps_get fun g => ?_
  split
  · exact steps_pure _ g
  · rfl

theorem steps_conditionGroup (text : List Char) : Steps (conditionGroup text) := by
  unfold conditionGroup
  extract_lets checked
  have done : ∀ index, Steps (checked index) := by
    intro index
    refine steps_get fun g => ?_
    dsimp only
    split
    · rfl
    · exact steps_pure _ g
  split
  · exact (steps_groupNamed text).bind done
  · split
    · split
      · refine Steps.bind (steps_modify ?_ ?_) fun _ => (steps_pure _).bind done
        · exact fun _ => List.suffix_rfl
        · exact fun _ => rfl
      · exact steps_malformed.bind done
    · exact steps_malformed.bind done

theorem steps_openGroup (name : Option (List Char)) : Steps (openGroup name) := by
  unfold openGroup
  refine steps_get fun g => ?_
  dsimp only
  split
  · split
    · rfl
    · exact (stepsFrom_set List.suffix_rfl rfl).bind fun _ => steps_pure _
  · exact (stepsFrom_set List.suffix_rfl rfl).bind fun _ => steps_pure _

theorem steps_closeGroup (index : Nat) (body : Node) : Steps (closeGroup index body) :=
  steps_modify (fun _ => List.suffix_rfl) fun _ => rfl

theorem steps_escapeItem (names : CharNames) (flags : Flags) (c : Char) :
    Steps (escapeItem names flags c) := by
  unfold escapeItem
  split
  · exact steps_pure _
  · exact steps_pure _
  · split
    · refine (steps_scan (scanned_digitEscape c)).bind fun found => ?_
      split
      · exact steps_pure _
      · exact steps_reference _ _
    · exact (steps_scan (scanned_codeEscape c)).bind fun _ => steps_pure _

theorem steps_plainItem (names : CharNames) (flags : Flags) (c : Char) :
    Steps (plainItem names flags c) := by
  unfold plainItem
  split
  · exact (steps_scan (scanned_brackets _ _)).bind fun _ => steps_pure _
  · split
    · exact steps_pure _
    · split
      · exact steps_pure _
      · split
        · exact steps_pure _
        · exact steps_pure _

theorem steps_lookBack (negated : Bool) (body : Node) : Steps (lookBack negated body) := by
  unfold lookBack
  refine steps_get fun g => ?_
  extract_lets w fixed
  refine Steps.bind (steps_modify ?_ ?_) (fun _ => steps_pure _) g
  · exact fun _ => List.suffix_rfl
  · exact fun _ => rfl

end

/-! ## The way through a pattern -/

/-- Parts of a pattern ask for no more than the whole. -/
theorem AsksGreatCount.of_suffix {ts rest : List Token} (asks : AsksGreatCount rest)
    (suffix : rest <:+ ts) : AsksGreatCount ts := by
  obtain ⟨more, rfl⟩ := suffix
  cases asks with
  | @one before after ds digits great =>
      rw [← List.append_assoc]
      exact .one digits great
  | @two before after ds es digits digits' great =>
      rw [← List.append_assoc]
      exact .two digits digits' great

theorem AsksFlag.of_suffix {letter : Char} {ts rest : List Token} (asks : AsksFlag letter rest)
    (suffix : rest <:+ ts) : AsksFlag letter ts := by
  obtain ⟨more, rfl⟩ := suffix
  cases asks with
  | intro each mem =>
      rw [← List.append_assoc]
      exact .intro each mem

theorem opens_le_of_suffix {ts rest : List Token} (suffix : rest <:+ ts) : opens rest ≤ opens ts :=
  suffix.sublist.count_le _

/-- How far the reading of a pattern is, where groups may nest deeper by `d` levels.  The
tokens in front of those that are left have been taken just now. -/
structure Stage (ts : List Token) (d : Nat) (front : List Token) (g : Gathered) : Prop where
  suffix : front ++ g.rest <:+ ts
  room : opens (front ++ g.rest) + depthLimit ≤ opens ts + d
  ascii : g.flags.ascii = true → AsksFlag 'a' ts
  scripts : g.flags.allScripts = true → AsksFlag 'u' ts

section

variable {α β : Type} {ts front : List Token} {d d' : Nat} {g g' : Gathered}

theorem Stage.mono (stage : Stage ts d front g) (deeper : d ≤ d') : Stage ts d' front g :=
  { stage with room := Nat.le_trans stage.room (Nat.add_le_add_left deeper _) }

/-- Going on to what is left. -/
theorem Stage.step (stage : Stage ts d front g) (rest : g'.rest <:+ front ++ g.rest)
    (flags : g'.flags = g.flags) : Stage ts d [] g' where
  suffix := rest.trans stage.suffix
  room := Nat.le_trans (Nat.add_le_add_right (opens_le_of_suffix rest) _) stage.room
  ascii := flags ▸ stage.ascii
  scripts := flags ▸ stage.scripts

/-- A bracket that has been opened takes one level. -/
theorem Stage.enter (stage : Stage ts (d + 1) (.plain '(' :: front) g) : Stage ts d [] g := by
  have inside : g.rest <:+ front ++ g.rest := List.suffix_append _ _
  have less := opens_le_of_suffix inside
  have opened : opens (.plain '(' :: front ++ g.rest) = opens (front ++ g.rest) + 1 :=
    List.count_cons_self
  have room := stage.room
  refine ⟨inside.trans ((List.suffix_cons _ _).trans stage.suffix), ?_, stage.ascii, stage.scripts⟩
  show opens g.rest + depthLimit ≤ opens ts + d
  omega

/-- From one stage a reader comes to another one, and it is beyond reach only for patterns
that overreach. -/
def Leads (ts : List Token) (P : Gathered → Prop) (m : Reading α) (Q : α → Gathered → Prop) :
    Prop :=
  ∀ g, P g → Ends (fun x => Q x.1 x.2) (fun e => e = .beyondReach → Overreaches ts) (m.run g)

variable {P P' : Gathered → Prop} {Q Q' : α → Gathered → Prop} {R : β → Gathered → Prop}
  {m : Reading α}

theorem Leads.bind {next : α → Reading β} (h : Leads ts P m Q)
    (after : ∀ a, Leads ts (Q a) (next a) R) : Leads ts P (m >>= next) R := by
  intro g before
  rw [StateT.run_bind]
  exact (h g before).bind fun x inside => after x.1 x.2 inside

theorem Leads.imp (h : Leads ts P m Q) (pre : ∀ g, P' g → P g) (post : ∀ a g, Q a g → Q' a g) :
    Leads ts P' m Q' :=
  fun g before => (h g (pre g before)).imp (fun x => post x.1 x.2) fun _ beyond => beyond

theorem Leads.at_state (h : Leads ts P m Q) (here : P g) : Leads ts (· = g) m Q :=
  h.imp (fun _ same => same ▸ here) fun _ _ after => after

theorem leads_pure {a : α} (here : ∀ g, P g → Q a g) : Leads ts P (pure a) Q := here

theorem leads_malformed : Leads ts P (malformed : Reading α) Q := fun _ _ => nofun

theorem leads_get {next : Gathered → Reading β}
    (after : ∀ g, P g → Leads ts (· = g) (next g) R) : Leads ts P (get >>= next) R :=
  fun g before => after g before g rfl

/-- What needs no state. -/
theorem leads_lift {o : Except PatternError α}
    (ends : Ends (fun a => ∀ g, P g → Q a g) (fun e => e = .beyondReach → Overreaches ts) o) :
    Leads ts P (liftM o) Q := by
  intro g before
  cases o with
  | ok a => exact ends g before
  | error e => exact ends

/-- A reader that stays on its level. -/
abbrev Keeps (ts : List Token) (d : Nat) (m : Reading α) : Prop :=
  Leads ts (Stage ts d []) m fun _ => Stage ts d []

theorem Steps.leads (steps : Steps m) : Leads ts (Stage ts d front) m fun _ => Stage ts d [] := by
  intro g stage
  refine (steps g).imp (fun x ⟨rest, flags⟩ => ?_) fun e same beyond => ?_
  · exact stage.step (rest.trans (List.suffix_append _ _)) flags
  · rw [same] at beyond
    cases beyond

/-! ## Quantifiers -/

theorem greedOf_suffix (ts : List Token) : (greedOf ts).2 <:+ ts := by
  unfold greedOf
  split
  · exact List.suffix_cons _ _
  · exact List.suffix_cons _ _
  · exact List.suffix_rfl

theorem leads_repeatItem {counts : Counts} {held : List Item} :
    Leads ts (fun g => Stage ts d [] g ∧ counts.2.2 <:+ g.rest) (repeatItem counts held)
      fun _ => Stage ts d [] := by
  unfold repeatItem
  split
  · dsimp only
    rintro g ⟨stage, suffix⟩
    exact stage.step ((greedOf_suffix _).trans suffix) rfl
  · exact leads_malformed

theorem leads_quantify {flags : Flags} {c : Char} {held : List Item}
    (quantifier : isQuantifier c = true) :
    Leads ts (Stage ts d [.plain c]) (quantify flags c held) fun _ => Stage ts d [] := by
  unfold quantify
  refine leads_get fun g stage => ?_
  have here : Stage ts d [] g := stage.step (List.suffix_cons _ _) rfl
  have counts : Leads ts (· = g) (liftM (countsOf c g.rest)) fun o g' =>
      g' = g ∧ ∀ counts : Counts, o = some counts → counts.2.2 <:+ g.rest := by
    refine leads_lift ((countsOf_ends quantifier g.rest).imp ?_ ?_)
    · exact fun _ suffix _ same => ⟨same, suffix⟩
    · exact fun _ asks beyond => .count ((asks beyond).of_suffix stage.suffix)
  refine counts.bind fun o => ?_
  split
  · refine leads_repeatItem.imp ?_ fun _ _ stage => stage
    rintro _ ⟨rfl, suffix⟩
    exact ⟨here, suffix _ rfl⟩
  · refine leads_pure ?_
    rintro _ ⟨rfl, _⟩
    exact here

/-! ## Single tokens -/

theorem leads_peek : Leads ts (Stage ts d []) peek fun t g =>
    Stage ts d [] g ∧ g.rest.head? = t :=
  fun _ stage => ⟨stage, rfl⟩

theorem Stage.take {t : Token} (stage : Stage ts d front g) (same : g.rest = t :: g'.rest)
    (flags : g'.flags = g.flags) : Stage ts d (front ++ [t]) g' := by
  obtain ⟨suffix, room, ascii, scripts⟩ := stage
  rw [same] at suffix room
  refine ⟨?_, ?_, flags ▸ ascii, flags ▸ scripts⟩
  · rwa [List.append_assoc]
  · rwa [List.append_assoc]

theorem leads_pop : Leads ts (Stage ts d front) pop fun t => Stage ts d (front ++ [t]) := by
  unfold pop
  refine leads_get fun g stage => ?_
  split
  · exact leads_malformed
  · next same =>
      rintro _ rfl
      exact stage.take same rfl

theorem leads_pop_of_head {t : Token} :
    Leads ts (fun g => Stage ts d [] g ∧ g.rest.head? = some t) pop fun _ => Stage ts d [t] := by
  unfold pop
  refine leads_get fun g ⟨stage, head⟩ => ?_
  split
  · exact leads_malformed
  · next same =>
      rintro _ rfl
      rw [same, List.head?_cons, Option.some.injEq] at head
      exact stage.take (head ▸ same) rfl

theorem leads_took (c : Char) : Leads ts (Stage ts d front) (took c) fun found =>
    Stage ts d (if found then front ++ [.plain c] else front) := by
  unfold took
  refine leads_get fun g stage => ?_
  split
  · next same =>
      split
      · next plain =>
          rintro _ rfl
          exact stage.take (plain ▸ same) rfl
      · rintro _ rfl
        exact stage
  · rintro _ rfl
    exact stage

/-! ## The grammar -/

/-- The readers that call each other, on one amount of fuel. -/
structure Readers (names : CharNames) (ts : List Token) (fuel : Nat) : Prop where
  alternatives : ∀ d top flags, Keeps ts d (alternatives names fuel d top flags)
  moreAlternatives : ∀ d top flags, Keeps ts (d + 1) (moreAlternatives names fuel d top flags)
  sequence : ∀ d start held flags, Keeps ts (d + 1) (sequence names fuel d start held flags)
  bracket : ∀ d start held flags, Leads ts (Stage ts (d + 1) [.plain '('])
    (bracket names fuel d start held flags) fun _ => Stage ts (d + 1) []
  closed : ∀ d flags, Keeps ts d (closed names fuel d flags)
  group : ∀ d name flags, Keeps ts d (group names fuel d name flags)
  behind : ∀ d flags, Keeps ts d (behind names fuel d flags)
  condition : ∀ d flags, Keeps ts (d + 1) (condition names fuel d flags)

section

variable {names : CharNames} {fuel : Nat}

/-- On no fuel nothing is read. -/
theorem readers_zero : Readers names ts 0 := by
  constructor <;> intros
  · rw [alternatives]
    exact leads_malformed
  · rw [moreAlternatives]
    exact leads_malformed
  · rw [sequence]
    exact leads_malformed
  · rw [bracket]
    exact leads_malformed
  · rw [closed]
    exact leads_malformed
  · rw [group]
    exact leads_malformed
  · rw [behind]
    exact leads_malformed
  · rw [condition]
    exact leads_malformed

theorem Readers.alternatives_succ (readers : Readers names ts fuel) (d : Nat) (top : Bool)
    (flags : Flags) : Keeps ts d (Pattern.alternatives names (fuel + 1) d top flags) := by
  cases d with
  | zero =>
      -- As many brackets have been opened as groups may nest deep.
      rw [Pattern.alternatives.eq_2 _ _ _ _ (Nat.succ_ne_zero fuel)]
      intro g stage _
      exact .depth (Nat.le_trans (Nat.le_add_left _ _) stage.room)
  | succ d =>
      rw [Pattern.alternatives]
      refine (readers.sequence d top [] flags).bind fun first => ?_
      refine (steps_took '|').leads.bind fun more => ?_
      split
      · refine leads_get fun g stage => ?_
        dsimp only
        refine ((readers.moreAlternatives d top _).at_state stage).bind fun _ => ?_
        exact leads_pure fun _ stage => stage
      · exact leads_pure fun _ stage => stage

theorem Readers.moreAlternatives_succ (readers : Readers names ts fuel) (d : Nat) (top : Bool)
    (flags : Flags) : Keeps ts (d + 1) (Pattern.moreAlternatives names (fuel + 1) d top flags) := by
  rw [Pattern.moreAlternatives]
  refine (readers.sequence d false [] flags).bind fun one => ?_
  refine (steps_took '|').leads.bind fun more => ?_
  split
  · refine (readers.moreAlternatives d top flags).bind fun _ => ?_
    exact leads_pure fun _ stage => stage
  · exact leads_pure fun _ stage => stage

theorem Readers.sequence_succ (readers : Readers names ts fuel) (d : Nat) (start : Bool)
    (held : List Item) (flags : Flags) :
    Keeps ts (d + 1) (Pattern.sequence names (fuel + 1) d start held flags) := by
  have rest : ∀ held, Keeps ts (d + 1) (Pattern.sequence names fuel d start held flags) :=
    fun held => readers.sequence d start held flags
  rw [Pattern.sequence]
  refine leads_peek.bind fun next => ?_
  split
  · exact leads_pure fun _ stage => stage.1
  · exact leads_malformed
  · refine leads_pop_of_head.bind fun _ => ?_
    exact (rest _).imp (fun _ stage => stage.step (List.suffix_append _ _) rfl) fun _ _ after => after
  · refine leads_pop_of_head.bind fun _ => ?_
    exact (steps_escapeItem names _ _).leads.bind fun item => rest _
  · next c =>
      split
      · exact leads_pure fun _ stage => stage.1
      · refine leads_pop_of_head.bind fun _ => ?_
        split
        · exact (steps_pure ()).leads.bind fun _ => rest held
        · split
          · exact steps_skipLine.leads.bind fun _ => rest held
          · split
            · next quantifier => exact (leads_quantify quantifier).bind rest
            · split
              · next opened =>
                  obtain rfl := beq_iff_eq.mp opened
                  exact readers.bracket d start held flags
              · exact (steps_plainItem names _ _).leads.bind fun item => rest _

/-- Flags in a bracket.  Those for the whole pattern stand in it. -/
theorem leads_flagScope : Leads ts (Stage ts (d + 1) [.plain '(', .plain '?']) (scan flagScope)
    fun scope g => Stage ts d [] g ∧ ∀ on, scope = .whole on →
      (on.ascii = true → AsksFlag 'a' ts) ∧ (on.allScripts = true → AsksFlag 'u' ts) := by
  unfold scan
  refine leads_get fun g stage => ?_
  have scope : Leads ts (· = g) (liftM (flagScope g.rest)) fun x g' => g' = g ∧ x.2 <:+ g.rest ∧
      ∀ on, x.1 = .whole on →
        (on.ascii = true → AsksFlag 'a' ts) ∧ (on.allScripts = true → AsksFlag 'u' ts) := by
    refine leads_lift ((flagScope_ends g.rest).imp ?_ fun e same beyond => ?_)
    · rintro x ⟨suffix, asked⟩ g' same
      refine ⟨same, suffix, fun on whole => ?_⟩
      exact ⟨fun given => ((asked on whole).1 given).of_suffix stage.suffix,
        fun given => ((asked on whole).2 given).of_suffix stage.suffix⟩
    · rw [same] at beyond
      cases beyond
  refine scope.bind fun x => ?_
  rintro _ ⟨rfl, suffix, asked⟩
  exact ⟨stage.enter.step suffix rfl, asked⟩

/-- Flags of the whole pattern are added to those that hold. -/
theorem leads_union {on : Flags} {next : Flags → Reading β}
    (asked : (on.ascii = true → AsksFlag 'a' ts) ∧ (on.allScripts = true → AsksFlag 'u' ts))
    (after : ∀ flags, Leads ts (Stage ts d []) (next flags) R) :
    Leads ts (Stage ts d []) (do
      let g ← get
      set { g with flags := g.flags.union on }
      next (g.flags.union on)) R := by
  refine leads_get fun g stage => ?_
  have set : Leads ts (· = g) (set { g with flags := g.flags.union on })
      fun _ => Stage ts d [] := by
    intro _ _
    refine ⟨stage.suffix, stage.room, fun given => ?_, fun given => ?_⟩
    · exact (Bool.or_eq_true_iff.mp given).elim stage.ascii asked.1
    · exact (Bool.or_eq_true_iff.mp given).elim stage.scripts asked.2
  exact set.bind fun _ => after _

theorem Readers.bracket_succ (readers : Readers names ts fuel) (d : Nat) (start : Bool)
    (held : List Item) (flags : Flags) : Leads ts (Stage ts (d + 1) [.plain '('])
      (Pattern.bracket names (fuel + 1) d start held flags) fun _ => Stage ts (d + 1) [] := by
  -- What stands in the bracket is read a level deeper, and what comes after it is not.
  have entered : ∀ {front : List Token} {m : Reading Node} {R : Node → Gathered → Prop},
      Leads ts (Stage ts d []) m R → Leads ts (Stage ts (d + 1) (.plain '(' :: front)) m R :=
    fun inside => inside.imp (fun _ => Stage.enter) fun _ _ after => after
  have leaves : ∀ {m : Reading Node}, Keeps ts (d + 1) m →
      Leads ts (Stage ts d []) m fun _ => Stage ts (d + 1) [] :=
    fun keeps => keeps.imp (fun _ stage => stage.mono (Nat.le_succ d)) fun _ _ after => after
  rw [Pattern.bracket]
  refine (leads_took '?').bind fun asked => ?_
  extract_lets after
  have rest : ∀ item, Leads ts (Stage ts d []) (after item) fun _ => Stage ts (d + 1) [] :=
    fun item => leaves (readers.sequence d start (item :: held) flags)
  have body : ∀ make : Node → Item, ∀ flags, Leads ts (Stage ts d [])
      (Pattern.closed names fuel d flags >>= fun body => pure (make body) >>= after)
      fun _ => Stage ts (d + 1) [] := fun make flags =>
    (readers.closed d flags).bind fun body => (steps_pure (make body)).leads.bind rest
  cases asked with
  | false => exact entered ((readers.group d none flags).bind rest)
  | true =>
      show Leads ts (Stage ts (d + 1) [.plain '(', .plain '?']) _ _
      refine leads_pop.bind fun t => ?_
      split
      · refine entered ((steps_took '<').leads.bind fun named => ?_)
        split
        · refine (steps_nameUntil '>').leads.bind fun name => ?_
          exact (readers.group d (some name) flags).bind rest
        · refine (steps_expect '=').leads.bind fun _ => ?_
          refine (steps_nameUntil ')').leads.bind fun name => ?_
          refine (steps_groupNamed name).leads.bind fun index => ?_
          exact (steps_reference _ index).leads.bind rest
      · exact entered (body (fun body => (.plain, body)) flags)
      · exact entered (body (fun body => (.plain, .atomic body)) flags)
      · exact entered (steps_skipComment.leads.bind fun _ =>
          leaves (readers.sequence d start held flags))
      · exact entered (body (fun body => (.plain, .ahead false body)) flags)
      · exact entered (body (fun body => (.plain, .ahead true body)) flags)
      · exact entered ((readers.behind d flags).bind rest)
      · exact entered (leaves ((readers.condition d flags).bind fun item =>
          readers.sequence d start (item :: held) flags))
      · next c _ _ _ _ _ _ _ _ =>
          split
          · have back : Leads ts (Stage ts (d + 1) [.plain '(', .plain '?', .plain c])
                (modify fun g => { g with rest := .plain c :: g.rest })
                fun _ => Stage ts (d + 1) [.plain '(', .plain '?'] :=
              fun _ stage => ⟨stage.suffix, stage.room, stage.ascii, stage.scripts⟩
            refine back.bind fun _ => leads_flagScope.bind fun scope => ?_
            rintro g ⟨stage, asked⟩
            split
            · split
              · exact (PatternError.noConfusion :
                  PatternError.malformed = .beyondReach → Overreaches ts)
              · exact leads_union (asked _ rfl)
                  (fun flags => leaves (readers.sequence d start held flags)) g stage
            · exact body (fun body => (.plain, .scoped body)) _ g stage
          · exact leads_malformed.bind rest
      · exact leads_malformed.bind rest

theorem Readers.closed_succ (readers : Readers names ts fuel) (d : Nat) (flags : Flags) :
    Keeps ts d (Pattern.closed names (fuel + 1) d flags) := by
  rw [Pattern.closed]
  refine (readers.alternatives d false flags).bind fun body => ?_
  exact (steps_expect ')').leads.bind fun _ => leads_pure fun _ stage => stage

theorem Readers.group_succ (readers : Readers names ts fuel) (d : Nat) (name : Option (List Char))
    (flags : Flags) : Keeps ts d (Pattern.group names (fuel + 1) d name flags) := by
  rw [Pattern.group]
  refine (steps_openGroup name).leads.bind fun index => ?_
  refine (readers.closed d flags).bind fun body => ?_
  exact (steps_closeGroup index body).leads.bind fun _ => leads_pure fun _ stage => stage

theorem Readers.behind_succ (readers : Readers names ts fuel) (d : Nat) (flags : Flags) :
    Keeps ts d (Pattern.behind names (fuel + 1) d flags) := by
  rw [Pattern.behind]
  refine steps_pop.leads.bind fun t => ?_
  extract_lets look
  have looks : ∀ negated, Keeps ts d (look negated) := by
    intro negated
    refine leads_get fun g stage => ?_
    extract_lets around body
    have bodies : Keeps ts d (body ()) := by
      refine (readers.alternatives d false flags).bind fun found => ?_
      refine Leads.bind (Steps.leads (steps_modify ?_ ?_)) fun _ => ?_
      · exact fun _ => List.suffix_rfl
      · exact fun _ => rfl
      · exact (steps_expect ')').leads.bind fun _ => (steps_lookBack negated found).leads
    split
    · refine Leads.at_state (Leads.bind (Steps.leads (steps_modify ?_ ?_)) fun _ => bodies) stage
      · exact fun _ => List.suffix_rfl
      · exact fun _ => rfl
    · exact bodies.at_state stage
  split
  · exact (steps_pure _).leads.bind looks
  · exact (steps_pure _).leads.bind looks
  · exact leads_malformed.bind looks

theorem Readers.condition_succ (readers : Readers names ts fuel) (d : Nat) (flags : Flags) :
    Keeps ts (d + 1) (Pattern.condition names (fuel + 1) d flags) := by
  rw [Pattern.condition]
  refine (steps_upTo ')').leads.bind fun text => ?_
  refine (steps_conditionGroup text).leads.bind fun index => ?_
  refine (readers.sequence d false [] flags).bind fun yes => ?_
  refine (steps_took '|').leads.bind fun more => ?_
  extract_lets done
  have ends : ∀ no, Keeps ts (d + 1) (done no) :=
    fun no => (steps_expect ')').leads.bind fun _ => leads_pure fun _ stage => stage
  split
  · exact (readers.sequence d false [] flags).bind ends
  · exact (steps_pure _).leads.bind ends

theorem readers (names : CharNames) (ts : List Token) (fuel : Nat) : Readers names ts fuel := by
  -- each reader calls the others on one less, so all of them are taken through together
  induction fuel with
  | zero => exact readers_zero
  | succ fuel ih =>
      exact ⟨ih.alternatives_succ, ih.moreAlternatives_succ, ih.sequence_succ, ih.bracket_succ,
        ih.closed_succ, ih.group_succ, ih.behind_succ, ih.condition_succ⟩

end

end

/-! ## Whole patterns -/

end HostMonitor.Pattern
