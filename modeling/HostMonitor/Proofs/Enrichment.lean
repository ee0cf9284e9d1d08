import HostMonitor.Proofs.Moments
import HostMonitor.Proofs.Outcomes
import HostMonitor.Proofs.Utf8
import HostMonitor.Service.Lister

/-!
# What details do to a table

The details of units are added to the table of units, and whatever the second command
does, no unit is lost or added and what the table says stays.  A unit that the details
do not tell of is left as it is.  Of a value that gives no number, or no time above
zero, nothing is taken.

Two things are different.  When the number of seconds since when a unit is active
reads as no number, as infinity or as an instant after the calendar, the list breaks
down as a whole.  And so it does when the second command cannot be handed to the host,
as the name of a unit holds a character of code zero.
-/

namespace HostMonitor

open Host Number Text Time

namespace Service

/-! ## Times -/

/-- The number that a value gives. -/
def secondsOf? (value : Option String) : Option Binary64 :=
  (filled value).bind fun s => float? (trimStartBy (· == '@') (trim s.toList))

/-- Numbers that stand for no instant before the end of the calendar. -/
inductive Undated : Binary64 → Prop
  | nan : Undated .nan
  | infinite : Undated (.infinite false)
  | late {x : Binary64} {v : ℚ} : x.value? = some v → 253402300800 ≤ v → Undated x

/-- The timestamp that a number gives. -/
inductive Dates : Option Binary64 → Option String → Prop
  | unread : Dates none none
  | infinite : Dates (some (.infinite true)) none
  | early {x : Binary64} {v : ℚ} : x.value? = some v → v ≤ 0 → Dates (some x) none
  | dated {x : Binary64} {v : ℚ} {t : Instant} : x.value? = some v → 0 < v → v < 253402300800 →
      |(t.micros : ℚ) - 1000000 * v| < 1 → Dates (some x) (some t.timestamp)

/-- The value is a time that breaks a list down. -/
def Spoils (value : Option String) : Prop := ∃ x, secondsOf? value = some x ∧ Undated x

theorem not_undated_of_lt {x : Binary64} {v : ℚ} (found : x.value? = some v)
    (low : v < 253402300800) : ¬ Undated x := by
  intro undated
  cases undated with
  | nan => cases found
  | infinite => cases found
  | late found' high =>
      rw [found] at found'
      cases found'
      linarith

theorem not_undated_of_dates {x : Binary64} {since : Option String} (h : Dates (some x) since) :
    ¬ Undated x := by
  cases h with
  | infinite =>
      intro undated
      cases undated with
      | late found _ => cases found
  | early found low => exact not_undated_of_lt found (by linarith)
  | dated found _ low _ => exact not_undated_of_lt found low

/-- A value gives a timestamp or none, or it breaks the list down. -/
theorem timestampOf_ends (value : Option String) :
    Ends (Dates (secondsOf? value)) (fun f => f = .unconvertible ∧ Spoils value)
      (timestampOf value) := by
  generalize read : secondsOf? value = number
  rw [secondsOf?] at read
  rw [timestampOf, read]
  cases number with
  | none => exact .unread
  | some x =>
      cases x with
      | nan => exact ⟨rfl, _, read, .nan⟩
      | infinite negative =>
          cases negative with
          | true => exact .infinite
          | false => exact ⟨rfl, _, read, .infinite⟩
      | finite negative m e =>
          obtain ⟨s, _, found⟩ := Option.bind_eq_some_iff.mp read
          have narrow := narrow_of_float? found
          obtain ⟨v, value⟩ : ∃ v, (Binary64.finite negative m e).value? = some v := ⟨_, rfl⟩
          have sign := Binary64.isPositive_iff value
          dsimp only
          by_cases positive : 0 < v
          · obtain ⟨t, close, instant⟩ := Instant.ofSeconds?_eq narrow value positive
            rw [sign.mpr positive, instant]
            by_cases early : v < 253402300800
            · rw [if_pos early]
              exact .dated value positive early close
            · rw [if_neg early]
              exact ⟨rfl, _, read, .late value (not_lt.mp early)⟩
          · rw [Bool.eq_false_iff.mpr (mt sign.mp positive)]
            exact .early value (not_lt.mp positive)

/-! ## Units -/

/-- The last of the blocks with the name of a unit. -/
def LastAbout (name : String) (all : List Properties) (ps : Properties) : Prop :=
  ∃ before after, all = before ++ ps :: after ∧ property? "Id" ps = some name ∧
    ∀ qs ∈ after, property? "Id" qs ≠ some name

theorem blockOf?_eq_some_iff {name : String} {all : List Properties} {ps : Properties} :
    blockOf? name all = some ps ↔ LastAbout name all ps := by
  rw [blockOf?, List.find?_eq_some_iff_append]
  simp only [beq_iff_eq, Bool.not_eq_true', beq_eq_false_iff_ne]
  constructor
  · rintro ⟨named, after, before, same, none⟩
    have order : all = before.reverse ++ ps :: after.reverse := by
      rw [← List.reverse_reverse all, same]
      simp
    exact ⟨before.reverse, after.reverse, order, named,
      fun qs mem => none qs (List.mem_reverse.mp mem)⟩
  · rintro ⟨before, after, rfl, named, none⟩
    exact ⟨named, after.reverse, before.reverse, by simp,
      fun qs mem => none qs (List.mem_reverse.mp mem)⟩

theorem LastAbout.eq {name : String} {all : List Properties} {ps qs : Properties}
    (h : LastAbout name all ps) (h' : LastAbout name all qs) : ps = qs :=
  Option.some.inj ((blockOf?_eq_some_iff.mpr h).symm.trans (blockOf?_eq_some_iff.mpr h'))

theorem blockOf?_eq_none_iff {name : String} {all : List Properties} :
    blockOf? name all = none ↔ ∀ ps ∈ all, property? "Id" ps ≠ some name := by
  simp [blockOf?]

/-- The unit with the values of a block.  Its name and the other columns of the table
stay, an empty value is none, and so is a number that cannot be read or a process zero. -/
def ServiceUnit.told (u : ServiceUnit) (ps : Properties) (since : Option String) : ServiceUnit :=
  { u with
    fileState := filled (property? "UnitFileState" ps)
    since
    mainPid :=
      if integer? (property? "MainPID" ps) = some 0 then none else integer? (property? "MainPID" ps)
    exitStatus := integer? (property? "ExecMainStatus" ps)
    result := filled (property? "Result" ps) }

/-- The unit without details. -/
def ServiceUnit.bare (u : ServiceUnit) : ServiceUnit :=
  { u with fileState := none, since := none, mainPid := none, exitStatus := none, result := none }

/-- The table has no details. -/
theorem bare_of_mem_ofTable {table : String} {u : ServiceUnit} (mem : u ∈ ofTable table) :
    u.bare = u := by
  have listed : u ∈ (lines table.toList).filterMap ofLine? := List.mem_mergeSort.mp mem
  obtain ⟨line, -, read⟩ := List.mem_filterMap.mp listed
  rw [ofLine?] at read
  split at read
  · split at read
    · cases read
      rfl
    · cases read
  · cases read

/-- What a unit of the table becomes. -/
inductive Gains (all : List Properties) (u : ServiceUnit) : ServiceUnit → Prop
  | nothing : (∀ ps ∈ all, property? "Id" ps ≠ some u.name) → Gains all u u
  | details {ps : Properties} {since : Option String} : LastAbout u.name all ps →
      Dates (secondsOf? (property? "ActiveEnterTimestamp" ps)) since → Gains all u (u.told ps since)

/-- The last block about one of the units has a time that breaks the list down. -/
def Spoiled (units : List ServiceUnit) (all : List Properties) : Prop :=
  ∃ u ∈ units, ∃ ps, LastAbout u.name all ps ∧ Spoils (property? "ActiveEnterTimestamp" ps)

theorem withDetails_eq (u : ServiceUnit) (ps : Properties) :
    u.withDetails ps = (timestampOf (property? "ActiveEnterTimestamp" ps)).map (u.told ps) := by
  rw [ServiceUnit.withDetails]
  cases timestampOf (property? "ActiveEnterTimestamp" ps) with
  | ok since => rfl
  | error f => rfl

/-- A unit takes its details from the last block about it. -/
def detailed (all : List Properties) (u : ServiceUnit) : Except Fault ServiceUnit :=
  match blockOf? u.name all with
  | some ps => u.withDetails ps
  | none => .ok u

theorem detailed_ends (all : List Properties) (u : ServiceUnit) :
    Ends (Gains all u) (fun f => f = .unconvertible ∧
        ∃ ps, LastAbout u.name all ps ∧ Spoils (property? "ActiveEnterTimestamp" ps))
      (detailed all u) := by
  rw [detailed]
  cases found : blockOf? u.name all with
  | none => exact .nothing (blockOf?_eq_none_iff.mp found)
  | some ps =>
      have last := blockOf?_eq_some_iff.mp found
      dsimp only
      rw [withDetails_eq]
      refine ((timestampOf_ends _).map fun since dates => .details last dates).imp
        (fun _ gains => gains) fun f h => ⟨h.1, ps, last, h.2⟩

/-- A time that breaks the list down leaves the unit without details. -/
theorem detailed_of_spoils {all : List Properties} {u : ServiceUnit} {ps : Properties}
    (last : LastAbout u.name all ps) (spoils : Spoils (property? "ActiveEnterTimestamp" ps)) :
    ∀ v, detailed all u ≠ .ok v := by
  obtain ⟨x, read, undated⟩ := spoils
  intro v given
  rw [detailed, blockOf?_eq_some_iff.mpr last] at given
  dsimp only at given
  rw [withDetails_eq] at given
  have ends := timestampOf_ends (property? "ActiveEnterTimestamp" ps)
  cases time : timestampOf (property? "ActiveEnterTimestamp" ps) with
  | error f =>
      rw [time] at given
      cases given
  | ok since =>
      rw [time, read] at ends
      exact not_undated_of_dates ends undated

theorem enriched_eq (units : List ServiceUnit) (all : List Properties) :
    enriched units all = units.mapM (detailed all) := rfl

/-- A list breaks down if and only if a unit in it does, and else all units are there. -/
theorem enriched_cases (units : List ServiceUnit) (all : List Properties) :
    (Spoiled units all → enriched units all = .error .unconvertible) ∧
      (¬ Spoiled units all →
        ∃ vs, enriched units all = .ok vs ∧ List.Forall₂ (Gains all) units vs) := by
  rw [enriched_eq]
  cases outcome : units.mapM (detailed all) with
  | ok vs =>
      constructor
      · rintro ⟨u, mem, ps, last, spoils⟩
        obtain ⟨v, given⟩ := exists_of_mapM_eq_ok outcome mem
        exact absurd given (detailed_of_spoils last spoils v)
      · intro _
        refine ⟨vs, rfl, (mapM_eq_ok_iff.mp outcome).imp fun u v given => ?_⟩
        have ends := detailed_ends all u
        rwa [given] at ends
  | error f =>
      obtain ⟨u, mem, failed⟩ := exists_of_mapM_eq_error outcome
      have ends := detailed_ends all u
      rw [failed] at ends
      obtain ⟨rfl, spoiled⟩ := ends
      exact ⟨fun _ => rfl, fun whole => absurd ⟨u, mem, spoiled⟩ whole⟩

theorem enriched_nil (units : List ServiceUnit) : enriched units [] = .ok units :=
  mapM_eq_ok_iff.mpr (List.forall₂_same.mpr fun _ _ => rfl)

/-! ## Lists -/

/-- What a command has printed about units: nothing when it has failed. -/
def blocksOf : Execution → List Properties
  | .finished output _ status => if status = 0 then blocks (textOf output) else []
  | _ => []

section

variable {machine : Machine} {allowance : Allowance}

/-- A command that the host takes succeeds, or it fails with a report and has printed
nothing about units. -/
theorem outcome_run_cases (left : allowance.isOver = false) {argv : List String}
    (taken : ∀ reason, machine argv ≠ .rejected reason) :
    (∃ output diagnostics, machine argv = .finished output diagnostics 0) ∨
      blocksOf (machine argv) = [] ∧
        ∃ report, (run machine allowance argv).outcome = .error (.reported report) := by
  rw [run, Run.outcome_bind_of_ok (Run.outcome_cause _)]
  cases made : machine argv with
  | rejected reason => exact absurd made (taken reason)
  | unstartable reason => exact .inr ⟨rfl, _, rfl⟩
  | endless status => exact .inr ⟨rfl, _, rfl⟩
  | finished output diagnostics status =>
      by_cases well : status = 0
      · exact .inl ⟨output, diagnostics, by rw [well]⟩
      · refine .inr ⟨if_neg well, ?_⟩
        dsimp only
        rw [left, if_neg Bool.false_ne_true, if_pos well]
        exact ⟨_, rfl⟩

/-- After the table the details are printed, and the units are listed with them. -/
theorem outcome_list_of_shown {table shown : String}
    (made : (run machine allowance tableCommand).outcome = .ok table)
    (told : (run machine allowance (detailsCommand (ofTable table))).outcome = .ok shown) :
    (list machine allowance).outcome = enriched (ofTable table) (blocks shown) := by
  rw [list, Run.outcome_bind_of_ok made]
  generalize ofTable table = units at told
  dsimp only
  cases units with
  | nil => rfl
  | cons u us =>
      rw [if_neg (by simp), Run.outcome_bind_of_ok (Run.outcome_attempt _), told]
      rfl

/-- Without the details the table alone is listed. -/
theorem outcome_list_of_failed {table : String} {report : Report}
    (made : (run machine allowance tableCommand).outcome = .ok table)
    (failed : (run machine allowance (detailsCommand (ofTable table))).outcome =
      .error (.reported report)) :
    (list machine allowance).outcome = .ok (ofTable table) := by
  rw [list, Run.outcome_bind_of_ok made]
  generalize ofTable table = units at failed
  dsimp only
  cases units with
  | nil => rfl
  | cons u us =>
      rw [if_neg (by simp), Run.outcome_bind_of_ok (Run.outcome_attempt _), failed]
      rfl

/-- The units of a list are those of a table, with the details of some blocks. -/
theorem exists_of_mem_list {units : List ServiceUnit}
    (listed : (list machine allowance).outcome = .ok units) {u : ServiceUnit} (mem : u ∈ units) :
    ∃ table all, ∃ bare ∈ ofTable table, detailed all bare = .ok u := by
  have listedBare (table : String) (same : units = ofTable table) :
      ∃ table all, ∃ bare ∈ ofTable table, detailed all bare = .ok u :=
    ⟨table, [], u, same ▸ mem, rfl⟩
  obtain ⟨table, _, h⟩ := Run.exists_of_outcome_bind listed
  dsimp only at h
  split at h
  · cases h
    exact listedBare table rfl
  · obtain ⟨shown, _, h⟩ := Run.exists_of_outcome_bind h
    split at h
    · rw [Run.outcome_ofExcept, enriched_eq] at h
      obtain ⟨bare, inside, given⟩ := (mem_iff_of_mapM_eq_ok h u).mp mem
      exact ⟨table, _, bare, inside, given⟩
    · obtain ⟨_, _, h⟩ := Run.exists_of_outcome_bind h
      cases h
      exact listedBare table rfl
    · cases h

/-- A second command that breaks down breaks the list down. -/
theorem outcome_list_of_breakdown {table text : String}
    (made : (run machine allowance tableCommand).outcome = .ok table) (some : ofTable table ≠ [])
    (failed : (run machine allowance (detailsCommand (ofTable table))).outcome =
      .error (.breakdown text)) :
    (list machine allowance).outcome = .error (.breakdown text) := by
  rw [list, Run.outcome_bind_of_ok made]
  generalize ofTable table = units at some failed
  dsimp only
  rw [if_neg (by simpa using some), Run.outcome_bind_of_ok (Run.outcome_attempt _), failed]
  rfl

/-- A list is the table with what the second command prints. -/
theorem outcome_list {output diagnostics : List UInt8}
    (made : machine tableCommand = .finished output diagnostics 0)
    (left : allowance.isOver = false)
    (taken : ∀ reason, machine (detailsCommand (ofTable (textOf output))) ≠ .rejected reason) :
    (list machine allowance).outcome = enriched (ofTable (textOf output))
      (blocksOf (machine (detailsCommand (ofTable (textOf output))))) := by
  have printed := outcome_run_of_success made left
  rcases outcome_run_cases left taken with
    ⟨output', diagnostics', shown⟩ | ⟨silent, report, failed⟩
  · rw [outcome_list_of_shown printed (outcome_run_of_success shown left), shown]
    rfl
  · rw [outcome_list_of_failed printed failed, silent, enriched_nil]

/-- The second command is handed to a host for its words, which are constants and the
names of units. -/
theorem rejected_detailsCommand (takes : machine.TakesWords) (units : List ServiceUnit) :
    (∃ reason, machine (detailsCommand units) = .rejected reason) ↔
      ∃ u ∈ units, '\x00' ∈ u.name.toList := by
  have constant : ∀ word ∈ detailsCommand [], '\x00' ∉ word.toList := by decide +kernel
  have words : detailsCommand units = detailsCommand [] ++ units.map ServiceUnit.name := by
    simp [detailsCommand]
  rw [takes, words]
  constructor
  · rintro ⟨word, mem, zero⟩
    rcases List.mem_append.mp mem with mem | mem
    · exact absurd zero (constant word mem)
    · obtain ⟨u, listed, rfl⟩ := List.mem_map.mp mem
      exact ⟨u, listed, zero⟩
  · rintro ⟨u, mem, zero⟩
    exact ⟨u.name, List.mem_append_right _ (List.mem_map_of_mem mem), zero⟩

/-- The details of units do not change which units are listed.  With time left, the
units of the table are listed whatever the second command does, each with the details
of its last block, unless one of these has a time that breaks the list down, or the
second command cannot be handed to the host.  That is so exactly when the name of a unit
holds a character of code zero. -/
theorem list_enriches {output diagnostics : List UInt8} {units : List ServiceUnit}
    {all : List Properties} (made : machine tableCommand = .finished output diagnostics 0)
    (table : ofTable (textOf output) = units)
    (told : blocksOf (machine (detailsCommand units)) = all) :
    (allowance.isOver = true → (list machine allowance).outcome =
        .error (failed tableCommand (" timed out after " ++ allowance.text ++ " seconds"))) ∧
      (allowance.isOver = false →
        (∀ reason, units ≠ [] → machine (detailsCommand units) = .rejected reason →
          (list machine allowance).outcome = .error (.breakdown reason)) ∧
        ((∀ reason, machine (detailsCommand units) ≠ .rejected reason) →
          (Spoiled units all → (list machine allowance).outcome = .error .unconvertible) ∧
          (¬ Spoiled units all → ∃ vs, (list machine allowance).outcome = .ok vs ∧
            List.Forall₂ (Gains all) units vs)) ∧
        (machine.TakesWords → ((∃ f, (list machine allowance).outcome = .error f) ↔
          Spoiled units all ∨ ∃ u ∈ units, '\x00' ∈ u.name.toList))) := by
  constructor
  · intro spent
    rw [list, Run.outcome_bind_of_error (outcome_run_of_isOver made spent)]
  · intro left
    have printed := outcome_run_of_success made left
    subst table
    have lost : ∀ reason, ofTable (textOf output) ≠ [] →
        machine (detailsCommand (ofTable (textOf output))) = .rejected reason →
        (list machine allowance).outcome = .error (.breakdown reason) :=
      fun reason some rejected =>
        outcome_list_of_breakdown printed some (outcome_run_of_rejected rejected)
    have listed (taken) := outcome_list made left taken
    rw [told] at listed
    refine ⟨lost, fun taken => ?_, fun takes => ?_⟩
    · rw [listed taken]
      exact enriched_cases _ all
    · rw [← rejected_detailsCommand takes]
      by_cases rejected :
          ∃ reason, machine (detailsCommand (ofTable (textOf output))) = .rejected reason
      · obtain ⟨u, mem, -⟩ := (rejected_detailsCommand takes _).mp rejected
        obtain ⟨reason, rejects⟩ := rejected
        exact iff_of_true ⟨_, lost reason (List.ne_nil_of_mem mem) rejects⟩ (.inr ⟨_, rejects⟩)
      · rw [listed (not_exists.mp rejected)]
        have cases := enriched_cases (ofTable (textOf output)) all
        refine ⟨?_, ?_⟩
        · rintro ⟨f, failed⟩
          by_contra whole
          obtain ⟨vs, ok, -⟩ := cases.2 fun spoiled => whole (.inl spoiled)
          cases failed.symm.trans ok
        · rintro (spoiled | rejects)
          · exact ⟨_, cases.1 spoiled⟩
          · exact absurd rejects rejected

end

/-- A host with one unit and some details of it. -/
def oneUnit (details : String) : Machine := fun argv =>
  if argv = tableCommand then
    .finished (Utf8.encode "a.service loaded active running A\n".toList) [] 0
  else .finished (Utf8.encode details.toList) [] 0

theorem oneUnit_takes (details : String) (argv : List String) (reason : String) :
    oneUnit details argv ≠ .rejected reason := by
  rw [oneUnit]
  split
  · nofun
  · nofun

/-- The unit as the table has it. -/
def unitA : ServiceUnit :=
  ⟨"a.service", "A", "loaded", "active", "running", none, none, none, none, none⟩

theorem table_oneUnit :
    ofTable (textOf (Utf8.encode "a.service loaded active running A\n".toList)) = [unitA] := by
  have one : (lines "a.service loaded active running A\n".toList).filterMap ofLine? = [unitA] := by
    decide +kernel
  rw [textOf_encode, ofTable, one, List.mergeSort_singleton]

theorem blocks_oneUnit (details : String) :
    blocksOf (oneUnit details (detailsCommand [unitA])) = blocks details := by
  have other : oneUnit details (detailsCommand [unitA]) =
      .finished (Utf8.encode details.toList) [] 0 := rfl
  rw [other, blocksOf, if_pos rfl, textOf_encode]

/-- Neither the time nor the process can be read, and the exit status can. -/
def oddBlock : Properties :=
  [("Id", "a.service"), ("ActiveEnterTimestamp", "soon"), ("MainPID", "x"), ("ExecMainStatus", "1")]

/-- What cannot be read is missing in the unit, and the list is there. -/
theorem list_enriches_oddBlock :
    oneUnit "Id=a.service\nActiveEnterTimestamp=soon\nMainPID=x\nExecMainStatus=1\n" tableCommand =
        .finished (Utf8.encode "a.service loaded active running A\n".toList) [] 0 ∧
      (list (oneUnit "Id=a.service\nActiveEnterTimestamp=soon\nMainPID=x\nExecMainStatus=1\n")
        (.whole 10)).outcome = .ok [{ unitA with exitStatus := some 1 }] := by
  have told : blocks "Id=a.service\nActiveEnterTimestamp=soon\nMainPID=x\nExecMainStatus=1\n" =
      [oddBlock] := by decide +kernel
  have odd : LastAbout unitA.name [oddBlock] oddBlock := ⟨[], [], rfl, rfl, nofun⟩
  have unread : secondsOf? (property? "ActiveEnterTimestamp" oddBlock) = none := rfl
  have whole : ¬ Spoiled [unitA] [oddBlock] := by
    rintro ⟨u, mem, ps, last, x, read, _⟩
    rw [List.mem_singleton.mp mem] at last
    rw [last.eq odd, unread] at read
    cases read
  refine ⟨rfl, ?_⟩
  obtain ⟨vs, outcome, each⟩ := (((@list_enriches (oneUnit _) (.whole 10) _ _ _ _ rfl table_oneUnit
    ((blocks_oneUnit _).trans told)).2 rfl).2.1 (oneUnit_takes _ _)).2 whole
  rw [outcome]
  cases each with
  | cons first rest =>
      cases rest
      cases first with
      | nothing none => exact absurd rfl (none oddBlock (by simp))
      | details last dates =>
          rw [last.eq odd, unread] at dates
          cases dates
          rw [last.eq odd]
          rfl

/-- A time without an end breaks the list down. -/
theorem list_infiniteTime :
    oneUnit "Id=a.service\nActiveEnterTimestamp=@inf\nMainPID=7\n" tableCommand =
        .finished (Utf8.encode "a.service loaded active running A\n".toList) [] 0 ∧
      (list (oneUnit "Id=a.service\nActiveEnterTimestamp=@inf\nMainPID=7\n") (.whole 10)).outcome =
        .error .unconvertible := by
  have told : blocks "Id=a.service\nActiveEnterTimestamp=@inf\nMainPID=7\n" =
      [[("Id", "a.service"), ("ActiveEnterTimestamp", "@inf"), ("MainPID", "7")]] := by
    decide +kernel
  refine ⟨rfl, ?_⟩
  rw [outcome_list rfl rfl (oneUnit_takes _ _), table_oneUnit, blocks_oneUnit, told]
  exact (enriched_cases _ _).1 ⟨unitA, List.mem_singleton_self _, _, ⟨[], [], rfl, rfl, nofun⟩, _,
    rfl, .infinite⟩

end Service

end HostMonitor
