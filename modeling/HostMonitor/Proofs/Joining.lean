import HostMonitor.Proofs.Commands
import HostMonitor.Proofs.Enrichment

/-!
# Joining details to the table

The second command prints stretches of lines, with blank lines between them.  `Tells` says
of a stretch which value it has for a property, and that is all that is used of it: no
value is taken from one stretch into another.

A unit of the table is joined to the last stretch that names it.  `Joined` says what comes
of this.  The columns of the table stay, and the five details are those of that stretch, or
none without one.  Two lists in which a unit stands in the same columns and is named last by
the same stretch agree on the unit, whatever the other stretches are.
-/

namespace HostMonitor.Service

open Host Number Text Time

/-! ## Stretches of lines -/

/-- Lines that follow each other. -/
abbrev Stretch := List (List Char)

/-- The lines of a text, parted where a line is blank. -/
def stretches (text : String) : List Stretch :=
  (lines text.toList).splitOnP fun line => line.all isBlank

/-- The value of a property: what stands after the equals sign on the last line that begins
with its name and an equals sign. -/
def Tells (stretch : Stretch) (name value : String) : Prop :=
  ∃ before after, stretch = before ++ (name.toList ++ '=' :: value.toList) :: after ∧
    ∀ line ∈ after, ¬ name.toList ++ ['='] <+: line

/-- The block that is read from the lines of a stretch. -/
def blockOf (stretch : Stretch) : Properties := stretch.foldl withLine []

/-- A block is the properties of one stretch.  A stretch without any is left out. -/
theorem blocks_eq (text : String) :
    blocks text = ((stretches text).map blockOf).filter fun ps => !ps.isEmpty := by
  -- the block that is open goes on with the first stretch of the lines that are left
  have step : ∀ (ls : List (List Char)) (block : Properties), ∃ first rest,
      ls.splitOnP (fun line => line.all isBlank) = first :: rest ∧
        blocksFrom block ls =
          (first.foldl withLine block :: rest.map blockOf).filter fun ps => !ps.isEmpty := by
    intro ls
    induction ls with
    | nil =>
        intro block
        refine ⟨[], [], List.splitOnP_nil, ?_⟩
        cases block <;> rfl
    | cons line ls ih =>
        intro block
        rw [List.splitOnP_cons_eq_if_modifyHead, blocksFrom]
        by_cases blank : line.all isBlank = true
        · obtain ⟨first, rest, parted, read⟩ := ih []
          refine ⟨[], first :: rest, by rw [if_pos blank, parted], ?_⟩
          rw [if_pos blank, read, List.map_cons, blockOf]
          cases block <;> rfl
        · obtain ⟨first, rest, parted, read⟩ := ih (withLine block line)
          refine ⟨line :: first, rest, by rw [if_neg blank, parted]; rfl, ?_⟩
          rw [if_neg blank, read, List.foldl_cons]
  obtain ⟨first, rest, parted, read⟩ := step (lines text.toList) []
  rw [blocks, read, stretches, parted]
  rfl

/-! ## Values of properties -/

theorem property?_put (name key value : String) (ps : Properties) :
    property? name (ps.put key value) = if key = name then some value else property? name ps :=
  Keyed.lookup_put name

/-- A line that begins with a name and an equals sign has the rest as the value. -/
theorem property?_withLine_self {name : String} (plain : '=' ∉ name.toList) (block : Properties)
    (value : String) :
    property? name (withLine block (name.toList ++ '=' :: value.toList)) = some value := by
  rw [withLine_append plain, property?_put, String.ofList_toList, String.ofList_toList,
    if_pos rfl]

/-- A line that begins otherwise leaves the property as it is. -/
theorem property?_withLine_of_unlike {name : String} {line : List Char}
    (other : ¬ name.toList ++ ['='] <+: line) (block : Properties) :
    property? name (withLine block line) = property? name block := by
  by_cases parted : '=' ∈ line
  · obtain ⟨key, value, rfl, none⟩ := List.eq_append_cons_of_mem parted
    have different : String.ofList key ≠ name := by
      rintro rfl
      exact other ⟨value, by simp⟩
    rw [withLine_append none, property?_put, if_neg different]
  · rw [withLine_of_not_mem parted]

/-- The last line of a stretch tells the value, or it begins otherwise and the lines before
it tell the value. -/
theorem tells_append_singleton {stretch : Stretch} {line : List Char}
    {name value : String} : Tells (stretch ++ [line]) name value ↔
      line = name.toList ++ '=' :: value.toList ∨
        ¬ name.toList ++ ['='] <+: line ∧ Tells stretch name value := by
  constructor
  · rintro ⟨before, after, same, later⟩
    rcases List.eq_nil_or_concat' after with rfl | ⟨after, last, rfl⟩
    · exact .inl (List.singleton_inj.mp (List.append_inj' same rfl).2)
    · rw [← List.cons_append, ← List.append_assoc] at same
      obtain ⟨rfl, one⟩ := List.append_inj' same rfl
      obtain rfl := List.singleton_inj.mp one
      refine .inr ⟨later line (by simp), before, after, rfl, fun other mem => ?_⟩
      exact later other (List.mem_append_left _ mem)
  · rintro (rfl | ⟨other, before, after, rfl, later⟩)
    · exact ⟨stretch, [], rfl, nofun⟩
    · refine ⟨before, after ++ [line], by simp, fun line' mem => ?_⟩
      rcases List.mem_append.mp mem with mem | mem
      · exact later line' mem
      · rwa [List.mem_singleton.mp mem]

/-- What a block has for a property is what its stretch tells. -/
theorem property?_blockOf {name : String} (plain : '=' ∉ name.toList)
    {stretch : Stretch} {value : String} :
    property? name (blockOf stretch) = some value ↔ Tells stretch name value := by
  -- from the end, because a later line replaces what an earlier one has set
  induction stretch using List.reverseRecOn generalizing value with
  | nil =>
      constructor
      · intro found
        cases found
      · rintro ⟨before, after, same, -⟩
        simp at same
  | append_singleton stretch line ih =>
      have read : blockOf (stretch ++ [line]) = withLine (blockOf stretch) line := by
        rw [blockOf, List.foldl_append]
        rfl
      rw [read, tells_append_singleton]
      by_cases begins : name.toList ++ ['='] <+: line
      · obtain ⟨rest, rfl⟩ := begins
        have cell : name.toList ++ ['='] ++ rest =
            name.toList ++ '=' :: (String.ofList rest).toList := by simp
        rw [cell, property?_withLine_self plain, Option.some.injEq, ← String.toList_inj]
        simp
      · have unlike : line ≠ name.toList ++ '=' :: value.toList := by
          rintro rfl
          exact begins ⟨value.toList, by simp⟩
        rw [property?_withLine_of_unlike begins, ih]
        simp [unlike, begins]

/-! ## The last stretch about a unit -/

/-- The last of the stretches that name the unit. -/
def LastNaming (name : String) (all : List Stretch) (stretch : Stretch) : Prop :=
  ∃ before after, all = before ++ stretch :: after ∧ Tells stretch "Id" name ∧
    ∀ other ∈ after, ¬ Tells other "Id" name

/-- A block without properties is about no unit. -/
theorem blockOf?_blocks (name text : String) :
    blockOf? name (blocks text) = blockOf? name ((stretches text).map blockOf) := by
  rw [blocks_eq, blockOf?, blockOf?, ← List.filter_reverse, List.find?_filter]
  -- the two searches ask the same of every block, as an empty one has no name
  congr 1
  funext ps
  cases ps with
  | nil => rfl
  | cons p ps => exact Bool.eq_iff_iff.mpr (by simp)

theorem blockOf?_eq_some_iff_lastNaming {name text : String} {ps : Properties} :
    blockOf? name (blocks text) = some ps ↔
      ∃ stretch, LastNaming name (stretches text) stretch ∧ blockOf stretch = ps := by
  have named : ∀ {stretch : Stretch},
      property? "Id" (blockOf stretch) = some name ↔ Tells stretch "Id" name :=
    property?_blockOf (by decide)
  rw [blockOf?_blocks, blockOf?_eq_some_iff]
  constructor
  · rintro ⟨before, after, same, about, later⟩
    obtain ⟨before', rest, parted, rfl, rest_eq⟩ := List.map_eq_append_iff.mp same
    obtain ⟨stretch, after', rfl, rfl, rfl⟩ := List.map_eq_cons_iff.mp rest_eq
    refine ⟨stretch, ⟨before', after', parted, named.mp about, fun other mem tells => ?_⟩, rfl⟩
    exact later _ (List.mem_map_of_mem mem) (named.mpr tells)
  · rintro ⟨stretch, ⟨before, after, parted, tells, later⟩, rfl⟩
    refine ⟨before.map blockOf, after.map blockOf, by simp [parted], named.mpr tells, ?_⟩
    intro qs mem about
    obtain ⟨other, there, rfl⟩ := List.mem_map.mp mem
    exact later other there (named.mp about)

theorem blockOf?_eq_none_iff_not_tells {name text : String} :
    blockOf? name (blocks text) = none ↔ ∀ stretch ∈ stretches text, ¬ Tells stretch "Id" name := by
  rw [blockOf?_blocks, blockOf?_eq_none_iff, List.forall_mem_map]
  refine forall₂_congr fun stretch _ => not_congr ?_
  exact property?_blockOf (by decide)

/-! ## Details -/

/-- The details of the unit are those that the stretch tells.  An empty value is none, and so
is a process zero. -/
structure DetailsOf (stretch : Stretch) (v : ServiceUnit) : Prop where
  fileState : ∀ s, v.fileState = some s ↔ Tells stretch "UnitFileState" s ∧ s ≠ ""
  since : ∀ t, v.since = some t ↔
    ∃ s, Tells stretch "ActiveEnterTimestamp" s ∧ timestampOf (some s) = .ok (some t)
  mainPid : ∀ n, v.mainPid = some n ↔
    n ≠ 0 ∧ ∃ s, Tells stretch "MainPID" s ∧ int? s.toList = some n
  exitStatus : ∀ n, v.exitStatus = some n ↔
    ∃ s, Tells stretch "ExecMainStatus" s ∧ int? s.toList = some n
  result : ∀ s, v.result = some s ↔ Tells stretch "Result" s ∧ s ≠ ""

/-- What a unit of the table becomes: its columns stay, and its details are those of the last
stretch that names it. -/
structure Joined (all : List Stretch) (u v : ServiceUnit) : Prop where
  columns : v.bare = u
  told : ∀ stretch, LastNaming u.name all stretch → DetailsOf stretch v
  untold : (∀ stretch ∈ all, ¬ Tells stretch "Id" u.name) → v = v.bare

theorem filled_eq_some_iff {value : Option String} {s : String} :
    filled value = some s ↔ value = some s ∧ s ≠ "" := by
  cases value with
  | none => simp [filled]
  | some s' =>
      by_cases empty : s' = ""
      · subst empty
        constructor
        · intro found
          cases found
        · rintro ⟨⟨⟩, some⟩
          exact absurd rfl some
      · have whole : s'.isEmpty = false := Bool.eq_false_iff.mpr (mt String.isEmpty_iff.mp empty)
        simp only [filled, whole]
        constructor
        · rintro ⟨⟩
          exact ⟨rfl, empty⟩
        · exact fun same => same.1

theorem integer?_eq_some_iff {value : Option String} {n : Int} :
    integer? value = some n ↔ ∃ s, value = some s ∧ int? s.toList = some n := by
  rw [integer?, Option.bind_eq_some_iff]
  refine exists_congr fun s => and_congr_left fun read => ?_
  rw [filled_eq_some_iff, and_iff_left]
  rintro rfl
  cases read

theorem timestampOf_eq_some_iff {value : Option String} {since : Option String} {t : String}
    (time : timestampOf value = .ok since) :
    since = some t ↔ ∃ s, value = some s ∧ timestampOf (some s) = .ok (some t) := by
  cases value with
  | none =>
      cases time
      simp
  | some s => simp [time]

theorem DetailsOf.told {stretch : Stretch} (u : ServiceUnit) {since : Option String}
    (time : timestampOf (property? "ActiveEnterTimestamp" (blockOf stretch)) = .ok since) :
    DetailsOf stretch (u.told (blockOf stretch) since) := by
  have tells : ∀ name ∈ detailNames, ∀ s,
      Tells stretch name s ↔ property? name (blockOf stretch) = some s :=
    fun name known s => (property?_blockOf ((by decide : ∀ name ∈ detailNames, '=' ∉ name.toList)
      name known)).symm
  refine ⟨fun s => ?_, fun t => ?_, fun n => ?_, fun n => ?_, fun s => ?_⟩
  · rw [tells _ (by decide)]
    exact filled_eq_some_iff
  · simp only [tells "ActiveEnterTimestamp" (by decide)]
    exact timestampOf_eq_some_iff time
  · simp only [tells "MainPID" (by decide), ← integer?_eq_some_iff]
    change (if integer? (property? "MainPID" (blockOf stretch)) = some 0 then none else _) = _ ↔ _
    split
    · next zero => simp [zero, eq_comm]
    · next other =>
        refine (and_iff_right_of_imp ?_).symm
        rintro found rfl
        exact other found
  · simp only [tells "ExecMainStatus" (by decide)]
    exact integer?_eq_some_iff
  · rw [tells _ (by decide)]
    exact filled_eq_some_iff

/-- The last stretch that names a unit is there when any stretch names it. -/
theorem exists_lastNaming_or (name text : String) :
    (∃ stretch, LastNaming name (stretches text) stretch) ∨
      ∀ stretch ∈ stretches text, ¬ Tells stretch "Id" name := by
  cases found : blockOf? name (blocks text) with
  | none => exact .inr (blockOf?_eq_none_iff_not_tells.mp found)
  | some ps =>
      obtain ⟨stretch, last, -⟩ := blockOf?_eq_some_iff_lastNaming.mp found
      exact .inl ⟨stretch, last⟩

theorem LastNaming.tells {name : String} {all : List Stretch} {stretch : Stretch}
    (last : LastNaming name all stretch) : stretch ∈ all ∧ Tells stretch "Id" name := by
  obtain ⟨before, after, rfl, tells, -⟩ := last
  exact ⟨by simp, tells⟩

section

variable {text text' : String} {u v v' : ServiceUnit}

theorem joined_of_detailed (bare : u.bare = u) (given : detailed (blocks text) u = .ok v) :
    Joined (stretches text) u v := by
  rw [detailed] at given
  cases found : blockOf? u.name (blocks text) with
  | none =>
      rw [found] at given
      cases given
      have unnamed := blockOf?_eq_none_iff_not_tells.mp found
      exact ⟨bare, fun stretch last => absurd last.tells.2 (unnamed stretch last.tells.1),
        fun _ => bare.symm⟩
  | some ps =>
      rw [found] at given
      dsimp only at given
      rw [withDetails_eq] at given
      cases time : timestampOf (property? "ActiveEnterTimestamp" ps) with
      | error f =>
          rw [time] at given
          cases given
      | ok since =>
          rw [time] at given
          cases given
          refine ⟨bare, fun stretch last => ?_, fun unnamed => ?_⟩
          · have same := blockOf?_eq_some_iff_lastNaming.mpr ⟨stretch, last, rfl⟩
            obtain rfl := Option.some.inj (found.symm.trans same)
            exact .told u time
          · rw [blockOf?_eq_none_iff_not_tells.mpr unnamed] at found
            cases found

/-- Details of the same stretch in the same columns are the same. -/
theorem DetailsOf.eq {stretch : Stretch} (details : DetailsOf stretch v)
    (details' : DetailsOf stretch v') (columns : v.bare = v'.bare) : v = v' := by
  have fileState := Option.ext fun s => (details.fileState s).trans (details'.fileState s).symm
  have since := Option.ext fun t => (details.since t).trans (details'.since t).symm
  have mainPid := Option.ext fun n => (details.mainPid n).trans (details'.mainPid n).symm
  have exitStatus := Option.ext fun n => (details.exitStatus n).trans (details'.exitStatus n).symm
  have result := Option.ext fun s => (details.result s).trans (details'.result s).symm
  cases v
  cases v'
  simp_all [ServiceUnit.bare]

/-- Of all stretches only the last one that names the unit matters. -/
theorem Joined.eq (joined : Joined (stretches text) u v) (joined' : Joined (stretches text') u v')
    (same : ∀ stretch, LastNaming u.name (stretches text) stretch ↔
      LastNaming u.name (stretches text') stretch) : v = v' := by
  have columns : v.bare = v'.bare := joined.columns.trans joined'.columns.symm
  rcases exists_lastNaming_or u.name text with ⟨stretch, last⟩ | unnamed
  · exact (joined.told stretch last).eq (joined'.told stretch ((same stretch).mp last)) columns
  · rcases exists_lastNaming_or u.name text' with ⟨stretch, last⟩ | unnamed'
    · have there := ((same stretch).mpr last).tells
      exact absurd there.2 (unnamed stretch there.1)
    · rw [joined.untold unnamed, joined'.untold unnamed', columns]

end

/-! ## Lists -/

/-- Both commands succeed, and these are the units that are listed. -/
structure Lists (machine : Machine) (allowance : Allowance) (table shown : String)
    (vs : List ServiceUnit) : Prop where
  made : (run machine allowance tableCommand).outcome = .ok table
  told : (run machine allowance (detailsCommand (ofTable table))).outcome = .ok shown
  listed : (list machine allowance).outcome = .ok vs

section

variable {machine : Machine} {allowance : Allowance} {table shown : String} {vs : List ServiceUnit}

theorem list_of_empty (made : (run machine allowance tableCommand).outcome = .ok table)
    (empty : ofTable table = []) :
    (list machine allowance).outcome = .ok [] ∧
      (list machine allowance).commands = [tableCommand] := by
  rw [list, Run.outcome_bind_of_ok made, Run.commands_bind_of_ok made, Host.commands_run, empty]
  exact ⟨rfl, rfl⟩

theorem Lists.joined (lists : Lists machine allowance table shown vs) :
    List.Forall₂ (Joined (stretches shown)) (ofTable table) vs := by
  have given := (outcome_list_of_shown lists.made lists.told).symm.trans lists.listed
  rw [enriched_eq, mapM_eq_ok_iff] at given
  have both := (List.forall₂_and_left _ _).mpr ⟨fun u mem => bare_of_mem_ofTable mem, given⟩
  exact both.imp fun u v h => joined_of_detailed h.1 h.2

/-- The unit at a place of the table is joined at the same place of the list. -/
theorem Lists.exists_joined (lists : Lists machine allowance table shown vs) {i : Nat}
    {u : ServiceUnit} (placed : (ofTable table)[i]? = some u) :
    ∃ v, vs[i]? = some v ∧ Joined (stretches shown) u v := by
  obtain ⟨inside, here⟩ := List.getElem?_eq_some_iff.mp placed
  have inside' : i < vs.length := lists.joined.length_eq ▸ inside
  have joined := lists.joined.get inside inside'
  rw [List.get_eq_getElem, List.get_eq_getElem, here] at joined
  exact ⟨vs[i], List.getElem?_eq_getElem inside', joined⟩

/-- With details, each unit of the table is listed in its place and joined to the last stretch
that names it.  The same unit named last by the same stretch is listed alike, whatever the
rest of both outputs is.  When the second command fails the table alone is listed, and
without units it is not started.  One that cannot be handed to the host breaks the list
down. -/
theorem list_joins (made : (run machine allowance tableCommand).outcome = .ok table) :
    (∀ shown vs, Lists machine allowance table shown vs →
      List.Forall₂ (Joined (stretches shown)) (ofTable table) vs ∧
        ∀ machine' allowance' table' shown' vs', Lists machine' allowance' table' shown' vs' →
          ∀ (i j : Nat) (u : ServiceUnit), (ofTable table)[i]? = some u →
            (ofTable table')[j]? = some u →
            (∀ stretch, LastNaming u.name (stretches shown) stretch ↔
              LastNaming u.name (stretches shown') stretch) →
            vs[i]? = vs'[j]?) ∧
      (∀ report, (run machine allowance (detailsCommand (ofTable table))).outcome =
        .error (.reported report) → (list machine allowance).outcome = .ok (ofTable table)) ∧
      (∀ text, (run machine allowance (detailsCommand (ofTable table))).outcome =
        .error (.breakdown text) → ofTable table ≠ [] →
          (list machine allowance).outcome = .error (.breakdown text)) ∧
      (ofTable table = [] → (list machine allowance).outcome = .ok [] ∧
        (list machine allowance).commands = [tableCommand]) := by
  refine ⟨fun shown vs lists => ⟨lists.joined, ?_⟩, fun _ => outcome_list_of_failed made,
    fun _ failed some => outcome_list_of_breakdown made some failed, list_of_empty made⟩
  intro machine' allowance' table' shown' vs' lists' i j u placed placed' same
  obtain ⟨v, listed, joined⟩ := lists.exists_joined placed
  obtain ⟨v', listed', joined'⟩ := lists'.exists_joined placed'
  rw [listed, listed', joined.eq joined' same]

end

/-- Two units and no details. -/
def twoUnits : String := "a.service loaded active running A\nb.service loaded active running B\n"

/-- Two stretches about the second unit, one about the first, and one about none. -/
def fourStretches : String :=
  "Id=b.service\nMainPID=7\n\nMainPID=9\n\nMainPID=0\nId=a.service\nResult=exit-code\n\n" ++
    "Id=b.service\nUnitFileState=enabled\n"

/-- A host that prints one text for the table and one for the details. -/
def printing (table details : String) : Machine := fun argv =>
  if argv = tableCommand then .finished (Utf8.encode table.toList) [] 0
  else .finished (Utf8.encode details.toList) [] 0

def unitB : ServiceUnit := { unitA with name := "b.service", description := "B" }

/-- The units with the details of the last stretches about them. -/
def twoDetailed : List ServiceUnit :=
  [{ unitA with result := some "exit-code" }, { unitB with fileState := some "enabled" }]

/-- A process zero is none, and the process of an earlier stretch is not taken. -/
theorem list_joins_twoUnits :
    (run (printing twoUnits fourStretches) (.whole 10) tableCommand).outcome = .ok twoUnits ∧
      List.Forall₂ (Joined (stretches fourStretches)) (ofTable twoUnits) twoDetailed := by
  have made : (run (printing twoUnits fourStretches) (.whole 10) tableCommand).outcome =
      .ok twoUnits := by
    rw [outcome_run_of_success rfl rfl, textOf_encode]
  have units : ofTable twoUnits = [unitA, unitB] := by
    have two : (lines twoUnits.toList).filterMap ofLine? = [unitA, unitB] := by decide +kernel
    rw [ofTable, two]
    exact List.mergeSort_of_pairwise (by decide)
  have told : (run (printing twoUnits fourStretches) (.whole 10)
      (detailsCommand (ofTable twoUnits))).outcome = .ok fourStretches := by
    rw [units, outcome_run_of_success rfl rfl, textOf_encode]
  have read : blocks fourStretches = [[("Id", "b.service"), ("MainPID", "7")], [("MainPID", "9")],
      [("MainPID", "0"), ("Id", "a.service"), ("Result", "exit-code")],
      [("Id", "b.service"), ("UnitFileState", "enabled")]] := by
    decide +kernel
  have listed : (list (printing twoUnits fourStretches) (.whole 10)).outcome =
      .ok twoDetailed := by
    rw [outcome_list_of_shown made told, units, read]
    rfl
  exact ⟨made, ((list_joins made).1 _ _ ⟨made, told, listed⟩).1⟩

end HostMonitor.Service
