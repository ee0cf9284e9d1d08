import HostMonitor.Proofs.Auditing
import HostMonitor.Proofs.Seconds
import HostMonitor.Proofs.Selection
import HostMonitor.Proofs.Serving

/-!
# Which commands are run

The commands of a run come in turns.  A turn is the table of units alone, the table
and the details of the units in it, or one read of the journal.  What a client sends
has a part in the last one only, as two whole numbers, a digit and the name of a unit.

This is followed from the commands through the queries to the tools, the resources
and the methods.  A member of a message takes one turn at most.  The members are
handled at the same time, so their turns may be mixed, and the host may have changed
between them.  The names in a turn are those of the table that was printed in it.
-/

namespace HostMonitor

/-! ## Turns -/

namespace Run

section

variable {α β : Type} {P Q : List (List String) → Prop} {r : Run α} {next : α → Run β}

theorem commands_bind_of_ok {a : α} (h : r.outcome = .ok a) :
    (r >>= next).commands = r.commands ++ (next a).commands := by
  rw [bind_of_ok h, commands, commands, commands, List.filterMap_append]

theorem commands_bind_of_error {f : Fault} (h : r.outcome = .error f) :
    (r >>= next).commands = r.commands := by
  rw [bind_of_error h, commands, commands]

/-- A run that starts no commands at its end starts those of its beginning. -/
theorem commands_bind_silent (rest : ∀ a, (next a).commands = []) :
    (r >>= next).commands = r.commands := by
  cases outcome : r.outcome with
  | ok a => rw [commands_bind_of_ok outcome, rest, List.append_nil]
  | error f => exact commands_bind_of_error outcome

theorem commands_gather (runs : List (Run α)) :
    (gather runs).commands = (runs.map commands).flatten := by
  rw [commands, gather, List.filterMap_flatMap, List.flatMap]
  rfl

/-- The run starts no command, or its commands are a turn. -/
def TakesTurn (P : List (List String) → Prop) (r : Run α) : Prop :=
  r.commands = [] ∨ P r.commands

/-- A turn may stand in front of what starts no command. -/
theorem TakesTurn.bind (h : r.TakesTurn P) (rest : ∀ a, (next a).commands = []) :
    (r >>= next).TakesTurn P := by
  rwa [TakesTurn, commands_bind_silent rest]

/-- A turn may stand behind what starts no command. -/
theorem takesTurn_bind (silent : r.commands = [])
    (rest : ∀ a, r.outcome = .ok a → (next a).TakesTurn P) : (r >>= next).TakesTurn P := by
  cases outcome : r.outcome with
  | ok a =>
      rw [TakesTurn, commands_bind_of_ok outcome, silent, List.nil_append]
      exact rest a outcome
  | error f => exact .inl (by rw [commands_bind_of_error outcome, silent])

/-- The commands of the run are turns, one after another. -/
def Turns (P : List (List String) → Prop) (r : Run α) : Prop :=
  ∃ turns : List (List (List String)), r.commands = turns.flatten ∧ ∀ turn ∈ turns, P turn

theorem turns_of_silent (silent : r.commands = []) : r.Turns P := ⟨[], silent, nofun⟩

theorem Turns.imp (h : r.Turns P) (more : ∀ turn, P turn → Q turn) : r.Turns Q := by
  obtain ⟨turns, same, each⟩ := h
  exact ⟨turns, same, fun turn mem => more turn (each turn mem)⟩

/-- The turns of a run that goes on stand before those of what comes next. -/
theorem Turns.bind (h : r.Turns P) (rest : ∀ a, (next a).Turns P) : (r >>= next).Turns P := by
  obtain ⟨turns, same, each⟩ := h
  cases outcome : r.outcome with
  | ok a =>
      obtain ⟨turns', same', each'⟩ := rest a
      refine ⟨turns ++ turns', ?_, List.forall_mem_append.mpr ⟨each, each'⟩⟩
      rw [commands_bind_of_ok outcome, same, same', List.flatten_append]
  | error f => exact ⟨turns, by rw [commands_bind_of_error outcome, same], each⟩

/-- Runs that take a turn each have turns. -/
theorem turns_gather {runs : List (Run α)} (h : ∀ r ∈ runs, r.TakesTurn P) :
    (gather runs).Turns P := by
  refine ⟨(runs.map commands).filter (· ≠ []), ?_, fun turn mem => ?_⟩
  · rw [commands_gather, List.flatten_filter_ne_nil]
  · obtain ⟨inside, some⟩ := List.mem_filter.mp mem
    obtain ⟨r, member, rfl⟩ := List.mem_map.mp inside
    exact (h r member).resolve_left (by simpa using some)

end

end Run

/-! ## Commands -/

/-- Running a command starts that command and no other. -/
theorem Host.commands_run (machine : Host.Machine) (allowance : Host.Allowance)
    (argv : List String) : (Host.run machine allowance argv).commands = [argv] := by
  have late : (Host.run.outOfTime allowance argv).commands = [] := rfl
  rw [Host.run, Run.commands_bind_of_ok (Run.outcome_cause _)]
  split
  · rfl
  · rfl
  · rw [late]
    rfl
  · split
    · rw [late]
      rfl
    · split
      · rfl
      · rfl

namespace Service

/-- The names of the units of a table, as the host gave them. -/
def namesOf (table : String) : List String :=
  ((Text.lines table.toList).filterMap ofLine?).map ServiceUnit.name

/-- The units of a table are put in the order of their names. -/
theorem names_ofTable (table : String) :
    ((ofTable table).map ServiceUnit.name).Perm (namesOf table) ∧
      ((ofTable table).map ServiceUnit.name).Pairwise (· ≤ ·) := by
  constructor
  · exact (List.mergeSort_perm _ _).map _
  · rw [List.pairwise_map]
    exact (List.pairwise_mergeSort nameLE_trans nameLE_total _).imp nameLE_iff.mp

/-- The units are listed by the table alone, or by the table and the details of the
units in it. -/
theorem commands_list (machine : Host.Machine) (allowance : Host.Allowance) :
    (list machine allowance).commands = [tableCommand] ∨
      ∃ table, (Host.run machine allowance tableCommand).outcome = .ok table ∧
        (list machine allowance).commands = [tableCommand, detailsCommand (ofTable table)] := by
  rw [list]
  cases printed : (Host.run machine allowance tableCommand).outcome with
  | error f => exact .inl (by rw [Run.commands_bind_of_error printed, Host.commands_run])
  | ok table =>
      rw [Run.commands_bind_of_ok printed, Host.commands_run]
      dsimp only
      split
      · exact .inl rfl
      · refine .inr ⟨table, rfl, ?_⟩
        have shown : (Host.run machine allowance (detailsCommand (ofTable table))).attempt.commands =
            [detailsCommand (ofTable table)] := Host.commands_run _ _ _
        rw [Run.commands_bind_of_ok (Run.outcome_attempt _), shown]
        split
        · rfl
        · rfl
        · rfl

end Service

/-- The journal is read by one command. -/
theorem Journal.commands_read (machine : Host.Machine) (allowance : Host.Allowance) (most : Int)
    (w : Journal.Window) (threshold : Option Int) (unit : Option String) :
    (Journal.read machine allowance most w threshold unit).commands =
      [Journal.command most w threshold unit] := by
  rw [Journal.read]
  cases printed : (Host.run machine allowance (command most w threshold unit)).outcome with
  | ok output =>
      rw [Run.commands_bind_of_ok printed, Host.commands_run]
      rfl
  | error f => rw [Run.commands_bind_of_error printed, Host.commands_run]

/-! ## Arguments of queries -/

namespace Query

open Text Time

theorem instant_near {given : Option WireText} {t : Instant} (h : instant given = .ok (some t)) :
    t.micros.natAbs < 1000000 * 2 ^ 38 := by
  obtain ⟨cs, read⟩ := timestamp_of_instant h
  exact natAbs_micros_lt read

/-- The bounds of a window are whole seconds, the first of which is not above the
second. -/
theorem exists_bounds_of_window {start stop : Option WireText} {large : Bool}
    {w : Journal.Window} (h : window start stop large = .ok w) :
    ∃ i j : Int, w.start.seconds.floor? = some i ∧ w.stop.seconds.ceil? = some j ∧ i ≤ j := by
  obtain ⟨first, last, before⟩ := window_eq_ok h
  exact Instant.exists_bounds before (instant_near first) (instant_near last)

theorem namedPriority?_bounds {name : String} {n : Int} (found : namedPriority? name = some n) :
    0 ≤ n ∧ n ≤ 7 := by
  rw [namedPriority?] at found
  split at found
  · next c _ =>
      split at found
      · next digit =>
          have low : 0x30 ≤ c.toNat := digit.1
          have high : c.toNat ≤ 0x37 := digit.2
          cases found
          omega
      · cases found
  · have words : ∀ word ∈ priorityWords, 0 ≤ word.2 ∧ word.2 ≤ 7 := by decide
    obtain ⟨before, after, same, _⟩ := List.lookup_eq_some_iff.mp found
    exact words (name, n) (by simp [same])

theorem threshold_bounds {given : Json} {k : Int} (h : threshold given = .ok (some k)) :
    0 ≤ k ∧ k ≤ 7 := by
  unfold threshold at h
  split at h
  · cases h
  · split at h
    · next bounds =>
        cases h
        exact bounds
    · cases h
  · split at h
    · next found =>
        cases h
        exact namedPriority?_bounds found
    · cases h
  · cases h

theorem spelling_of_isUnitName {name : String} (h : isUnitName name = true) :
    name ≠ "" ∧ ∀ c ∈ name.toList, c.isAlphanum = true ∨ c ∈ ['.', '-', '_', '@', ':'] := by
  rw [isUnitName, Bool.and_eq_true, List.all_eq_true] at h
  constructor
  · intro none
    rw [none] at h
    exact absurd h.1 (by decide)
  · intro c mem
    simpa [isUnitChar, or_assoc] using h.2 c mem

theorem isUnitName_of_unitFilter {given : Option WireText} {name : String}
    (h : unitFilter given = .ok (some name)) : isUnitName name = true := by
  cases given with
  | none => cases h
  | some text =>
      rw [unitFilter] at h
      cases found : unitName text with
      | error r =>
          rw [found] at h
          cases h
      | ok name' =>
          rw [found] at h
          cases h
          rw [unitName] at found
          split at found
          · split at found
            · next valid =>
                cases found
                exact valid
            · cases found
          · cases found

/-! ## Queries -/

/-- The sources take turns, whatever is asked. -/
structure Sources.TakeTurns (P : List (List String) → Prop) (s : Sources) : Prop where
  units : s.units.TakesTurn P
  logs : ∀ (r : LogsRequest) (q : LogsQuery), r.query s.charNames = .ok q →
    (s.logs q.window q.threshold q.unit).TakesTurn P

section

variable {P : List (List String) → Prop} {s : Sources} (hs : s.TakeTurns P) (now : Instant)

include hs

theorem takesTurn_listServices (r : ServicesRequest) : (listServices s now r).TakesTurn P := by
  have silent : (Run.ofChecked r.query).commands = [] := by cases r.query <;> rfl
  have asked : s.askUnits.TakesTurn P := Run.takesTurn_bind rfl fun _ _ => hs.units
  exact Run.takesTurn_bind silent fun _ _ => asked.bind fun _ => rfl

theorem takesTurn_listLogs (r : LogsRequest) : (listLogs s now r).TakesTurn P := by
  have noted : ∀ rows, (noteScanLimit s.scanLimit rows).commands = [] := by
    intro rows
    unfold noteScanLimit
    split
    · split
      · rfl
      · rfl
    · rfl
  refine Run.takesTurn_bind rfl fun q accepted => ?_
  have asked : (s.askLogs q.window q.threshold q.unit).TakesTurn P :=
    Run.takesTurn_bind rfl fun _ _ => hs.logs r q accepted
  exact asked.bind fun rows => (Run.commands_bind_silent fun _ => rfl).trans (noted _)

theorem takesTurn_recentLogs : (recentLogs s now).TakesTurn P := by
  rw [recentLogs]
  split
  · exact takesTurn_listLogs hs now _
  · exact .inl rfl

end

end Query

/-! ## Tools and resources -/

namespace Tool

/-- The tools and resources take turns, whatever the arguments are. -/
structure Catalog.TakeTurns (P : List (List String) → Prop) (c : Catalog) : Prop where
  tools : ∀ t ∈ c.tools, ∀ given, (t.handler given).TakesTurn P
  resources : ∀ r ∈ c.resources, r.reader.TakesTurn P

section

variable {P : List (List String) → Prop} {c : Catalog} (hc : c.TakeTurns P)

include hc

theorem takesTurn_callTool (name : Text.WireText) (arguments : Json.Fields) :
    (c.callTool name arguments).TakesTurn P := by
  have executed : (c.execute name arguments).TakesTurn P := by
    rw [Catalog.execute]
    split
    · exact .inl rfl
    · next t found =>
        have silent : (Run.ofChecked (t.signature.check arguments)).commands = [] := by
          cases t.signature.check arguments <;> rfl
        exact Run.takesTurn_bind silent fun given _ =>
          hc.tools t (List.mem_of_find?_eq_some found) given
  exact executed.bind fun _ => Run.commands_bind_silent fun _ => rfl

theorem takesTurn_readResource (uri : Text.WireText) : (c.readResource uri).TakesTurn P := by
  rw [Catalog.readResource]
  split
  · exact .inl rfl
  · next r found =>
      exact (hc.resources r (List.mem_of_find?_eq_some found)).bind fun _ =>
        Run.commands_bind_silent fun _ => rfl

end

end Tool

/-! ## Messages -/

namespace Rpc

/-- The methods take turns, whatever the parameters are. -/
def Methods.TakeTurns (P : List (List String) → Prop) (ms : Methods) : Prop :=
  ∀ m ∈ ms, ∀ params, (m.2 params).TakesTurn P

section

variable {P : List (List String) → Prop} {ms : Methods} (hm : ms.TakeTurns P)

include hm

theorem takesTurn_call (r : Request) : (ms.call r).TakesTurn P := by
  rw [Methods.call]
  split
  · exact .inl rfl
  · exact .inl rfl
  · next method fields found _ => exact hm _ (Gateway.mem_of_lookup found) fields
  · next method found _ => exact hm _ (Gateway.mem_of_lookup found) []

theorem takesTurn_settle (errorId : String) (r : Request) : (ms.settle errorId r).TakesTurn P := by
  have told : ∀ f, (errorFor r errorId f).commands = [] := by
    intro f
    rw [errorFor]
    split
    · rfl
    · rfl
  refine Run.TakesTurn.bind (r := (ms.call r).attempt) (takesTurn_call hm r) fun outcome => ?_
  cases outcome with
  | ok value => rfl
  | error f => exact (Run.commands_bind_silent fun _ => rfl).trans (told f)

/-- A member of a message takes one turn at most. -/
theorem takesTurn_replyWithin (reach : Nat) (errorId : String) (m : Member) :
    (ms.replyWithin reach errorId m).TakesTurn P := by
  cases m with
  | refused id => exact .inl rfl
  | request r =>
      have recorded : ∀ reply, (record reach r reply).commands = [] := by
        intro reply
        rw [record]
        split
        · rfl
        · rfl
      exact (takesTurn_settle hm errorId r).bind fun reply =>
        (Run.commands_bind_silent fun _ => rfl).trans (recorded reply)

theorem turns_dispatchWithin (reach : Nat) (errorIds : ErrorIds) (body : List UInt8) :
    (ms.dispatchWithin reach errorIds body).Turns P := by
  refine (Run.turns_gather fun run mem => ?_).bind fun _ => Run.turns_of_silent rfl
  obtain ⟨m, _, rfl⟩ := List.mem_map.mp mem
  exact takesTurn_replyWithin hm reach _ _

end

end Rpc

/-! ## Requests -/

namespace Gateway

open Host Query Rpc Service Settings Tool

section

variable {P : List (List String) → Prop} {c : Catalog}

theorem takeTurns_catalog {sources : Sources} (hs : sources.TakeTurns P) (now : Time.Instant) :
    (catalog sources now).TakeTurns P where
  tools := by
    intro t mem given
    simp only [catalog, List.mem_cons, List.not_mem_nil, or_false] at mem
    rcases mem with same | same
    · rw [same]
      exact (takesTurn_listServices hs now _).bind fun _ => rfl
    · rw [same]
      exact (takesTurn_listLogs hs now _).bind fun _ => rfl
  resources := by
    intro r mem
    simp only [catalog, List.mem_cons, List.not_mem_nil, or_false] at mem
    rcases mem with same | same | same
    · rw [same]
      exact (takesTurn_listServices hs now _).bind fun _ => rfl
    · rw [same]
      exact (takesTurn_listServices hs now _).bind fun _ => rfl
    · rw [same]
      exact (takesTurn_recentLogs hs now).bind fun _ => rfl

theorem takeTurns_methods (hc : c.TakeTurns P) : (methods c).TakeTurns P := by
  have greeted : ∀ params, (greet params).TakesTurn P := by
    intro params
    rw [greet]
    dsimp only
    split
    · exact .inl rfl
    · exact .inl rfl
  have called : ∀ params, (callTool c params).TakesTurn P := by
    intro params
    rw [callTool]
    split
    · exact .inl rfl
    · split
      · exact takesTurn_callTool hc _ _
      · exact takesTurn_callTool hc _ _
      · exact takesTurn_callTool hc _ _
      · exact .inl rfl
  have read : ∀ params, (readResource c params).TakesTurn P := by
    intro params
    rw [readResource]
    split
    · exact .inl rfl
    · exact takesTurn_readResource hc _
  have acknowledged : ∀ params, (acknowledge params).TakesTurn P := fun _ => .inl rfl
  intro m mem
  simp only [methods, List.mem_cons, List.not_mem_nil, or_false] at mem
  rcases mem with rfl | rfl | rfl | rfl | rfl | rfl | rfl | rfl
  · exact greeted
  · exact acknowledged
  · exact acknowledged
  · exact acknowledged
  · exact fun _ => .inl rfl
  · exact called
  · exact fun _ => .inl rfl
  · exact read

theorem turns_respondWithin {ms : Methods} (hm : ms.TakeTurns P) (reach : Nat) (s : Settings)
    (around : Surroundings) (r : HttpRequest) : (respondWithin ms reach s around r).Turns P := by
  have noted : ∀ response, (noteResponse around r response).commands = [] := by
    intro response
    rw [Run.commands, events_noteResponse]
    split
    · rfl
    · split
      · rfl
      · rfl
  have message : (messageWithin ms reach s around r).Turns P := by
    cases decided : Access.decide s r.peer r.headers with
    | ok client =>
        rw [messageWithin_of_ok decided]
        exact turns_dispatchWithin hm reach _ _
    | error d =>
        rw [messageWithin_of_error decided]
        exact Run.turns_of_silent rfl
  have routed : (routeWithin ms reach s around r).Turns P := by
    rw [routeWithin]
    split
    · exact Run.turns_of_silent rfl
    · split
      · exact Run.turns_of_silent rfl
      · split
        · exact message
        · exact Run.turns_of_silent rfl
  exact routed.bind fun response => Run.turns_of_silent
    ((Run.commands_bind_silent fun _ => rfl).trans (noted response))

end

/-- One turn of commands.  All words are fixed but for the numbers of a window, the
limit in the settings, a priority, the name of one unit that is asked for, and the
names of units that the host has printed. -/
inductive Turn (s : Settings) (machine : Machine) : List (List String) → Prop
  | table : Turn s machine [["systemctl", "list-units", "--type=service", "--all", "--no-legend",
      "--no-pager", "--plain", "--full"]]
  /-- The names stand behind the mark that ends options. -/
  | details {table : String} {names : List String} :
      (run machine (.real s.timeout) tableCommand).outcome = .ok table →
      names.Perm (namesOf table) → names.Pairwise (· ≤ ·) →
      Turn s machine [["systemctl", "list-units", "--type=service", "--all", "--no-legend",
          "--no-pager", "--plain", "--full"],
        ["systemctl", "show", "--no-pager", "--timestamp=unix",
          "--property=Id,UnitFileState,ActiveEnterTimestamp,MainPID,ExecMainStatus,Result",
          "--"] ++ names]
  | journal {start stop : Int} {priority : Option Int} {unit : Option String} : start ≤ stop →
      (∀ k, priority = some k → 0 ≤ k ∧ k ≤ 7) →
      (∀ name, unit = some name → name ≠ "" ∧
        ∀ c ∈ name.toList, c.isAlphanum = true ∨ c ∈ ['.', '-', '_', '@', ':']) →
      Turn s machine [["journalctl", "--output=json", "--no-pager", "--utc",
          "--since=@" ++ toString start, "--until=@" ++ toString stop,
          "--lines=" ++ toString s.journalMost] ++
        (priority.map fun k => "--priority=" ++ toString k).toList ++
        (unit.map fun name => "_SYSTEMD_UNIT=" ++ name).toList]

theorem takeTurns_sources (s : Settings) (machine : Machine) (names : Pattern.CharNames) :
    (sources s machine names).TakeTurns (Turn s machine) where
  units := by
    refine .inr ?_
    show Turn s machine (list machine (.real s.timeout)).commands
    rcases commands_list machine (.real s.timeout) with alone | ⟨table, printed, both⟩
    · rw [alone]
      exact .table
    · rw [both]
      have names := names_ofTable table
      exact .details printed names.1 names.2
  logs := by
    intro r q accepted
    refine .inr ?_
    show Turn s machine (Journal.read machine (.real s.timeout) s.journalMost q.window q.threshold
      q.unit).commands
    obtain ⟨window, threshold, unit, _⟩ := LogsRequest.query_eq_ok accepted
    obtain ⟨start, stop, low, high, order⟩ := exists_bounds_of_window window
    rw [Journal.commands_read, Journal.command, low, high]
    refine .journal order ?_ ?_
    · intro k given
      rw [given] at threshold
      exact threshold_bounds threshold
    · intro name given
      rw [given] at unit
      exact spelling_of_isUnitName (isUnitName_of_unitFilter unit)

theorem takeTurns_methodsFor (s : Settings) (around : Surroundings) :
    (methodsFor s around).TakeTurns (Turn s around.machine) :=
  takeTurns_methods (takeTurns_catalog (takeTurns_sources s around.machine around.charNames)
    around.now)

/-- The members of a message at work at the same time, each of which may find another
host, at another time. -/
def membersAtWork (s : Settings) (reach : Nat) (hosts : Nat → Surroundings)
    (errorIds : ErrorIds) (body : List UInt8) : List (Run (Option Reply)) :=
  (Message.ofBytes body).members.zipIdx.map fun m =>
    (methodsFor s (hosts m.2)).replyWithin reach (errorIds m.2) m.1

/-- The members of a message take a turn each, or none, on the host that they find. -/
theorem exists_turns_of_interleaves {s : Settings} {reach : Nat} {hosts : Nat → Surroundings}
    {errorIds : ErrorIds} {body : List UInt8} {events : List Event}
    (happens : Interleaves ((membersAtWork s reach hosts errorIds body).map Run.events) events) :
    ∃ turns, Interleaves turns (events.filterMap Event.command?) ∧
      ∀ turn ∈ turns, turn = [] ∨ ∃ place, Turn s (hosts place).machine turn := by
  refine ⟨_, happens.filterMap Event.command?, fun turn mem => ?_⟩
  obtain ⟨_, inside, rfl⟩ := List.mem_map.mp mem
  obtain ⟨run, member, rfl⟩ := List.mem_map.mp inside
  obtain ⟨m, _, rfl⟩ := List.mem_map.mp member
  exact (takesTurn_replyWithin (takeTurns_methodsFor s (hosts m.2)) reach _ _).imp_right
    fun turn => ⟨m.2, turn⟩

/-- Whatever clients send and the host prints, the commands that are run are turns of
these kinds.  They are so too while the members of a message are handled at the same
time.  Then turns may be mixed, and each of them has to do with the host that its member
finds. -/
theorem serve_commands (s : Settings) (reach : Nat) :
    (∀ visits, (serve (methodsFor s) reach s visits).Turns fun turn =>
        ∃ v ∈ visits, Turn s v.around.machine turn) ∧
      (∀ around errorIds body, membersAtWork s reach (fun _ => around) errorIds body =
        (methodsFor s around).runsWithin reach errorIds (Message.ofBytes body).members) ∧
      ∀ hosts errorIds body events,
        Interleaves ((membersAtWork s reach hosts errorIds body).map Run.events) events →
          ∃ turns, Interleaves turns (events.filterMap Event.command?) ∧
            ∀ turn ∈ turns, turn = [] ∨ ∃ place, Turn s (hosts place).machine turn := by
  refine ⟨fun visits => ?_, fun _ _ _ => rfl, fun _ _ _ _ => exists_turns_of_interleaves⟩
  induction visits with
  | nil => exact Run.turns_of_silent rfl
  | cons v visits ih =>
      have first : (respondWithin (methodsFor s v.around) reach s v.around v.request).Turns
          (Turn s v.around.machine) :=
        turns_respondWithin (takeTurns_methodsFor s v.around) reach s v.around v.request
      refine (first.imp fun turn h => ⟨v, List.mem_cons_self, h⟩).bind fun _ => ?_
      refine (ih.imp fun turn h => ?_).bind fun _ => Run.turns_of_silent rfl
      obtain ⟨w, mem, h⟩ := h
      exact ⟨w, List.mem_cons_of_mem _ mem, h⟩

end Gateway

end HostMonitor
