import HostMonitor.Journal.Entry
import HostMonitor.Run.Notice
import HostMonitor.Run.Report

/-!
# Runs

A run is what a part of the program does: the events it causes, in order, and
the value or the fault it ends with.  A fault ends a run, and the events before
it stay.

The host is not changed by a run.  What it would answer is an argument of the
parts that ask it, so a run is a value, and two runs can be compared.
-/

namespace HostMonitor

/-- Something that can be seen from outside. -/
inductive Event where
  | noted (notice : Notice)
  | started (argv : List String)
  | killed
  | awaited
  | unitsAsked
  | logsAsked (window : Journal.Window) (threshold : Option Int) (unit : Option String)
  deriving DecidableEq, Repr

/-- The command that is started, if the event is that. -/
def Event.command? : Event → Option (List String)
  | .started argv => some argv
  | _ => none

@[ext]
structure Run (α : Type) where
  events : List Event
  outcome : Except Fault α

namespace Run

variable {α β : Type}

def done (a : α) : Run α := ⟨[], .ok a⟩

/-- One run and then another. -/
def andThen (r : Run α) (next : α → Run β) : Run β :=
  match r.outcome with
  | .ok a => ⟨r.events ++ (next a).events, (next a).outcome⟩
  | .error f => ⟨r.events, .error f⟩

instance : Monad Run where
  pure := done
  bind := andThen

def fail (f : Fault) : Run α := ⟨[], .error f⟩

def cause (e : Event) : Run Unit := ⟨[e], .ok ()⟩

/-- A run that writes one line to the log. -/
def note (n : Notice) : Run Unit := cause (.noted n)

/-- The outcome as it is. -/
def ofExcept (outcome : Except Fault α) : Run α := ⟨[], outcome⟩

/-- The value, or a fault with the report. -/
def ofChecked : Checked α → Run α
  | .ok a => done a
  | .error r => fail (.reported r)

/-- The run with its outcome as its value, so that a fault does not end it. -/
def attempt (r : Run α) : Run (Except Fault α) := ⟨r.events, .ok r.outcome⟩

/-- Runs at the same time.  Each of them comes to its end, and the value is that of
all or the fault of one. -/
def gather (runs : List (Run α)) : Run (List α) :=
  ⟨runs.flatMap events, runs.mapM outcome⟩

/-- The lines that the run writes to the log. -/
def notices (r : Run α) : List Notice :=
  r.events.filterMap fun
    | .noted n => some n
    | _ => none

/-- The host commands that the run starts. -/
def commands (r : Run α) : List (List String) := r.events.filterMap Event.command?

/-! ## Events of composed runs -/

@[simp] theorem events_pure (a : α) : (pure a : Run α).events = [] := rfl

@[simp] theorem events_done (a : α) : (done a).events = [] := rfl

@[simp] theorem events_fail (f : Fault) : (fail f : Run α).events = [] := rfl

@[simp] theorem events_cause (e : Event) : (cause e).events = [e] := rfl

@[simp] theorem events_note (n : Notice) : (note n).events = [.noted n] := rfl

@[simp] theorem events_ofExcept (o : Except Fault α) : (ofExcept o).events = [] := rfl

@[simp] theorem events_attempt (r : Run α) : r.attempt.events = r.events := rfl

/-- A run that ends with a value does its own part, and then what comes next does
the other. -/
theorem bind_of_ok {r : Run α} {a : α} (h : r.outcome = .ok a) (next : α → Run β) :
    r >>= next = ⟨r.events ++ (next a).events, (next a).outcome⟩ := by
  change r.andThen next = _
  simp only [andThen, h]

/-- After a fault nothing is done. -/
theorem bind_of_error {r : Run α} {f : Fault} (h : r.outcome = .error f) (next : α → Run β) :
    r >>= next = ⟨r.events, .error f⟩ := by
  change r.andThen next = _
  simp only [andThen, h]

/-- What is made of a value causes no events, and neither does a failure to make it. -/
theorem events_bind_ofExcept (r : Run α) (f : α → Except Fault β) :
    (r >>= fun a => ofExcept (f a)).events = r.events := by
  cases h : r.outcome with
  | ok a => rw [bind_of_ok h, events_ofExcept, List.append_nil]
  | error e => rw [bind_of_error h]

theorem events_bind_pure (r : Run α) (f : α → β) :
    (r >>= fun a => pure (f a)).events = r.events :=
  events_bind_ofExcept r fun a => .ok (f a)

/-! ## Outcomes of composed runs -/

@[simp] theorem outcome_pure (a : α) : (pure a : Run α).outcome = .ok a := rfl

@[simp] theorem outcome_done (a : α) : (done a).outcome = .ok a := rfl

@[simp] theorem outcome_fail (f : Fault) : (fail f : Run α).outcome = .error f := rfl

@[simp] theorem outcome_cause (e : Event) : (cause e).outcome = .ok () := rfl

@[simp] theorem outcome_note (n : Notice) : (note n).outcome = .ok () := rfl

@[simp] theorem outcome_ofExcept (o : Except Fault α) : (ofExcept o).outcome = o := rfl

@[simp] theorem outcome_attempt (r : Run α) : r.attempt.outcome = .ok r.outcome := rfl

/-- A run that ends with a value hands it to what comes next. -/
theorem outcome_bind_of_ok {r : Run α} {a : α} (h : r.outcome = .ok a) (next : α → Run β) :
    (r >>= next).outcome = (next a).outcome := by
  change (r.andThen next).outcome = _
  simp only [andThen, h]

/-- A fault ends a run. -/
theorem outcome_bind_of_error {r : Run α} {f : Fault} (h : r.outcome = .error f)
    (next : α → Run β) : (r >>= next).outcome = .error f := by
  change (r.andThen next).outcome = _
  simp only [andThen, h]

/-- A run that ends with a value went through all of its parts. -/
theorem exists_of_outcome_bind {r : Run α} {next : α → Run β} {b : β}
    (h : (r >>= next).outcome = .ok b) : ∃ a, r.outcome = .ok a ∧ (next a).outcome = .ok b := by
  cases outcome : r.outcome with
  | ok a => exact ⟨a, rfl, outcome_bind_of_ok outcome next ▸ h⟩
  | error f =>
      rw [outcome_bind_of_error outcome] at h
      cases h

end Run

end HostMonitor
