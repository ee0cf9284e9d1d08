import HostMonitor.Number.Shortest
import HostMonitor.Run.Basic
import HostMonitor.Text.Utf8
import HostMonitor.Text.Blank

/-!
# Host commands

A command is a list of words.  What becomes of it is up to the host: its words
cannot be handed over, it cannot be started, it ends with a status and two texts, or
it does not end.

A command that does not end in time is ended by force, and its end is awaited.
A command that fails gives a report for the log.  The output of one that succeeds
is read as UTF-8, with a replacement character for what is none.
-/

namespace HostMonitor.Host

open Number Text

/-- How long a command may take, in seconds. -/
inductive Allowance where
  | whole (seconds : Int)
  | real (seconds : Binary64)
  deriving DecidableEq, Repr

/-- No time is left.  A wait for a time that is no number is over at once. -/
def Allowance.isOver : Allowance → Bool
  | .whole seconds => decide (seconds ≤ 0)
  | .real seconds => !seconds.isPositive

def Allowance.text : Allowance → String
  | .whole seconds => toString seconds
  | .real seconds => String.ofList (Layout.plain.write seconds)

inductive Execution where
  /-- The words cannot be handed to the host, as one holds a character with the code
  zero.  This is no failure of the host, and no rule foresees it. -/
  | rejected (reason : String)
  | unstartable (reason : String)
  /-- It ends with a status, after writing two texts. -/
  | finished (output diagnostics : List UInt8) (status : Int)
  /-- It writes on without an end.  It may have ended itself, with a status. -/
  | endless (status : Option Int)
  deriving Repr

/-- What a host makes of commands. -/
abbrev Machine := List String → Execution

/-- The host takes any words but those with a character of code zero. -/
def Machine.TakesWords (machine : Machine) : Prop :=
  ∀ argv, (∃ reason, machine argv = .rejected reason) ↔ ∃ word ∈ argv, '\x00' ∈ word.toList

/-- The name of the program that a command runs. -/
def programOf (argv : List String) : String := argv.head?.getD ""

def failed (argv : List String) (what : String) : Fault :=
  .reported (.ofHost (programOf argv ++ what))

/-- Ends a command by force and awaits its end. -/
def endByForce : Run Unit := do
  .cause .killed
  .cause .awaited

/-- Stops waiting for a command that has been started. -/
def abandon (status : Option Int) : Run Unit := do
  if status.isNone then .cause .killed
  .cause .awaited

def textOf (output : List UInt8) : String := String.ofList (Utf8.decodeLossy output)

/-- Runs a command and gives what it wrote. -/
def run (machine : Machine) (allowance : Allowance) (argv : List String) : Run String := do
  .cause (.started argv)
  match machine argv with
  | .rejected reason => .fail (.breakdown reason)
  | .unstartable reason =>
    .fail (.reported (.ofHost ("failed to start " ++ programOf argv ++ ": " ++ reason)))
  | .endless _ => outOfTime
  | .finished output diagnostics status =>
    if allowance.isOver then outOfTime
    else if status ≠ 0 then
      .fail (failed argv
        (" exited with " ++ toString status ++ ": " ++ strip (textOf diagnostics)))
    else return textOf output
where
  outOfTime : Run String := do
    endByForce
    .fail (failed argv (" timed out after " ++ allowance.text ++ " seconds"))

/-! ## Outcomes -/

section

variable {machine : Machine} {allowance : Allowance} {argv : List String}
  {output diagnostics : List UInt8} {status : Int}

theorem outcome_run_of_rejected {reason : String} (made : machine argv = .rejected reason) :
    (run machine allowance argv).outcome = .error (.breakdown reason) := by
  rw [run, Run.outcome_bind_of_ok (Run.outcome_cause _), made]
  rfl

/-- A command that succeeds in time gives what it wrote. -/
theorem outcome_run_of_success (made : machine argv = .finished output diagnostics 0)
    (left : allowance.isOver = false) :
    (run machine allowance argv).outcome = .ok (textOf output) := by
  rw [run, Run.outcome_bind_of_ok (Run.outcome_cause _), made]
  dsimp only
  rw [left]
  rfl

theorem outcome_run_of_isOver (made : machine argv = .finished output diagnostics status)
    (spent : allowance.isOver = true) :
    (run machine allowance argv).outcome =
      .error (failed argv (" timed out after " ++ allowance.text ++ " seconds")) := by
  rw [run, Run.outcome_bind_of_ok (Run.outcome_cause _), made]
  dsimp only
  rw [spent]
  rfl

end

end HostMonitor.Host
