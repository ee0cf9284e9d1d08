import HostMonitor.Journal.Record
import HostMonitor.Proofs.LineOutcomes
import HostMonitor.Service.Lister

/-!
# Faults of the host are hidden

Whatever the host does, a failure to ask it is kept from clients.  A command that
fails gives a report about the host, and an output that cannot be read breaks
down.
-/

namespace HostMonitor

/-- The fault is kept from clients. -/
def Fault.Hidden (f : Fault) : Prop := f.public? = none

/-- Nothing is known of the value. -/
abbrev Whatever {α : Type} (_ : α) : Prop := True

/-! ## Commands -/

/-- A command that fails gives a report about the host, or a breakdown. -/
theorem Host.ends_run (machine : Host.Machine) (allowance : Host.Allowance) (argv : List String) :
    Ends Whatever Fault.Hidden (Host.run machine allowance argv).outcome := by
  have late : Ends Whatever Fault.Hidden (Host.run.outOfTime allowance argv).outcome := rfl
  rw [Host.run, Run.outcome_bind_of_ok (Run.outcome_cause _)]
  split
  · exact rfl
  · exact rfl
  · exact late
  · split
    · exact late
    · split
      · exact rfl
      · trivial

/-! ## The journal -/

/-- An output is read, or a line of it breaks down. -/
theorem Journal.ends_ofOutput (output : String) :
    Ends Whatever Fault.Hidden (Journal.ofOutput output) := by
  cases read : Journal.ofOutput output with
  | ok entries => trivial
  | error f =>
      rw [Journal.ofOutput_eq] at read
      obtain ⟨rfl, _⟩ := Journal.entriesOf_eq_error_iff.mp read
      exact rfl

theorem Journal.ends_read (machine : Host.Machine) (allowance : Host.Allowance) (most : Int)
    (w : Journal.Window) (threshold : Option Int) (unit : Option String) :
    Ends Whatever Fault.Hidden (Journal.read machine allowance most w threshold unit).outcome := by
  rw [Journal.read]
  refine (Host.ends_run _ _ _).andThen fun output _ => ?_
  rw [Run.outcome_ofExcept]
  exact Journal.ends_ofOutput output

/-! ## Units -/

theorem Service.ends_enriched (units : List Service.ServiceUnit) (all : List Service.Properties) :
    Ends Whatever Fault.Hidden (Service.enriched units all) := by
  have timestamp : ∀ value, Ends Whatever Fault.Hidden (Service.timestampOf value) := by
    intro value
    rw [Service.timestampOf]
    split
    · trivial
    · exact rfl
    · split
      · trivial
      · split
        · trivial
        · exact rfl
  rw [Service.enriched]
  refine Ends.imp (P := fun us => ∀ u ∈ us, Whatever u) (Ends.mapM fun u _ => ?_)
    (fun _ _ => trivial) fun _ h => h
  split
  · exact (timestamp _).bind fun _ _ => trivial
  · trivial

/-- A failure to ask for details does not count, any other is hidden. -/
theorem Service.ends_list (machine : Host.Machine) (allowance : Host.Allowance) :
    Ends Whatever Fault.Hidden (Service.list machine allowance).outcome := by
  rw [Service.list]
  refine (Host.ends_run _ _ _).andThen fun table _ => ?_
  dsimp only
  split
  · trivial
  rw [Run.outcome_bind_of_ok (Run.outcome_attempt _)]
  split
  · exact Service.ends_enriched _ _
  · trivial
  · exact rfl

end HostMonitor
