import HostMonitor.Proofs.Outcomes

/-!
# The first objection

A step reads some input and decides about items, each of which may object to the input.
The items have an order, and `First` says that a failure is the one of the first item that
objects.

`Settles` says of a step that its value comes with the knowledge that no item of a list
objects, and that its failure is the first objection.  One step after another settles the
items of both, so each step is looked at by itself.
-/

namespace HostMonitor

/-- The failure of the first item of a list that objects. -/
inductive First {ι : Type} (objects : ι → Fault → Prop) : List ι → Fault → Prop
  | here {i : ι} {is : List ι} {f : Fault} : objects i f → First objects (i :: is) f
  | later {i : ι} {is : List ι} {f : Fault} : (∀ g, ¬ objects i g) → First objects is f →
      First objects (i :: is) f

section

variable {ι α β : Type} {objects : ι → Fault → Prop} {is js : List ι} {f g : Fault}

theorem First.append (first : First objects is f) (js : List ι) : First objects (is ++ js) f := by
  induction first with
  | here objection => exact .here objection
  | later silent _ ih => exact .later silent ih

theorem First.append_silent (silent : ∀ i ∈ is, ∀ g, ¬ objects i g) (first : First objects js f) :
    First objects (is ++ js) f := by
  induction is with
  | nil => exact first
  | cons i is ih =>
      exact .later (silent i List.mem_cons_self)
        (ih fun j mem => silent j (List.mem_cons_of_mem _ mem))

theorem First.exists_mem (first : First objects is f) : ∃ i ∈ is, objects i f := by
  induction first with
  | here objection => exact ⟨_, List.mem_cons_self, objection⟩
  | later _ _ ih =>
      obtain ⟨i, mem, objection⟩ := ih
      exact ⟨i, List.mem_cons_of_mem _ mem, objection⟩

/-- There is one first objection at most, where an item has one at most. -/
theorem First.unique (single : ∀ i f g, objects i f → objects i g → f = g)
    (first : First objects is f) (first' : First objects is g) : f = g := by
  induction first with
  | here objection =>
      cases first' with
      | here objection' => exact single _ _ _ objection objection'
      | later silent _ => exact absurd objection (silent _)
  | later silent _ ih =>
      cases first' with
      | here objection' => exact absurd objection' (silent _)
      | later _ rest => exact ih rest

/-- A step gives what is known of its value when no item of the list objects, and fails with
the first objection otherwise. -/
def Settles (objects : ι → Fault → Prop) (is : List ι) (P : α → Prop) (step : Except Fault α) :
    Prop :=
  Ends (fun a => P a ∧ ∀ i ∈ is, ∀ g, ¬ objects i g) (First objects is) step

variable {P : α → Prop} {Q : β → Prop} {step : Except Fault α} {next : α → Except Fault β}

theorem Settles.bind (h : Settles objects is P step)
    (rest : ∀ a, P a → Settles objects js Q (next a)) :
    Settles objects (is ++ js) Q (step >>= next) := by
  cases step with
  | error f => exact First.append h js
  | ok a =>
      obtain ⟨value, silent⟩ := h
      -- a failure of the second step is the first objection only because the first step is silent
      refine (rest a value).imp (fun b after => ⟨after.1, fun i mem => ?_⟩)
        fun f first => first.append_silent silent
      exact (List.mem_append.mp mem).elim (silent i) (after.2 i)

/-- A run that starts with a step goes on when nothing objects, and fails with the first
objection otherwise. -/
theorem Settles.run (h : Settles objects is P step) (all : ∀ i, i ∈ is)
    (single : ∀ i f g, objects i f → objects i g → f = g) (next : α → Run β) :
    ((∀ i f, ¬ objects i f) → ∃ a, P a ∧ Run.ofExcept step >>= next = next a) ∧
      (∀ f, First objects is f → Run.ofExcept step >>= next = .fail f) ∧
      ((∃ i f, objects i f) → ∃ f, First objects is f) := by
  cases step with
  | ok a =>
      obtain ⟨value, silent⟩ := h
      have done : Run.ofExcept (.ok a) >>= next = next a := Run.bind_of_ok rfl next
      refine ⟨fun _ => ⟨a, value, done⟩, fun f first => ?_, ?_⟩
      · obtain ⟨i, mem, objection⟩ := first.exists_mem
        exact absurd objection (silent i mem f)
      · rintro ⟨i, f, objection⟩
        exact absurd objection (silent i (all i) f)
  | error g =>
      obtain ⟨i, -, objection⟩ := First.exists_mem h
      refine ⟨fun silent => absurd objection (silent i g), fun f first => ?_, fun _ => ⟨g, h⟩⟩
      rw [first.unique single h]
      exact Run.bind_of_error rfl next

end

end HostMonitor
