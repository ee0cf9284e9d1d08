import HostMonitor.Run.Basic
import Mathlib.Data.List.Forall2
import Mathlib.Data.Option.Basic

/-!
# What is known of outcomes

`Ends` says what is known of a value if there is one and of a failure if there is
one.  It goes through steps that follow each other, and through lists of steps.

A list of steps that can fail gives the list of their values, when none of them
fails.  The two lists go in step, so what is known of each step is known of the
list.
-/

namespace HostMonitor

/-! ## One step after another -/

/-- A value has one property, and a failure the other. -/
def Ends {ε α : Type} (P : α → Prop) (Q : ε → Prop) : Except ε α → Prop
  | .ok a => P a
  | .error e => Q e

section

variable {ε α β : Type} {P : α → Prop} {P' : β → Prop} {Q : ε → Prop}

theorem Ends.imp {R : α → Prop} {Q' : ε → Prop} {o : Except ε α} (h : Ends P Q o)
    (values : ∀ a, P a → R a) (failures : ∀ e, Q e → Q' e) : Ends R Q' o := by
  cases o with
  | ok a => exact values a h
  | error e => exact failures e h

theorem Ends.bind {first : Except ε α} {second : α → Except ε β} (h : Ends P Q first)
    (next : ∀ a, P a → Ends P' Q (second a)) : Ends P' Q (first >>= second) := by
  cases first with
  | ok a => exact next a h
  | error e => exact h

theorem Ends.map {o : Except ε α} (h : Ends P Q o) {f : α → β} (values : ∀ a, P a → P' (f a)) :
    Ends P' Q (o.map f) := by
  cases o with
  | ok a => exact values a h
  | error e => exact h

theorem Ends.mapError {ε' : Type} {Q' : ε' → Prop} {o : Except ε α} (h : Ends P Q o)
    {f : ε → ε'} (failures : ∀ e, Q e → Q' (f e)) : Ends P Q' (o.mapError f) := by
  cases o with
  | ok a => exact h
  | error e => exact failures e h

/-- A list of steps fails as one of its steps does. -/
theorem Ends.mapM {f : α → Except ε β} :
    ∀ {as : List α}, (∀ a ∈ as, Ends P' Q (f a)) → Ends (fun bs => ∀ b ∈ bs, P' b) Q (as.mapM f)
  | [], _ => fun _ h => nomatch h
  | a :: as, h => by
      rw [List.mapM_cons]
      refine (h a List.mem_cons_self).bind fun b hb => ?_
      refine (Ends.mapM fun c hc => h c (List.mem_cons_of_mem _ hc)).bind fun bs hbs => ?_
      intro c hc
      rcases List.mem_cons.mp hc with rfl | hc
      · exact hb
      · exact hbs c hc

end

/-- Two steps that can fail do so when the first does, or the second after it. -/
theorem bind_eq_error {ε α β : Type} {first : Except ε α} {second : α → Except ε β} {e : ε} :
    first >>= second = .error e ↔
      first = .error e ∨ ∃ a, first = .ok a ∧ second a = .error e := by
  cases first with
  | ok a => simp [bind, Except.bind]
  | error e => simp [bind, Except.bind]

/-- A step that gives a value under a condition. -/
theorem guarded_eq_ok {ε α : Type} {c : Prop} [Decidable c] {a b : α} {e : ε} :
    (if c then .ok a else .error e) = Except.ok b ↔ c ∧ b = a := by
  by_cases c <;> simp [*, eq_comm]

theorem guarded_eq_error {ε α : Type} {c : Prop} [Decidable c] {a : α} {e f : ε} :
    (if c then .ok a else .error e) = Except.error f ↔ ¬ c ∧ f = e := by
  by_cases c <;> simp [*, eq_comm]

/-- What is known of two runs is known of one after the other. -/
theorem Ends.andThen {α β : Type} {P : α → Prop} {P' : β → Prop} {Q : Fault → Prop}
    {r : Run α} {next : α → Run β} (h : Ends P Q r.outcome)
    (rest : ∀ a, P a → Ends P' Q (next a).outcome) : Ends P' Q (r >>= next).outcome := by
  cases e : r.outcome with
  | ok a =>
      rw [e] at h
      rw [Run.outcome_bind_of_ok e]
      exact rest a h
  | error f =>
      rw [e] at h
      rw [Run.outcome_bind_of_error e]
      exact h

/-! ## Lists of steps -/

/-- The values of a list of steps are those of the steps, one by one. -/
theorem mapM_eq_ok_iff {α β ε : Type} {f : α → Except ε β} :
    ∀ {as : List α} {bs : List β},
      as.mapM f = .ok bs ↔ List.Forall₂ (fun a b => f a = .ok b) as bs
  | [], bs => by
      constructor
      · intro h
        cases h
        exact .nil
      · intro h
        cases h
        rfl
  | a :: as, bs => by
      rw [List.mapM_cons, bind_eq_ok]
      constructor
      · rintro ⟨b, hb, h⟩
        obtain ⟨bs', hbs, h⟩ := bind_eq_ok.mp h
        cases h
        exact .cons hb (mapM_eq_ok_iff.mp hbs)
      · intro h
        cases h with
        | cons hb hbs => exact ⟨_, hb, bind_eq_ok.mpr ⟨_, mapM_eq_ok_iff.mpr hbs, rfl⟩⟩

/-- When a list of steps has values, each step has one. -/
theorem exists_of_mapM_eq_ok {α β ε : Type} {f : α → Except ε β} {as : List α} {bs : List β}
    (h : as.mapM f = .ok bs) {a : α} (mem : a ∈ as) : ∃ b, f a = .ok b := by
  have hf := mapM_eq_ok_iff.mp h
  clear h
  induction hf with
  | nil => cases mem
  | cons hb _ ih =>
      rcases List.mem_cons.mp mem with rfl | mem
      · exact ⟨_, hb⟩
      · exact ih mem

/-- A list of steps fails with the failure of its first step that fails. -/
theorem mapM_eq_error_iff {α β ε : Type} {f : α → Except ε β} {e : ε} :
    ∀ {as : List α}, as.mapM f = .error e ↔
      ∃ before a after, as = before ++ a :: after ∧ (∀ b ∈ before, ∃ c, f b = .ok c) ∧
        f a = .error e
  | [] => by simp [pure, Except.pure]
  | a :: as => by
      rw [List.mapM_cons, bind_eq_error]
      constructor
      · rintro (failed | ⟨b, first, h⟩)
        · exact ⟨[], a, as, rfl, nofun, failed⟩
        · obtain rest | ⟨_, _, h⟩ := bind_eq_error.mp h
          · obtain ⟨before, c, after, rfl, fine, failed⟩ := mapM_eq_error_iff.mp rest
            refine ⟨a :: before, c, after, rfl, ?_, failed⟩
            exact List.forall_mem_cons.mpr ⟨⟨b, first⟩, fine⟩
          · cases h
      · rintro ⟨before, c, after, split, fine, failed⟩
        cases before with
        | nil =>
            cases split
            exact .inl failed
        | cons b before =>
            cases split
            obtain ⟨⟨d, first⟩, fine⟩ := List.forall_mem_cons.mp fine
            exact .inr ⟨d, first, bind_eq_error.mpr
              (.inl (mapM_eq_error_iff.mpr ⟨before, c, after, rfl, fine, failed⟩))⟩

/-- A list of steps only fails where a step does. -/
theorem exists_of_mapM_eq_error {α β ε : Type} {f : α → Except ε β} {e : ε} {as : List α}
    (h : as.mapM f = .error e) : ∃ a ∈ as, f a = .error e := by
  obtain ⟨before, a, after, rfl, -, failed⟩ := mapM_eq_error_iff.mp h
  exact ⟨a, by simp, failed⟩

/-- The values of a list of steps are the values of its steps. -/
theorem mem_iff_of_mapM_eq_ok {α β ε : Type} {f : α → Except ε β} {as : List α} {bs : List β}
    (h : as.mapM f = .ok bs) (b : β) : b ∈ bs ↔ ∃ a ∈ as, f a = .ok b := by
  have hf := mapM_eq_ok_iff.mp h
  clear h
  induction hf with
  | nil => simp
  | @cons a c as bs hc _ ih =>
      have tail : b ∈ bs ↔ ∃ a ∈ as, f a = .ok b := ih
      rw [List.mem_cons, tail]
      simp [hc, eq_comm]

/-- A list of searches finds the list of what each of them finds. -/
theorem mapM_eq_some_iff {α β : Type} {f : α → Option β} :
    ∀ {as : List α} {bs : List β},
      as.mapM f = some bs ↔ List.Forall₂ (fun a b => f a = some b) as bs
  | [], bs => by cases bs <;> simp
  | a :: as, bs => by
      rw [List.mapM_cons, Option.bind_eq_bind, Option.bind_eq_some_iff]
      constructor
      · rintro ⟨b, found, rest⟩
        obtain ⟨bs', others, e⟩ := Option.bind_eq_some_iff.mp rest
        cases e
        exact .cons found (mapM_eq_some_iff.mp others)
      · intro h
        cases h with
        | cons found others =>
            exact ⟨_, found, Option.bind_eq_some_iff.mpr ⟨_, mapM_eq_some_iff.mpr others, rfl⟩⟩

/-- A list of searches finds nothing when one of them does not. -/
theorem mapM_eq_none_iff {α β : Type} {f : α → Option β} :
    ∀ {as : List α}, as.mapM f = none ↔ ∃ a ∈ as, f a = none
  | [] => by simp
  | a :: as => by
      rw [List.mapM_cons]
      cases found : f a with
      | none => simp [found]
      | some b =>
          cases others : as.mapM f with
          | none => simpa [found] using mapM_eq_none_iff.mp others
          | some bs =>
              have all : ∀ c ∈ as, f c ≠ none := fun c mem none => by
                cases others.symm.trans (mapM_eq_none_iff.mpr ⟨c, mem, none⟩)
              simpa [found] using all

/-- A list of values that may be missing gives the values when none is missing. -/
theorem mapM_id_eq_some {α : Type} {us : List (Option α)} {as : List α} :
    us.mapM id = some as ↔ us = as.map some := by
  rw [mapM_eq_some_iff, ← List.forall₂_eq_eq_eq, List.forall₂_map_right_iff]
  rfl

end HostMonitor
