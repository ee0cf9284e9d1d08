import HostMonitor.Proofs.Outcomes
import HostMonitor.Rpc.Dispatch
import Mathlib.Data.List.Basic

/-!
# Gathering replies

The members of a message are handled at the same time, and their methods end in
any order.  Each member has a slot of its own.  A slot is filled when the method
of its member ends, and the reply is put together once all slots are filled.

The order does not matter.  Every slot that is filled holds what its member comes
to, so a run that fills them all holds what handling the members one after
another gives.
-/

namespace HostMonitor.Rpc

open Audit

/-! ## What a member comes to -/

/-- The call can be recorded: redaction reaches all of its parameters. -/
def Request.within (reach : Nat) (r : Request) : Bool :=
  decide ((redact r.params.document).depth ≤ reach)

/-- The member can be recorded, or it is no call. -/
def Member.within (reach : Nat) : Member → Bool
  | .refused _ => true
  | .request r => r.within reach

/-- The error that a client is told for a fault. -/
def toldError (errorId : String) (f : Fault) : ErrorReply :=
  match f.public? with
  | some report => .ofReport report
  | none => .hidden errorId

/-- What a client is told about the outcome of a method. -/
def told (errorId : String) (outcome : Except Fault Json) : Except ErrorReply Json :=
  outcome.mapError (toldError errorId)

/-- The reply that a member comes to. -/
def Methods.due (ms : Methods) (errorId : String) : Member → Option Reply
  | .refused id => some ⟨id, .error .refused⟩
  | .request r =>
    if r.isNotification then none else some ⟨r.id, told errorId (ms.call r).outcome⟩

/-- The replies that members come to, the first of which has the given place. -/
def Methods.dues (ms : Methods) (errorIds : ErrorIds) : Nat → List Member → List (Option Reply)
  | _, [] => []
  | place, m :: rest => ms.due (errorIds place) m :: ms.dues errorIds (place + 1) rest

section

variable (ms : Methods) (errorIds : ErrorIds)

/-- A failure is told, whatever it is. -/
theorem outcome_errorFor (r : Request) (errorId : String) (f : Fault) :
    (errorFor r errorId f).outcome = .ok (toldError errorId f) := by
  rw [errorFor, toldError]
  cases f.public? with
  | some report => rfl
  | none => rfl

/-- A request is settled with a reply, whatever its method does. -/
theorem outcome_settle (errorId : String) (r : Request) :
    (ms.settle errorId r).outcome = .ok ⟨r.id, told errorId (ms.call r).outcome⟩ := by
  rw [Methods.settle, Run.outcome_bind_of_ok (Run.outcome_attempt _)]
  cases (ms.call r).outcome with
  | ok value => rfl
  | error f =>
      dsimp only
      rw [Run.outcome_bind_of_ok (outcome_errorFor r errorId f)]
      rfl

theorem outcome_record (reach : Nat) (r : Request) (reply : Reply) :
    (record reach r reply).outcome =
      if r.within reach = true then .ok () else .error .stackExhausted := by
  rw [record, redactWithin, Request.within]
  by_cases within : (redact r.params.document).depth ≤ reach
  · rw [if_pos within, if_pos (decide_eq_true within)]
    rfl
  · rw [if_neg within, if_neg (by simpa using within)]
    rfl

/-- A member comes to its reply, unless its parameters cannot be redacted. -/
theorem outcome_replyWithin (reach : Nat) (errorId : String) (m : Member) :
    (ms.replyWithin reach errorId m).outcome =
      if m.within reach = true then .ok (ms.due errorId m) else .error .stackExhausted := by
  cases m with
  | refused id => rfl
  | request r =>
      have recorded := outcome_record reach r ⟨r.id, told errorId (ms.call r).outcome⟩
      rw [Methods.replyWithin, Run.outcome_bind_of_ok (outcome_settle ms errorId r), Member.within]
      by_cases within : r.within reach = true
      · rw [if_pos within] at recorded ⊢
        rw [Run.outcome_bind_of_ok recorded, Methods.due]
        split
        · rfl
        · rfl
      · rw [if_neg within] at recorded ⊢
        exact Run.outcome_bind_of_error recorded _

theorem length_dues :
    ∀ (members : List Member) (place : Nat), (ms.dues errorIds place members).length = members.length
  | [], _ => rfl
  | _ :: rest, place => congrArg (· + 1) (length_dues rest (place + 1))

theorem getElem?_dues :
    ∀ (members : List Member) (place i : Nat),
      (ms.dues errorIds place members)[i]? =
        members[i]?.map (ms.due (errorIds (place + i)))
  | [], _, _ => rfl
  | m :: rest, place, 0 => rfl
  | m :: rest, place, i + 1 => by
      rw [Methods.dues, List.getElem?_cons_succ, getElem?_dues rest, List.getElem?_cons_succ,
        Nat.add_assoc, Nat.add_comm 1 i]

/-- Members at work come to their replies, unless the parameters of one of them cannot be
redacted. -/
theorem mapM_outcome_runs (reach : Nat) :
    ∀ (members : List Member) (place : Nat),
      ((members.zipIdx place).map fun m => ms.replyWithin reach (errorIds m.2) m.1).mapM
          Run.outcome =
        if members.all (Member.within reach) = true then .ok (ms.dues errorIds place members)
        else .error .stackExhausted
  | [], _ => rfl
  | m :: rest, place => by
      rw [List.zipIdx_cons, List.map_cons, List.mapM_cons, outcome_replyWithin,
        mapM_outcome_runs reach rest (place + 1), List.all_cons]
      cases m.within reach with
      | false => rfl
      | true =>
          cases rest.all (Member.within reach) with
          | false => rfl
          | true => rfl

theorem outcome_gather_runsWithin (reach : Nat) (members : List Member) :
    (Run.gather (ms.runsWithin reach errorIds members)).outcome =
      if members.all (Member.within reach) = true then .ok (ms.dues errorIds 0 members)
      else .error .stackExhausted := mapM_outcome_runs ms errorIds reach members 0

/-! ## Slots -/

/-- What each member has come to, or nothing while its method is at work. -/
abbrev Slots := List (Option (Except Fault (Option Reply)))

/-- The slots before any method has ended. -/
def idle (members : List Member) : Slots := members.map fun _ => none

/-- The method of one member ends, and its slot is filled. -/
inductive Completes (reach : Nat) (members : List Member) : Slots → Slots → Prop where
  | member {slots : Slots} {place : Nat} {m : Member} :
      members[place]? = some m → slots[place]? = some none →
      Completes reach members slots
        (slots.set place (some (ms.replyWithin reach (errorIds place) m).outcome))

/-- Methods end, one after another, in some order. -/
inductive Gathers (reach : Nat) (members : List Member) : Slots → Slots → Prop where
  | refl {slots : Slots} : Gathers reach members slots slots
  | tail {first last next : Slots} :
      Gathers reach members first last → Completes ms errorIds reach members last next →
      Gathers reach members first next

/-- What all members have come to, once every slot is filled. -/
def gathered (slots : Slots) : Option (Except Fault (List (Option Reply))) :=
  (slots.mapM id).map fun outcomes => outcomes.mapM id

/-- Each slot that is filled holds what its member comes to. -/
structure Honest (reach : Nat) (members : List Member) (slots : Slots) : Prop where
  length : slots.length = members.length
  filled : ∀ (i : Nat) (o : Except Fault (Option Reply)), slots[i]? = some (some o) →
    ∃ m, members[i]? = some m ∧ o = (ms.replyWithin reach (errorIds i) m).outcome

end

section

variable {ms : Methods} {errorIds : ErrorIds} {reach : Nat} {members : List Member}

theorem honest_idle : Honest ms errorIds reach members (idle members) where
  length := List.length_map _
  filled := by
    intro i o h
    rw [idle, List.getElem?_map] at h
    cases e : members[i]? with
    | none =>
        rw [e] at h
        cases h
    | some m =>
        rw [e] at h
        cases h

theorem Honest.completes {slots next : Slots} (h : Honest ms errorIds reach members slots)
    (step : Completes ms errorIds reach members slots next) :
    Honest ms errorIds reach members next := by
  cases step with
  | @member place m hm _ =>
      refine ⟨by rw [List.length_set, h.length], ?_⟩
      intro i o hi
      by_cases here : place = i
      · subst here
        rw [List.getElem?_set_self'] at hi
        obtain ⟨_, _, e⟩ := Option.map_eq_some_iff.mp hi
        cases e
        exact ⟨m, hm, rfl⟩
      · rw [List.getElem?_set_ne here] at hi
        exact h.filled i o hi

theorem Honest.gathers {first last : Slots} (h : Honest ms errorIds reach members first)
    (run : Gathers ms errorIds reach members first last) :
    Honest ms errorIds reach members last := by
  induction run with
  | refl => exact h
  | tail _ step ih => exact ih.completes step

/-- Once every slot is filled, all members have come to what they come to. -/
theorem gathered_eq {slots : Slots} {out : Except Fault (List (Option Reply))}
    (run : Gathers ms errorIds reach members (idle members) slots)
    (h : gathered slots = some out) :
    out = (Run.gather (ms.runsWithin reach errorIds members)).outcome := by
  obtain ⟨length, filled⟩ := honest_idle.gathers run
  obtain ⟨outcomes, all, rfl⟩ := Option.map_eq_some_iff.mp h
  rw [mapM_id_eq_some] at all
  subst all
  have each : outcomes = (ms.runsWithin reach errorIds members).map Run.outcome := by
    apply List.ext_getElem?
    intro i
    rw [Methods.runsWithin, List.getElem?_map, List.getElem?_map, List.getElem?_zipIdx,
      Nat.zero_add]
    cases e : outcomes[i]? with
    | none =>
        rw [List.length_map] at length
        rw [List.getElem?_eq_none_iff, length, ← List.getElem?_eq_none_iff] at e
        rw [e]
        rfl
    | some o =>
        obtain ⟨m, hm, rfl⟩ := filled i o (by rw [List.getElem?_map, e]; rfl)
        rw [hm]
        rfl
  rw [each, List.mapM_map]
  rfl

/-- The methods can end in the order of their members. -/
theorem exists_gathers (ms : Methods) (errorIds : ErrorIds) (reach : Nat)
    (members : List Member) :
    ∀ k ≤ members.length, ∃ slots, Gathers ms errorIds reach members (idle members) slots ∧
      slots.length = members.length ∧
      (∀ i < k, ∃ o, slots[i]? = some (some o)) ∧
      ∀ i, k ≤ i → i < members.length → slots[i]? = some none
  | 0, _ => by
      refine ⟨_, .refl, List.length_map _, fun i h => absurd h (Nat.not_lt_zero i), ?_⟩
      intro i _ h
      rw [idle, List.getElem?_map, List.getElem?_eq_getElem h]
      rfl
  | k + 1, h => by
      obtain ⟨slots, run, length, filled, empty⟩ :=
        exists_gathers ms errorIds reach members k (Nat.le_of_succ_le h)
      have step : Completes ms errorIds reach members slots _ :=
        .member (List.getElem?_eq_getElem h) (empty k (Nat.le_refl k) h)
      refine ⟨_, .tail run step, by rw [List.length_set, length], ?_, ?_⟩
      · intro i hi
        by_cases here : k = i
        · subst here
          exact ⟨_, List.getElem?_set_self (by omega)⟩
        · rw [List.getElem?_set_ne here]
          exact filled i (by omega)
      · intro i hi hi'
        rw [List.getElem?_set_ne (by omega)]
        exact empty i (by omega) hi'

end

/-! ## Whole messages -/

/-- The bytes of a message are answered, with its members handled at the same
time. -/
inductive Dispatches (ms : Methods) (reach : Nat) (errorIds : ErrorIds) (body : List UInt8) :
    Except Fault Answer → Prop where
  | intro {slots : Slots} {out : Except Fault (List (Option Reply))} :
      Gathers ms errorIds reach (Message.ofBytes body).members
        (idle (Message.ofBytes body).members) slots →
      gathered slots = some out →
      Dispatches ms reach errorIds body (out.map (Message.ofBytes body).assemble)

theorem outcome_dispatchWithin_eq (ms : Methods) (reach : Nat) (errorIds : ErrorIds)
    (body : List UInt8) :
    (ms.dispatchWithin reach errorIds body).outcome =
      (Run.gather (ms.runsWithin reach errorIds (Message.ofBytes body).members)).outcome.map
        (Message.ofBytes body).assemble := by
  rw [Methods.dispatchWithin]
  cases e : (Run.gather (ms.runsWithin reach errorIds (Message.ofBytes body).members)).outcome with
  | ok dues => rw [Run.outcome_bind_of_ok e]; rfl
  | error f => rw [Run.outcome_bind_of_error e]; rfl

/-- A message comes to its answer, unless the parameters of a member cannot be redacted. -/
theorem outcome_dispatchWithin (ms : Methods) (reach : Nat) (errorIds : ErrorIds)
    (body : List UInt8) :
    (ms.dispatchWithin reach errorIds body).outcome =
      if (Message.ofBytes body).members.all (Member.within reach) = true then
        .ok ((Message.ofBytes body).assemble
          (ms.dues errorIds 0 (Message.ofBytes body).members))
      else .error .stackExhausted := by
  rw [outcome_dispatchWithin_eq, outcome_gather_runsWithin]
  split
  · rfl
  · rfl

/-- In whatever order the methods end, the answer is that of handling the
members one after another. -/
theorem dispatches_iff {ms : Methods} {reach : Nat} {errorIds : ErrorIds} {body : List UInt8}
    {outcome : Except Fault Answer} :
    Dispatches ms reach errorIds body outcome ↔
      outcome = (ms.dispatchWithin reach errorIds body).outcome := by
  rw [outcome_dispatchWithin_eq]
  constructor
  · rintro ⟨run, h⟩
    rw [gathered_eq run h]
  · rintro rfl
    obtain ⟨slots, run, length, filled, _⟩ :=
      exists_gathers ms errorIds reach (Message.ofBytes body).members _ (Nat.le_refl _)
    have all : ∃ outcomes, slots.mapM id = some outcomes := by
      refine ⟨slots.map (·.getD (.error .stackExhausted)), mapM_id_eq_some.mpr ?_⟩
      apply List.ext_getElem?
      intro i
      rw [List.map_map, List.getElem?_map]
      by_cases inside : i < slots.length
      · obtain ⟨o, ho⟩ := filled i (by omega)
        rw [ho]
        rfl
      · rw [List.getElem?_eq_none (by omega)]
        rfl
    obtain ⟨outcomes, all⟩ := all
    have h : gathered slots = some (outcomes.mapM id) := by rw [gathered, all]; rfl
    have dispatches := Dispatches.intro run h
    rwa [gathered_eq run h] at dispatches

end HostMonitor.Rpc
