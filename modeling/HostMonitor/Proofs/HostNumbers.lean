import HostMonitor.Json.Printer
import HostMonitor.Proofs.Dates
import HostMonitor.Proofs.Enrichment
import HostMonitor.Proofs.LineOutcomes

/-!
# Numbers of the host

An integer can be written when it has at most `digitLimit` digits.  What the host tells
of units and entries is read under the same limit, so every number in it can be written
again.  How many rows there are is not read: the host may print any number of lines.
-/

namespace HostMonitor

open Number

namespace Json

theorem digitCount_le_iff {n : Int} {k : Nat} (pos : 0 < k) :
    digitCount n ≤ k ↔ n.natAbs < 10 ^ k :=
  Nat.length_toDigits_le_iff (by decide) pos

/-- A number that is not further from zero has not more digits. -/
theorem digitCount_le {m n : Int} (h : m.natAbs ≤ n.natAbs) : digitCount m ≤ digitCount n := by
  have pos : 0 < digitCount n := List.length_pos_iff.mpr (Nat.toDigits_ne_nil)
  exact (digitCount_le_iff pos).mpr (Nat.lt_of_le_of_lt h ((digitCount_le_iff pos).mp le_rfl))

end Json

namespace Number

/-- An integer that is read can be written. -/
theorem digitCount_of_int? {cs : List Char} {n : Int} (h : int? cs = some n) :
    Json.digitCount n ≤ digitLimit := by
  simp only [int?, Option.bind_eq_bind, Option.bind_eq_some_iff] at h
  obtain ⟨ds, _, h⟩ := h
  split at h
  · cases h
  · next fine =>
      simp only [Bool.or_eq_true, not_or, Bool.not_eq_true', List.all_eq_true,
        decide_eq_true_eq, Bool.not_eq_false] at fine
      obtain ⟨⟨_, digits⟩, short⟩ := fine
      have less : natOfDigits ds < 10 ^ digitLimit :=
        Nat.lt_of_lt_of_le (Time.natOfDigits_lt digits)
          (Nat.pow_le_pow_right (by decide) (by omega))
      rw [Json.digitCount_le_iff (by decide)]
      cases h
      split
      · rwa [Int.natAbs_neg, Int.natAbs_natCast]
      · rwa [Int.natAbs_natCast]

end Number

namespace Service

/-- The number of a property of a unit can be written. -/
theorem digitCount_of_integer? {value : Option String} {n : Int} (h : integer? value = some n) :
    Json.digitCount n ≤ digitLimit := by
  obtain ⟨_, _, read⟩ := Option.bind_eq_some_iff.mp h
  exact digitCount_of_int? read

/-- The numbers of a unit that the host lists can be written. -/
theorem digitCount_of_mem_list {machine : Host.Machine} {allowance : Host.Allowance}
    {units : List ServiceUnit} (listed : (list machine allowance).outcome = .ok units)
    {u : ServiceUnit} (mem : u ∈ units) {n : Int}
    (told : u.mainPid = some n ∨ u.exitStatus = some n) :
    Json.digitCount n ≤ digitLimit := by
  obtain ⟨table, all, bare, inside, given⟩ := exists_of_mem_list listed mem
  have gains := detailed_ends all bare
  rw [given] at gains
  cases gains with
  | nothing _ =>
      rw [← bare_of_mem_ofTable inside] at told
      rcases told with none | none
      · cases none
      · cases none
  | details _ _ =>
      rcases told with pid | status
      · unfold ServiceUnit.told at pid
        dsimp only at pid
        split at pid
        · cases pid
        · exact digitCount_of_integer? pid
      · exact digitCount_of_integer? status

end Service

namespace Journal

/-- The numbers of an entry of the journal can be written. -/
theorem digitCount_of_mem_read {output : String} {rows : List Entry}
    (h : ofOutput output = .ok rows) {e : Entry} (mem : e ∈ rows) {n : Int}
    (told : e.priority = some n ∨ e.pid = some n) : Json.digitCount n ≤ digitLimit := by
  obtain ⟨fields, priority, pid⟩ := numbers_of_mem h mem
  rcases told with given | given
  · rw [given] at priority
    cases priority with
    | number _ _ read => exact digitCount_of_int? read
  · rw [given] at pid
    cases pid with
    | number _ _ read => exact digitCount_of_int? read

end Journal

end HostMonitor
