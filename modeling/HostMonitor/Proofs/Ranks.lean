import Mathlib.Data.List.Sort

/-!
# Ranking a list

A list is filtered and sorted, and items that are equal in the order keep their places.
What comes of that is said with the place of each item written beside it: a ranked list
has every item that passes at its place, has no place twice, and among equals its places
rise.
-/

namespace HostMonitor

variable {α : Type} {passes : α → Bool} {le : α → α → Bool} {items : List α}

/-- Sorting by the first part keeps the order of the second part among equals,
when the list begins in that order.  The sort of core is compared with the one
that also looks at the place in the list. -/
theorem pairwise_mergeSort_fst
    (trans : ∀ a b c, le a b = true → le b c = true → le a c = true)
    (total : ∀ a b, (le a b || le b a) = true) {l : List (α × Nat)}
    (increasing : l.Pairwise fun x y => x.2 < y.2) :
    (l.mergeSort fun x y => le x.1 y.1).Pairwise fun x y =>
      le x.1 y.1 = true ∧ (le y.1 x.1 = true → x.2 < y.2) := by
  let byFirst : α × Nat → α × Nat → Bool := fun x y => le x.1 y.1
  let placed := l.zipIdx.mergeSort (List.zipIdxLE byFirst)
  have sorted : placed.Pairwise fun x y => List.zipIdxLE byFirst x y = true :=
    List.pairwise_mergeSort (List.zipIdxLE_trans fun a b c => trans a.1 b.1 c.1)
      (List.zipIdxLE_total fun a b => total a.1 b.1) _
  have distinct : placed.Pairwise fun x y => x.2 ≠ y.2 := by
    have nodup : (l.zipIdx.map Prod.snd).Nodup := by
      rw [List.zipIdx_map_snd]
      exact List.nodup_range'
    exact List.pairwise_map.mp (nodup.perm ((List.mergeSort_perm ..).map _).symm)
  have rises : ∀ {x y : (α × Nat) × Nat}, x ∈ placed → y ∈ placed → x.2 < y.2 →
      x.1.2 < y.1.2 := by
    intro x y hx hy hlt
    obtain ⟨-, hx', hxe⟩ := List.mem_zipIdx (List.mem_mergeSort.mp hx)
    obtain ⟨-, hy', hye⟩ := List.mem_zipIdx (List.mem_mergeSort.mp hy)
    have := List.pairwise_iff_getElem.mp increasing x.2 y.2 (by omega) (by omega) hlt
    simpa [hxe, hye] using this
  change (l.mergeSort byFirst).Pairwise _
  rw [← List.mergeSort_zipIdx, List.pairwise_map]
  refine (sorted.and distinct).imp_of_mem ?_
  rintro x y hx hy ⟨hle, hne⟩
  have first : le x.1.1 y.1.1 = true := by
    by_contra hno
    simp [List.zipIdxLE, byFirst, hno] at hle
  refine ⟨first, fun back => rises hx hy ?_⟩
  have : x.2 ≤ y.2 := by simpa [List.zipIdxLE, byFirst, first, back] using hle
  omega

/-- The items that pass, each with its place in the list, in order. -/
def rankedBy (passes : α → Bool) (le : α → α → Bool) (items : List α) : List (α × Nat) :=
  (items.zipIdx.filter fun x => passes x.1).mergeSort fun x y => le x.1 y.1

theorem mem_rankedBy_iff {a : α} {place : Nat} :
    (a, place) ∈ rankedBy passes le items ↔ items[place]? = some a ∧ passes a = true := by
  rw [rankedBy, List.mem_mergeSort, List.mem_filter, List.mem_zipIdx_iff_getElem?]

theorem nodup_rankedBy : ((rankedBy passes le items).map Prod.snd).Nodup := by
  have nodup : (items.zipIdx.map Prod.snd).Nodup := by
    rw [List.zipIdx_map_snd]
    exact List.nodup_range'
  have filtered := nodup.sublist
    ((List.filter_sublist (p := fun x => passes x.1)).map Prod.snd)
  exact filtered.perm ((List.mergeSort_perm _ _).map _).symm

/-- Each item stands before those it may stand before, and at its place among equals. -/
theorem pairwise_rankedBy
    (trans : ∀ a b c, le a b = true → le b c = true → le a c = true)
    (total : ∀ a b, (le a b || le b a) = true) :
    (rankedBy passes le items).Pairwise fun x y =>
      le x.1 y.1 = true ∧ (le y.1 x.1 = true → x.2 < y.2) := by
  have increasing : items.zipIdx.Pairwise fun x y => x.2 < y.2 := by
    have rises := List.pairwise_lt_range' (s := 0) (n := items.length)
    rw [← List.zipIdx_map_snd, List.pairwise_map] at rises
    exact rises
  exact pairwise_mergeSort_fst trans total (increasing.sublist List.filter_sublist)

/-- Without the places it is the sorted list of the items that pass. -/
theorem map_fst_rankedBy :
    (rankedBy passes le items).map Prod.fst = (items.filter passes).mergeSort le := by
  have without : (items.zipIdx.filter fun x => passes x.1).map Prod.fst = items.filter passes := by
    rw [← items.zipIdx_map_fst 0, List.filter_map, items.zipIdx_map_fst 0]
    rfl
  rw [rankedBy, ← without, List.map_mergeSort]
  intro x _ y _
  rfl

end HostMonitor
