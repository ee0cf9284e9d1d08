/-!
# Values by their keys

The fields of an object, the methods of a server, the tables of a registry and the
properties of a unit are lists of values with a key each, in the order in which the
keys were first set.  A key that is set again keeps its place.
-/

namespace HostMonitor

/-- Values with a key each. -/
abbrev Keyed (κ α : Type) := List (κ × α)

namespace Keyed

variable {κ α β : Type}

def keys (t : Keyed κ α) : List κ := t.map Prod.fst

/-- What is made of the values. -/
def mapValues (f : α → β) (t : Keyed κ α) : Keyed κ β := t.map fun p => (p.1, f p.2)

theorem mapValues_cons (f : α → β) (p : κ × α) (t : Keyed κ α) :
    mapValues f (p :: t) = (p.1, f p.2) :: mapValues f t := rfl

theorem mapValues_id (t : Keyed κ α) : t.mapValues id = t := List.map_id t

theorem keys_mapValues (f : α → β) (t : Keyed κ α) : (t.mapValues f).keys = t.keys := by
  rw [keys, mapValues, List.map_map]
  rfl

theorem keys_cons (p : κ × α) (t : Keyed κ α) : keys (p :: t) = p.1 :: keys t := rfl

variable [DecidableEq κ] {t : Keyed κ α} {k : κ} {v : α}

/-- Sets the value of a key: in place if there is one, else at the end. -/
def put (key : κ) (value : α) : Keyed κ α → Keyed κ α
  | [] => [(key, value)]
  | (k, v) :: rest => if k = key then (k, value) :: rest else (k, v) :: put key value rest

/-- A key that is not there yet is put at the end. -/
theorem put_of_not_mem (new : k ∉ keys t) : put k v t = t ++ [(k, v)] := by
  induction t with
  | nil => rfl
  | cons p t ih =>
      rw [keys_cons, List.mem_cons, not_or] at new
      rw [put, if_neg (Ne.symm new.1), ih new.2, List.cons_append]

theorem keys_put : keys (put k v t) = if k ∈ keys t then keys t else keys t ++ [k] := by
  induction t with
  | nil => rfl
  | cons p t ih =>
      obtain ⟨l, w⟩ := p
      by_cases here : l = k
      · simp [put, keys_cons, here]
      · by_cases later : k ∈ keys t
        · simp [put, here, keys_cons, ih, later]
        · simp [put, here, Ne.symm here, keys_cons, ih, later]

/-- What is put among keys that stand once each is there, and the rest but for what had
its key. -/
theorem mem_put_iff (once : (keys t).Nodup) {p : κ × α} :
    p ∈ put k v t ↔ p = (k, v) ∨ p ∈ t ∧ p.1 ≠ k := by
  induction t with
  | nil => simp [put]
  | cons q t ih =>
      obtain ⟨l, w⟩ := q
      obtain ⟨alone, rest⟩ := List.nodup_cons.mp (show (l :: keys t).Nodup from once)
      by_cases here : l = k
      · have other : ∀ q ∈ t, q.1 ≠ k := by
          rintro q mem rfl
          exact alone (here ▸ List.mem_map_of_mem mem)
        rw [put, if_pos here, List.mem_cons, List.mem_cons, here]
        constructor
        · rintro (rfl | mem)
          · exact .inl rfl
          · exact .inr ⟨.inr mem, other p mem⟩
        · rintro (rfl | ⟨rfl | mem, differs⟩)
          · exact .inl rfl
          · exact absurd rfl differs
          · exact .inr mem
      · rw [put, if_neg here, List.mem_cons, List.mem_cons, ih rest]
        constructor
        · rintro (rfl | rfl | ⟨mem, differs⟩)
          · exact .inr ⟨.inl rfl, here⟩
          · exact .inl rfl
          · exact .inr ⟨.inr mem, differs⟩
        · rintro (rfl | ⟨rfl | mem, differs⟩)
          · exact .inr (.inl rfl)
          · exact .inl rfl
          · exact .inr (.inr ⟨mem, differs⟩)

theorem lookup_cons (key l : κ) (w : α) :
    ((l, w) :: t).lookup key = if l = key then some w else t.lookup key := by
  rw [List.lookup_cons]
  by_cases here : l = key
  · simp [here]
  · rw [beq_eq_false_iff_ne.mpr (Ne.symm here), if_neg here]

/-- The key that was set has the value, and all others have what they had. -/
theorem lookup_put (key : κ) :
    (put k v t).lookup key = if k = key then some v else t.lookup key := by
  induction t with
  | nil => rw [put, lookup_cons]
  | cons p t ih =>
      obtain ⟨l, w⟩ := p
      rw [put, lookup_cons]
      by_cases here : l = k
      · rw [if_pos here, lookup_cons, here]
        by_cases same : k = key
        · rw [if_pos same, if_pos same]
        · rw [if_neg same, if_neg same, if_neg same]
      · rw [if_neg here, lookup_cons, ih]
        by_cases same : k = key
        · rw [if_pos same, if_pos same, if_neg (same ▸ here)]
        · rw [if_neg same, if_neg same]

theorem put_mapValues (f : α → β) : put k (f v) (mapValues f t) = mapValues f (put k v t) := by
  induction t with
  | nil => rfl
  | cons p t ih =>
      simp only [mapValues, List.map_cons, put] at ih ⊢
      split
      · rfl
      · rw [ih, List.map_cons]

end Keyed

end HostMonitor
