import HostMonitor.Text.Letters

/-!
# Texts as they arrive

A document can spell a surrogate by its code and leave it without a partner.
No string holds such a text, and no reply can carry it, yet it passes through
the program: it is redacted, looked up and compared before it is refused.
`WireText` is a text of either kind.  The two kinds are kept apart: a text is
`broken` only when one of its code points is no character, so a text is the same
as the list of its code points.
-/

namespace HostMonitor.Text

theorem toNat_ofNat_of_valid {n : Nat} (h : n.isValidChar) : (Char.ofNat n).toNat = n := by
  rw [Char.ofNat, dif_pos h]
  rfl

/-- A text that arrived in a document. -/
inductive WireText where
  | chars (text : String)
  /-- A text with a surrogate that has no partner, by its code points. -/
  | broken (points : List Nat) (lone : points.all Nat.isValidChar = false)
  deriving DecidableEq, Repr, Inhabited

namespace WireText

instance : Coe String WireText := ⟨.chars⟩

/-- The text of the given code points. -/
def ofPoints (points : List Nat) : WireText :=
  if whole : points.all Nat.isValidChar = true then
    .chars (String.ofList (points.map Char.ofNat))
  else .broken points (Bool.eq_false_iff.mpr whole)

/-- The code points of a text. -/
def points : WireText → List Nat
  | .chars s => s.toList.map Char.toNat
  | .broken ps _ => ps

/-- The text, when it is one of characters. -/
def chars? : WireText → Option String
  | .chars s => some s
  | .broken .. => none

/-- The text for a message, with the replacement character for a surrogate. -/
def shown : WireText → String
  | .chars s => s
  | .broken ps _ =>
    String.ofList (ps.map fun p => if p.isValidChar then Char.ofNat p else Char.ofNat 0xFFFD)

def isEmpty (t : WireText) : Bool := t.points.isEmpty

/-- The text in small letters.  A surrogate is none. -/
def lower : WireText → WireText
  | .chars s => .chars (Text.lower s)
  | .broken ps _ => .ofPoints (ps.flatMap fun p =>
      if p.isValidChar then (smalls (Char.ofNat p)).map Char.toNat else [p])

theorem ofPoints_chars (cs : List Char) :
    ofPoints (cs.map Char.toNat) = .chars (String.ofList cs) := by
  have valid : (cs.map Char.toNat).all Nat.isValidChar = true := by
    rw [List.all_map, List.all_eq_true]
    exact fun c _ => decide_eq_true c.valid
  rw [ofPoints, dif_pos valid, List.map_map]
  congr 2
  exact (List.map_congr_left fun c _ => Char.ofNat_toNat c).trans (List.map_id cs)

@[simp] theorem points_ofPoints (ps : List Nat) : (ofPoints ps).points = ps := by
  rw [ofPoints]
  split
  · next whole =>
      rw [points, String.toList_ofList, List.map_map]
      refine (List.map_congr_left fun p mem => ?_).trans (List.map_id ps)
      exact toNat_ofNat_of_valid (of_decide_eq_true (List.all_eq_true.mp whole p mem))
  · rfl

@[simp] theorem ofPoints_points (t : WireText) : ofPoints t.points = t := by
  cases t with
  | chars s => rw [points, ofPoints_chars, String.ofList_toList]
  | broken ps lone => rw [ofPoints, points, dif_neg (Bool.eq_false_iff.mp lone)]

end WireText

end HostMonitor.Text
