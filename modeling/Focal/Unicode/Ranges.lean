/-!
# Character properties as ranges

A property of characters is a list of inclusive ranges of code points in ascending order.  The
membership test stops at the first range that starts beyond the code point it looks for, and
`contains_eq_true_iff` says that for an ascending list this is membership in one of the ranges.
-/

namespace Focal.Unicode

/-- Inclusive ranges of code points. -/
abbrev Ranges := List (Nat × Nat)

namespace Ranges

/-- Whether `point` lies in one of the ranges, which stand in ascending order. -/
def contains : Ranges → Nat → Bool
  | [], _ => false
  | (low, high) :: rest, point =>
      if point < low then false
      else if point ≤ high then true
      else contains rest point

/-- Every range starts at or above `floor`, and each ends before the next one starts. -/
def Ascending : Nat → Ranges → Prop
  | _, [] => True
  | floor, (low, high) :: rest => floor ≤ low ∧ low ≤ high ∧ Ascending (high + 1) rest

instance decidableAscending : (floor : Nat) → (ranges : Ranges) →
    Decidable (Ascending floor ranges)
  | _, [] => isTrue trivial
  | floor, (low, high) :: rest =>
      have := decidableAscending (high + 1) rest
      inferInstanceAs (Decidable (floor ≤ low ∧ low ≤ high ∧ Ascending (high + 1) rest))

/-- A range of an ascending list starts at or above the floor of the list. -/
theorem Ascending.le_low {floor : Nat} {ranges : Ranges} (ascending : Ascending floor ranges) :
    ∀ range ∈ ranges, floor ≤ range.1 := by
  induction ranges generalizing floor with
  | nil => simp
  | cons head rest ih =>
      obtain ⟨low, high⟩ := head
      obtain ⟨floor_le, low_le, ascending⟩ := ascending
      intro range member
      cases member with
      | head => exact floor_le
      | tail _ member =>
          have := ih ascending range member
          omega

/-- For an ascending list the test finds exactly the code points of its ranges. -/
theorem contains_eq_true_iff {floor : Nat} {ranges : Ranges} (ascending : Ascending floor ranges)
    {point : Nat} :
    ranges.contains point = true ↔ ∃ range ∈ ranges, range.1 ≤ point ∧ point ≤ range.2 := by
  induction ranges generalizing floor with
  | nil => simp [contains]
  | cons head rest ih =>
      obtain ⟨low, high⟩ := head
      obtain ⟨floor_le, low_le, ascending⟩ := ascending
      have above := ascending.le_low
      simp only [contains, List.mem_cons, exists_eq_or_imp]
      by_cases below : point < low
      · simp only [below, if_true, Bool.false_eq_true, false_iff, not_or, not_exists, not_and]
        refine ⟨fun h => absurd h (by omega), fun range member => ?_⟩
        have := above range member
        omega
      · by_cases inside : point ≤ high
        · simp only [below, inside, if_false, if_true, true_iff]
          exact Or.inl ⟨by omega, trivial⟩
        · simp only [below, inside, if_false, and_false, false_or]
          exact ih ascending

end Ranges

end Focal.Unicode
