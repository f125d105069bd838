import Focal.Decimal.Reading
import Mathlib.Data.List.Induction
import Mathlib.Data.List.TakeWhile
import Mathlib.Data.Nat.Digits.Defs

/-!
# The numbers that digits write

Reading digits from the left gives their value in base ten (`digitsValue_eq`).  Digits around a
point are read as the double nearest to the value of all of them, divided by ten for each digit
behind the point (`readFloat?_of_fraction`).
-/

namespace Focal.Decimal

/-- The number that digits write in base ten, the last one for the units. -/
def numeral (digits : List Char) : Nat :=
  Nat.ofDigits 10 (digits.reverse.map fun digit => digit.toNat - '0'.toNat)

theorem digitsValue_eq (digits : List Char) : digitsValue digits = numeral digits := by
  induction digits using List.reverseRecOn with
  | nil => rfl
  | append_singleton digits digit ih =>
      have lastEq : numeral (digits ++ [digit]) = digit.toNat - '0'.toNat + 10 * numeral digits := by
        rw [numeral, List.reverse_append, List.reverse_singleton, List.singleton_append,
          List.map_cons, Nat.ofDigits_cons, ← numeral]
      rw [digitsValue, List.foldl_append, ← digitsValue, ih, List.foldl_cons, List.foldl_nil, lastEq,
        Nat.add_comm]

/-- A digit has no case. -/
theorem toLower_of_isDigit {digit : Char} (isDigit : digit.isDigit = true) :
    digit.toLower = digit := by
  have range : digit.val.toNat ≤ 57 := by
    simp only [Char.isDigit, Bool.and_eq_true, decide_eq_true_eq, UInt32.le_iff_toNat_le] at isDigit
    exact isDigit.2
  apply dif_neg
  rintro ⟨large, -⟩
  rw [ge_iff_le, UInt32.le_iff_toNat_le] at large
  exact absurd (large.trans range) (by decide)

/-- Digits on both sides of a point are read as the double nearest to what they write. -/
theorem readFloat?_of_fraction {whole fraction : List Char} (nonempty : whole ≠ [])
    (wholeDigits : ∀ digit ∈ whole, digit.isDigit = true)
    (fractionDigits : ∀ digit ∈ fraction, digit.isDigit = true) :
    readFloat? (String.ofList (whole ++ '.' :: fraction)) =
      some (nearest (digitsValue (whole ++ fraction)) (-fraction.length)) := by
  obtain ⟨first, rest, rfl⟩ := List.exists_cons_of_ne_nil nonempty
  have isDigit := wholeDigits first List.mem_cons_self
  have lower := toLower_of_isDigit isDigit
  have differs : ∀ other : Char, other.isDigit = false → first ≠ other := by
    rintro other notDigit rfl
    rw [isDigit] at notDigit
    cases notDigit
  have wholeTaken : (first :: rest ++ '.' :: fraction).takeWhile Char.isDigit = first :: rest := by
    rw [List.takeWhile_append_of_pos wholeDigits]
    simp
  have wholeLeft : (first :: rest ++ '.' :: fraction).dropWhile Char.isDigit = '.' :: fraction := by
    rw [List.dropWhile_append_of_pos wholeDigits]
    simp
  have fractionTaken : fraction.takeWhile Char.isDigit = fraction := by
    rw [List.takeWhile_eq_self_iff]
    exact fractionDigits
  have fractionLeft : fraction.dropWhile Char.isDigit = [] := by
    rw [List.dropWhile_eq_nil_iff]
    exact fractionDigits
  have unsigned : readUnsigned? (first :: rest ++ '.' :: fraction) =
      some (nearestClamped (first :: rest ++ fraction) (-fraction.length)) := by
    rw [readUnsigned?, wholeTaken, wholeLeft]
    simp [lower, differs 'n' rfl, differs 'i' rfl, fractionTaken, fractionLeft]
  have unclamped : nearestClamped (first :: rest ++ fraction) (-fraction.length) =
      nearest (digitsValue (first :: rest ++ fraction)) (-fraction.length) := by
    rw [nearestClamped, List.length_append]
    congr 1
    omega
  rw [readFloat?, String.toList_ofList]
  split
  · rename_i negative
    exact absurd (List.cons.inj negative).1 (differs '-' rfl)
  · rename_i positive
    exact absurd (List.cons.inj positive).1 (differs '+' rfl)
  · rw [unsigned, unclamped]

end Focal.Decimal
