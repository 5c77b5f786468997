/-
# The texts of numbers

Integers are read back as they were written (`readInteger?_intChars`), and the text of a number is
made of few characters: digits, a sign, a point, and the letters that stand for what has no digits.
So no number ever holds a separator of the control language.
-/
import LabControl.Quantity

namespace LabControl.Decimal

/-! ## 1. Integers are read back -/

/-- A digit is no sign. -/
theorem readSign_of_isDigit {c : Char} (h : isDigit c = true) (rest : List Char) :
    readSign (c :: rest) = (false, c :: rest) := by
  unfold readSign
  split
  · next heq =>
    cases heq
    exact absurd h (by decide)
  · next heq =>
    cases heq
    exact absurd h (by decide)
  · rfl

/-- The digits of a number are read as a number without a sign. -/
theorem readSign_digits (n : Nat) : readSign (digits n) = (false, digits n) := by
  rcases hdigits : digits n with _ | ⟨c, rest⟩
  · exact absurd hdigits (digits_ne_nil n)
  · exact readSign_of_isDigit (isDigit_of_mem_digits n c (by simp [hdigits])) rest

/-- **An integer is read back as it was written.** -/
theorem readInteger?_intChars (n : Int) : readInteger? (intChars n) = some n := by
  have hdigits : (!(digits n.natAbs).isEmpty && (digits n.natAbs).all isDigit) = true := by
    have hall : (digits n.natAbs).all isDigit = true :=
      List.all_eq_true.mpr (isDigit_of_mem_digits n.natAbs)
    simp [digits_ne_nil, hall]
  by_cases hneg : n < 0
  · have habs : -(n.natAbs : Int) = n := by omega
    rw [intChars, if_pos hneg, readInteger?, readSign]
    simp only [hdigits, if_true, value_digits, habs]
  · have habs : (n.natAbs : Int) = n := by omega
    rw [intChars, if_neg hneg, readInteger?, readSign_digits]
    simp only [hdigits, if_true, Bool.false_eq_true, if_false, value_digits, habs]

/-! ## 2. The characters of numbers -/

/-- Whether a character may stand in the text of a number: a digit, a sign, a point, or a letter of
what stands for a value without digits. -/
def isNumeral (c : Char) : Bool := isDigit c || ['-', '.', 'N', 'a', 'i', 'n', 'f'].contains c

theorem isNumeral_of_isDigit {c : Char} (h : isDigit c = true) : isNumeral c = true := by
  rw [isNumeral, h, Bool.true_or]

theorem isNumeral_of_mem_digits {n : Nat} {c : Char} (h : c ∈ digits n) : isNumeral c = true :=
  isNumeral_of_isDigit (isDigit_of_mem_digits n c h)

theorem isNumeral_of_mem_intText {n : Int} {c : Char} (h : c ∈ (intText n).toList) :
    isNumeral c = true := by
  rw [intText, String.toList_ofList, intChars] at h
  split at h
  · rcases List.mem_cons.mp h with rfl | h
    · decide
    · exact isNumeral_of_mem_digits h
  · exact isNumeral_of_mem_digits h

/-- The digits of a fraction and its point. -/
theorem isNumeral_of_mem_fixedChars {places num den : Nat} {c : Char}
    (h : c ∈ fixedChars places num den) : isNumeral c = true := by
  have hpadded : ∀ k, c ∈ List.replicate k '0' ++
      digits (roundHalfEven (num * Nat.pow 10 places) den) → isNumeral c = true := by
    intro k hmem
    rcases List.mem_append.mp hmem with hmem | hmem
    · rw [(List.mem_replicate.mp hmem).2]
      decide
    · exact isNumeral_of_mem_digits hmem
  unfold fixedChars at h
  split at h
  · exact hpadded _ h
  · rcases List.mem_append.mp h with h | h
    · exact hpadded _ (List.mem_of_mem_take h)
    · rcases List.mem_cons.mp h with rfl | h
      · decide
      · exact hpadded _ (List.mem_of_mem_drop h)

/-- A sign may stand before the text of a number. -/
theorem isNumeral_of_mem_withSign {negative : Bool} {cs : List Char}
    (hcs : ∀ c ∈ cs, isNumeral c = true) {c : Char} (h : c ∈ (withSign negative cs).toList) :
    isNumeral c = true := by
  rw [withSign, String.toList_ofList] at h
  split at h
  · rcases List.mem_cons.mp h with rfl | h
    · decide
    · exact hcs c h
  · exact hcs c h

/-- **The text of a double with fixed places holds nothing but numerals.** -/
theorem isNumeral_of_mem_fixed {places : Nat} {x : Float} {c : Char}
    (h : c ∈ (fixed places x).toList) : isNumeral c = true := by
  unfold fixed at h
  split at h
  · exact List.all_eq_true.mp (by decide : "NaN".toList.all isNumeral = true) c h
  · exact isNumeral_of_mem_withSign (List.all_eq_true.mp (by decide)) h
  · exact isNumeral_of_mem_withSign (fun _ => isNumeral_of_mem_fixedChars) h

end LabControl.Decimal
