import Namebook.Proofs.Text.Ascii
import Namebook.Proofs.Text.Blank

/-!
# Normal forms

The normal form of a record type is its own normal form: letters have the same case already, and in
another case they are no more blank than before. The normal form of a name is that of the trimmed
name.
-/

namespace Namebook.Text

theorem trimChars_map {f : Char → Char} (h : ∀ c, isBlank (f c) = isBlank c) (cs : List Char) :
    trimChars (cs.map f) = (trimChars cs).map f := by
  have hf : isBlank ∘ f = isBlank := funext h
  simp [trimChars, trimStart, trimEnd, List.dropWhile_map, hf, ← List.map_reverse]

theorem isBlank_of_letter {c : Char} (h : 65 ≤ c.toNat ∧ c.toNat ≤ 122) : isBlank c = false := by
  simp only [isBlank, Bool.or_eq_false_iff, Bool.and_eq_false_iff, decide_eq_false_iff_not,
    beq_eq_false_iff_ne]
  omega

theorem isBlank_toUpper (c : Char) : isBlank c.toUpper = isBlank c := by
  have hupper := toNat_toUpper c
  by_cases h : 97 ≤ c.toNat ∧ c.toNat ≤ 122
  · rw [if_pos h] at hupper
    rw [isBlank_of_letter (by omega), isBlank_of_letter (by omega)]
  · rw [if_neg h, Char.toNat_inj] at hupper
    rw [hupper]

theorem normalizeType_normalizeType (s : String) :
    normalizeType (normalizeType s) = normalizeType s := by
  have htrim (cs : List Char) : trimChars (asciiUpper cs) = asciiUpper (trimChars cs) :=
    trimChars_map isBlank_toUpper cs
  simp [normalizeType, htrim, trimChars_trimChars, asciiUpper_asciiUpper]

theorem lowercase_trim (s : String) : lowercase (trim s) = normalizeName s := by
  simp [lowercase, trim, normalizeName]

end Namebook.Text
