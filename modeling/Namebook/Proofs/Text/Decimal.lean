import Mathlib.Data.List.Induction
import Namebook.Text.Decimal

/-!
# Numbers as decimal text

A number that was written can be read again, up to the limit of the reader. Digits are read, maybe
after a plus sign, and nothing else is. So the texts of a number are its digits after any number of
zeros, with a plus sign before them or without one.
-/

namespace Namebook.Text

theorem isDigit_of_mem_digits {n : Nat} {c : Char} (h : c ∈ digits n) : c.isDigit = true :=
  Nat.isDigit_of_mem_toDigits (by decide) (by decide) h

theorem digits_of_lt {n : Nat} (h : n < 10) : digits n = [n.digitChar] := Nat.toDigits_of_lt_base h

theorem digits_concat {n : Nat} (h : 10 ≤ n) :
    digits n = digits (n / 10) ++ [(n % 10).digitChar] := Nat.toDigits_of_base_le (by decide) h

/-- A number has a first digit, and only zero has a zero there. -/
theorem exists_first_digit (n : Nat) :
    ∃ c ds, digits n = c :: ds ∧ c.isDigit = true ∧ (n ≠ 0 → c ≠ '0') := by
  induction n using Nat.strongRecOn with
  | ind n ih =>
    by_cases hn : n < 10
    · have hdigit : ∀ d < 10, d.digitChar.isDigit = true ∧ (d ≠ 0 → d.digitChar ≠ '0') := by decide
      exact ⟨n.digitChar, [], digits_of_lt hn, hdigit n hn⟩
    · obtain ⟨c, ds, hds, hc, hzero⟩ := ih (n / 10) (by omega)
      have hdigits : digits n = c :: (ds ++ [(n % 10).digitChar]) := by
        rw [digits_concat (by omega), hds, List.cons_append]
      exact ⟨c, _, hdigits, hc, fun _ => hzero (by omega)⟩

theorem digitValue?_of_isDigit {c : Char} (h : c.isDigit = true) :
    digitValue? c = some (c.toNat - '0'.toNat) := by
  rw [Char.isDigit, Bool.and_eq_true, decide_eq_true_eq, decide_eq_true_eq] at h
  exact if_pos h

theorem digitsFrom?_of_isDigit {cs : List Char} (h : ∀ c ∈ cs, c.isDigit = true) (n : Nat) :
    digitsFrom? n cs = some (Nat.ofDigitChars 10 cs n) := by
  induction cs generalizing n with
  | nil => rfl
  | cons c cs ih =>
    rw [digitsFrom?, digitValue?_of_isDigit (h c List.mem_cons_self), Option.bind_some,
      ih fun d hd => h d (List.mem_cons_of_mem c hd), Nat.ofDigitChars_cons]

theorem digitsValue?_digits (n : Nat) : digitsValue? (digits n) = some n := by
  have hne : digits n ≠ [] := Nat.toDigits_ne_nil
  have hv : digitsFrom? 0 (digits n) = some n := by
    rw [digitsFrom?_of_isDigit (fun c => isDigit_of_mem_digits), digits,
      Nat.ofDigitChars_ten_toDigits]
  rw [digitsValue?, hv]
  exact hne

theorem dropPlus_of_isDigit {cs : List Char} (h : ∀ c ∈ cs, c.isDigit = true) :
    dropPlus cs = cs := by
  unfold dropPlus
  split
  · exact absurd (h '+' List.mem_cons_self) (by decide)
  · rfl

theorem dropPlus_digits (n : Nat) : dropPlus (digits n) = digits n :=
  dropPlus_of_isDigit fun _ => isDigit_of_mem_digits

theorem natUpTo?_digits {limit n : Nat} (h : n ≤ limit) : natUpTo? limit (digits n) = some n := by
  rw [natUpTo?, dropPlus_digits, digitsValue?_digits]
  simpa using h

theorem digitValue?_eq_none {c : Char} (h : ¬c.isDigit = true) : digitValue? c = none := by
  rw [Char.isDigit, Bool.and_eq_true, decide_eq_true_eq, decide_eq_true_eq] at h
  exact if_neg h

theorem digitsFrom?_eq_some_iff {cs : List Char} {n value : Nat} :
    digitsFrom? n cs = some value ↔
      (∀ c ∈ cs, c.isDigit = true) ∧ Nat.ofDigitChars 10 cs n = value := by
  by_cases h : ∀ c ∈ cs, c.isDigit = true
  · rw [digitsFrom?_of_isDigit h, Option.some.injEq]
    exact (and_iff_right h).symm
  · refine iff_of_false ?_ (fun hs => h hs.1)
    induction cs generalizing n with
    | nil => exact absurd (List.forall_mem_nil _) h
    | cons c cs ih =>
      by_cases hc : c.isDigit = true
      · rw [digitsFrom?, digitValue?_of_isDigit hc, Option.bind_some]
        exact ih fun hcs => h (List.forall_mem_cons.mpr ⟨hc, hcs⟩)
      · simp [digitsFrom?, digitValue?_eq_none hc]

theorem digitsValue?_eq_some_iff {cs : List Char} {value : Nat} :
    digitsValue? cs = some value ↔
      cs ≠ [] ∧ (∀ c ∈ cs, c.isDigit = true) ∧ Nat.ofDigitChars 10 cs 0 = value := by
  cases cs with
  | nil => simp [digitsValue?]
  | cons c cs => simp [digitsValue?, digitsFrom?_eq_some_iff]

theorem dropPlus_cases (cs : List Char) : cs = dropPlus cs ∨ cs = '+' :: dropPlus cs := by
  unfold dropPlus
  split
  · exact .inr rfl
  · exact .inl rfl

/-- A text is a number if it is one digit at least, and nothing but digits, after a plus sign or
without one, as long as the number is within the limit. -/
theorem natUpTo?_eq_some_iff {limit n : Nat} {cs : List Char} :
    natUpTo? limit cs = some n ↔
      ∃ ds, (cs = ds ∨ cs = '+' :: ds) ∧ ds ≠ [] ∧ (∀ d ∈ ds, d.isDigit = true) ∧
        Nat.ofDigitChars 10 ds 0 = n ∧ n ≤ limit := by
  rw [natUpTo?, Option.filter_eq_some_iff, digitsValue?_eq_some_iff, decide_eq_true_eq]
  constructor
  · rintro ⟨⟨hne, hdigits, hvalue⟩, hle⟩
    exact ⟨dropPlus cs, dropPlus_cases cs, hne, hdigits, hvalue, hle⟩
  · rintro ⟨ds, hcs, hne, hdigits, hvalue, hle⟩
    have hdrop : dropPlus cs = ds := by
      rcases hcs with rfl | rfl
      · exact dropPlus_of_isDigit hdigits
      · rfl
    rw [hdrop]
    exact ⟨⟨hne, hdigits, hvalue⟩, hle⟩

/-! ## All texts of a number -/

/-- The digits of a number after zeros, and after a plus sign or without one. -/
def numeral (plus : Bool) (zeros n : Nat) : List Char :=
  (if plus then ['+'] else []) ++ (List.replicate zeros '0' ++ digits n)

theorem isDigit_of_mem_padded {zeros n : Nat} {c : Char}
    (h : c ∈ List.replicate zeros '0' ++ digits n) : c.isDigit = true := by
  rcases List.mem_append.mp h with hc | hc
  · rw [(List.mem_replicate.mp hc).2]
    decide
  · exact isDigit_of_mem_digits hc

theorem dropPlus_numeral (plus : Bool) (zeros n : Nat) :
    dropPlus (numeral plus zeros n) = List.replicate zeros '0' ++ digits n := by
  cases plus with
  | true => rfl
  | false => exact dropPlus_of_isDigit fun _ => isDigit_of_mem_padded

theorem ofDigitChars_padded (zeros n : Nat) :
    Nat.ofDigitChars 10 (List.replicate zeros '0' ++ digits n) 0 = n := by
  rw [Nat.ofDigitChars_append, Nat.ofDigitChars_replicate_zero, Nat.mul_zero, digits,
    Nat.ofDigitChars_ten_toDigits]

theorem exists_digitChar {c : Char} (h : c.isDigit = true) : ∃ d < 10, c = d.digitChar := by
  simp only [Char.isDigit, Bool.and_eq_true, decide_eq_true_eq, UInt32.le_iff_toNat_le] at h
  obtain ⟨d, hd⟩ : ∃ d, c.toNat = 48 + d := Nat.exists_eq_add_of_le h.1
  have hle : c.toNat ≤ 57 := h.2
  have hlt : d < 10 := by omega
  exact ⟨d, hlt, Char.toNat_inj.mp (by rw [hd, Nat.toNat_digitChar_of_lt_ten hlt])⟩

/-- Digits are those of their number, after zeros or none. -/
theorem exists_zeros {ds : List Char} (hne : ds ≠ []) (h : ∀ d ∈ ds, d.isDigit = true) :
    ∃ zeros, ds = List.replicate zeros '0' ++ digits (Nat.ofDigitChars 10 ds 0) := by
  induction ds using List.reverseRecOn with
  | nil => exact absurd rfl hne
  | append_singleton ds c ih =>
    obtain ⟨d, hd, rfl⟩ := exists_digitChar (h c (by simp))
    have hvalue : d.digitChar.toNat - '0'.toNat = d := Nat.toNat_digitChar_sub_48_of_lt_ten hd
    rw [Nat.ofDigitChars_append, Nat.ofDigitChars_cons, Nat.ofDigitChars_nil, hvalue]
    by_cases hds : ds = []
    · exact ⟨0, by simp [hds, digits_of_lt hd]⟩
    · obtain ⟨zeros, hzeros⟩ := ih hds fun e he => h e (List.mem_append_left _ he)
      generalize Nat.ofDigitChars 10 ds 0 = m at hzeros
      by_cases hm : m = 0
      · -- So far there are zeros only, the last of them as the digit of zero.
        refine ⟨zeros + 1, ?_⟩
        rw [hzeros, hm, Nat.mul_zero, Nat.zero_add, digits_of_lt hd, digits_of_lt (by decide)]
        simp [List.replicate_succ']
      · refine ⟨zeros, ?_⟩
        rw [digits_concat (by omega), hzeros, List.append_assoc,
          show (10 * m + d) / 10 = m by omega, show (10 * m + d) % 10 = d by omega]

theorem numeral_inj {plus plus' : Bool} {zeros zeros' n n' : Nat} :
    numeral plus zeros n = numeral plus' zeros' n' ↔ plus = plus' ∧ zeros = zeros' ∧ n = n' := by
  constructor
  · intro h
    have hdrop := congrArg dropPlus h
    rw [dropPlus_numeral, dropPlus_numeral] at hdrop
    have hn : n = n' := by
      rw [← ofDigitChars_padded zeros n, hdrop, ofDigitChars_padded]
    subst hn
    have hzeros : zeros = zeros' := by simpa using List.append_cancel_right hdrop
    subst hzeros
    refine ⟨?_, rfl, rfl⟩
    have hsign := congrArg List.length h
    cases plus <;> cases plus' <;> simp [numeral] at hsign ⊢
  · rintro ⟨rfl, rfl, rfl⟩
    rfl

theorem natUpTo?_eq_some_iff_numeral {limit n : Nat} {cs : List Char} :
    natUpTo? limit cs = some n ↔ n ≤ limit ∧ ∃ plus zeros, cs = numeral plus zeros n := by
  rw [natUpTo?_eq_some_iff]
  constructor
  · rintro ⟨ds, hcs, hne, hdigits, rfl, hle⟩
    obtain ⟨zeros, hds⟩ := exists_zeros hne hdigits
    refine ⟨hle, ?_⟩
    rcases hcs with rfl | rfl
    · exact ⟨false, zeros, hds⟩
    · exact ⟨true, zeros, congrArg _ hds⟩
  · rintro ⟨hle, plus, zeros, rfl⟩
    refine ⟨List.replicate zeros '0' ++ digits n, ?_, ?_, fun _ => isDigit_of_mem_padded,
      ofDigitChars_padded zeros n, hle⟩
    · cases plus with
      | false => exact .inl rfl
      | true => exact .inr rfl
    · exact List.append_ne_nil_of_right_ne_nil _ Nat.toDigits_ne_nil

end Namebook.Text
