import Mathlib.Tactic.Ring
import Namebook.Address.Ip
import Namebook.Proofs.Text.Decimal

/-!
# Numbers inside an address

A number that is written is read again, and what comes after its digits is left, as long as that
does not go on with a digit. In every case the digits that lead the text are taken and the rest is
left, so a part of an address that is followed by the wrong character is refused.
-/

namespace Namebook.Address

/-- No digit leads the text. -/
def Stops (value? : Char → Option Nat) (cs : List Char) : Prop :=
  ∀ c, cs.head? = some c → value? c = none

variable {base : Nat} {value? : Char → Option Nat} {cs rest : List Char}

theorem stops_nil (value? : Char → Option Nat) : Stops value? [] := by simp [Stops]

theorem stops_cons {c : Char} : Stops value? (c :: rest) ↔ value? c = none := by
  simp [Stops]

theorem takeNumber_of_stops (h : Stops value? rest) (acc : Nat) :
    takeNumber base value? acc rest = (acc, rest) := by
  cases rest with
  | nil => rfl
  | cons c rest => rw [takeNumber, stops_cons.mp h]

theorem takeNumber_digit {c : Char} {d : Nat} (h : value? c = some d) (acc : Nat) :
    takeNumber base value? acc (c :: rest) = takeNumber base value? (base * acc + d) rest := by
  rw [takeNumber, h]

/-- What is left are the characters from the first one on that is no digit. -/
theorem takeNumber_snd (acc : Nat) (cs : List Char) :
    (takeNumber base value? acc cs).2 = cs.dropWhile fun c => (value? c).isSome := by
  induction cs generalizing acc with
  | nil => rfl
  | cons c cs ih =>
    cases hc : value? c with
    | none => rw [takeNumber, hc, List.dropWhile_cons_of_neg (by simp [hc])]
    | some d => rw [takeNumber_digit hc, ih, List.dropWhile_cons_of_pos (by simp [hc])]

theorem takeNumber_toDigits (hbase : 1 < base)
    (hvalue : ∀ d < base, value? d.digitChar = some d) (n acc : Nat) (rest : List Char) :
    takeNumber base value? acc (Nat.toDigits base n ++ rest) =
      takeNumber base value? (base ^ (Nat.toDigits base n).length * acc + n) rest := by
  induction n using Nat.strongRecOn generalizing rest with
  | ind n ih =>
    by_cases hn : n < base
    · rw [Nat.toDigits_of_lt_base hn, List.singleton_append, takeNumber_digit (hvalue n hn)]
      simp
    · have hle : base ≤ n := Nat.le_of_not_lt hn
      have hlast : n % base < base := Nat.mod_lt n (by omega)
      rw [Nat.toDigits_of_base_le hbase hle, List.append_assoc,
        ih (n / base) (Nat.div_lt_self (by omega) hbase), List.singleton_append,
        takeNumber_digit (hvalue _ hlast), List.length_append, List.length_singleton, Nat.pow_succ]
      congr 1
      rw [Nat.mul_add, Nat.add_assoc, Nat.div_add_mod]
      ring

theorem exists_digitChar_of_mem {base n : Nat} (hbase : 1 < base) {c : Char}
    (h : c ∈ Nat.toDigits base n) : ∃ d < base, c = d.digitChar := by
  induction n using Nat.strongRecOn with
  | ind n ih =>
    by_cases hn : n < base
    · rw [Nat.toDigits_of_lt_base hn, List.mem_singleton] at h
      exact ⟨n, hn, h⟩
    · rw [Nat.toDigits_of_base_le hbase (Nat.le_of_not_lt hn), List.mem_append,
        List.mem_singleton] at h
      rcases h with hfirst | hlast
      · exact ih (n / base) (Nat.div_lt_self (by omega) hbase) hfirst
      · exact ⟨n % base, Nat.mod_lt n (by omega), hlast⟩

theorem number?_toDigits {most : Option Nat} {bound n : Nat} (hbase : 1 < base)
    (hvalue : ∀ d < base, value? d.digitChar = some d) (hrest : Stops value? rest)
    (hbound : n < bound) (hmost : most.all ((Nat.toDigits base n).length ≤ ·) = true) :
    number? base value? most bound (Nat.toDigits base n ++ rest) = some (n, rest) := by
  have hpos : 0 < (Nat.toDigits base n).length := Nat.length_toDigits_pos
  rw [number?, takeNumber_toDigits hbase hvalue, takeNumber_of_stops hrest]
  simp [hpos, hbound, hmost]

theorem number?_of_stops {most : Option Nat} {bound : Nat} (h : Stops value? cs) :
    number? base value? most bound cs = none := by
  rw [number?, takeNumber_of_stops h]
  simp

theorem rest_of_number? {most : Option Nat} {bound n : Nat}
    (h : number? base value? most bound cs = some (n, rest)) :
    rest = cs.dropWhile fun c => (value? c).isSome := by
  have hnumber : number? base value? most bound cs = some (n, rest) →
      takeNumber base value? 0 cs = (n, rest) := by
    rw [number?]
    dsimp only
    split
    · exact Option.some.inj
    · exact nofun
  rw [← takeNumber_snd 0 cs, hnumber h]

/-! ## Version 4 -/

theorem digitValue?_digitChar : ∀ d < 10, Text.digitValue? d.digitChar = some d := by decide

/-- Only zero begins with a zero, so what is written of an octet has no leading zeros. -/
theorem not_leadingZero (a : UInt8) (rest : List Char) :
    ¬((Text.digits a.toNat ++ rest).head? = some '0' ∧
      (Text.digits a.toNat ++ rest).length - rest.length > 1) := by
  rintro ⟨hfirst, hlong⟩
  obtain ⟨c, ds, hds, -, hne⟩ := Text.exists_first_digit a.toNat
  rw [hds, List.cons_append, List.head?_cons, Option.some.injEq] at hfirst
  have hzero : a.toNat = 0 := not_not.mp fun h => hne h hfirst
  rw [hzero, List.length_append, Nat.add_sub_cancel] at hlong
  exact absurd hlong (by decide)

theorem octet?_digits (a : UInt8) (h : Stops Text.digitValue? rest) :
    octet? (Text.digits a.toNat ++ rest) = some (a, rest) := by
  have hlength : (Nat.toDigits 10 a.toNat).length ≤ 3 :=
    (Nat.length_toDigits_le_iff (by decide) (by decide)).mpr (Nat.lt_trans a.toNat_lt (by decide))
  have hnumber : number? 10 Text.digitValue? (some 3) 256 (Text.digits a.toNat ++ rest) =
      some (a.toNat, rest) :=
    number?_toDigits (by decide) digitValue?_digitChar h a.toNat_lt (by simpa using hlength)
  rw [octet?, hnumber]
  change (if _ then none else some (UInt8.ofNat a.toNat, rest)) = some (a, rest)
  rw [if_neg (not_leadingZero a rest), UInt8.ofNat_toNat]

theorem rest_of_octet? {a : UInt8} (h : octet? cs = some (a, rest)) :
    rest = cs.dropWhile fun c => (Text.digitValue? c).isSome := by
  obtain ⟨⟨n, left⟩, hnumber, hrest⟩ := Option.bind_eq_some_iff.mp h
  dsimp only at hrest
  split at hrest
  · exact nomatch hrest
  · obtain ⟨-, rfl⟩ := Prod.mk.inj (Option.some.inj hrest)
    exact rest_of_number? hnumber

theorem stops_point : Stops Text.digitValue? ('.' :: cs) := stops_cons.mpr (by decide)

theorem after?_self (c : Char) (cs : List Char) : Text.after? c (c :: cs) = some cs := if_pos rfl

theorem ip4?_render (ip : Ip4) (h : Stops Text.digitValue? rest) :
    ip4? (ip.render ++ rest) = some (ip, rest) := by
  simp only [ip4?, Ip4.render, List.append_assoc, List.cons_append, octet?_digits _ stops_point,
    octet?_digits _ h, after?_self, bind, Option.bind_some]

/-- An address of version 4 has a point behind its first digits. -/
theorem ip4?_eq_none (h : (cs.dropWhile fun c => (Text.digitValue? c).isSome).head? ≠ some '.') :
    ip4? cs = none := by
  rw [ip4?]
  cases hoctet : octet? cs with
  | none => rfl
  | some found =>
    obtain ⟨a, left⟩ := found
    have hpoint : Text.after? '.' left = none := by
      rw [rest_of_octet? hoctet]
      cases hleft : cs.dropWhile fun c => (Text.digitValue? c).isSome with
      | nil => rfl
      | cons c left =>
        rw [hleft] at h
        exact if_neg fun hc => h (by rw [hc, List.head?_cons])
    simp [bind, hpoint]

theorem ip4?_of_stops (h : Stops Text.digitValue? cs) : ip4? cs = none := by
  rw [ip4?, octet?, number?_of_stops h]
  rfl

end Namebook.Address
