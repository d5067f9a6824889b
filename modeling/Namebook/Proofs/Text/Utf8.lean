import Namebook.Proofs.Text.Ascii
import Namebook.Text.Utf8

/-!
# Bytes of plain text

A character of ASCII is its own byte, and reads back as itself whatever bytes come after it. No
other bytes are read as one, so a text of ASCII comes from its own bytes only.
-/

namespace Namebook.Text.Utf8

theorem encodeChar_of_ascii {c : Char} (h : c.toNat < 0x80) : encodeChar c = [c.toNat] := if_pos h

theorem encode_of_ascii {cs : List Char} (h : ∀ c ∈ cs, c.toNat < 0x80) :
    encode cs = cs.map Char.toNat := by
  induction cs with
  | nil => rfl
  | cons c cs ih =>
    obtain ⟨hc, hcs⟩ := List.forall_mem_cons.mp h
    rw [encode, List.flatMap_cons, encodeChar_of_ascii hc, ← encode, ih hcs]
    rfl

theorem decodeFirst_of_ascii {c : Char} (h : c.toNat < 0x80) (rest : List Nat) :
    decodeFirst c.toNat rest = (c, 0) := by
  unfold decodeFirst
  rw [if_pos h, Char.ofNat_toNat]

theorem decode_encode_of_ascii {cs : List Char} (h : ∀ c ∈ cs, c.toNat < 0x80) :
    decode (encode cs) = cs := by
  rw [encode_of_ascii h]
  induction cs with
  | nil => rw [List.map_nil, decode]
  | cons c cs ih =>
    obtain ⟨hc, hcs⟩ := List.forall_mem_cons.mp h
    rw [List.map_cons, decode, decodeFirst_of_ascii hc]
    dsimp only
    rw [List.drop_zero, ih hcs]

/-! ## Where plain text comes from -/

theorem bounds_of_secondOk {first second : Nat} (h : secondOk first second = true) :
    0x80 ≤ second ∧ second ≤ 0xBF ∧ (first = 0xE0 → 0xA0 ≤ second) ∧
      (first = 0xED → second ≤ 0x9F) ∧ (first = 0xF0 → 0x90 ≤ second) ∧
      (first = 0xF4 → second ≤ 0x8F) := by
  unfold secondOk at h
  split at h <;> simp only [isTail, Bool.and_eq_true, decide_eq_true_eq] at h <;> grind

/-- No form of several bytes, and no ill-formed run, is read as a character of ASCII. -/
theorem le_decodeFirst {b : Nat} (h : 0x80 ≤ b) (rest : List Nat) :
    0x80 ≤ (decodeFirst b rest).1.toNat := by
  have hvalue {n : Nat} (hn : 0x80 ≤ n) (hv : n < 0xD800 ∨ 0xDFFF < n ∧ n < 0x110000) :
      0x80 ≤ (Char.ofNat n).toNat := by
    rwa [toNat_ofNat_of_isValidChar hv]
  have hreplacement : 0x80 ≤ replacement.toNat := by decide
  fun_cases decodeFirst b rest
  case case1 hb => exact absurd h (Nat.not_le_of_lt hb)
  case case2 hb x _ hx => exact hvalue (by omega) (by omega)
  case case6 hb x y _ hx hy =>
    have hsecond : secondOk b x = true := by simpa using hx
    have hbounds := bounds_of_secondOk hsecond
    exact hvalue (by omega) (by omega)
  case case12 hb x y z _ hx hy hz =>
    have hsecond : secondOk b x = true := by simpa using hx
    have hbounds := bounds_of_secondOk hsecond
    exact hvalue (by omega) (by omega)
  all_goals exact hreplacement

theorem decode_eq_iff_of_ascii {bytes : List Nat} {cs : List Char}
    (h : ∀ c ∈ cs, c.toNat < 0x80) : decode bytes = cs ↔ bytes = encode cs := by
  constructor
  · rintro rfl
    rw [encode_of_ascii h]
    fun_induction decode bytes with
    | case1 => rfl
    | case2 b rest c used hfirst ih =>
      obtain ⟨hc, hrest⟩ := List.forall_mem_cons.mp h
      have hb : b < 0x80 := by
        refine Nat.lt_of_not_le fun hb => Nat.not_lt_of_le ?_ hc
        simpa [hfirst] using le_decodeFirst hb rest
      have hplain : decodeFirst b rest = (Char.ofNat b, 0) := if_pos hb
      obtain ⟨rfl, rfl⟩ := Prod.mk.inj (hfirst.symm.trans hplain)
      rw [List.drop_zero] at hrest ih ⊢
      rw [List.map_cons, toNat_ofNat_of_isValidChar (.inl (by omega)), ← ih hrest]
  · rintro rfl
    exact decode_encode_of_ascii h

end Namebook.Text.Utf8
