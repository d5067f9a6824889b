import Namebook.Text.Ascii

/-!
# Letters of ASCII

A letter of ASCII and its other case are 32 code points apart, and no other character changes. So
whatever case a text is put into first, it comes to be the same in the case it is put into last.
-/

namespace Namebook.Text

theorem toNat_ofNat_of_isValidChar {n : Nat} (h : n.isValidChar) : (Char.ofNat n).toNat = n := by
  unfold Char.ofNat
  rw [dif_pos h]
  rfl

theorem toNat_toUpper (c : Char) :
    c.toUpper.toNat = if 97 ≤ c.toNat ∧ c.toNat ≤ 122 then c.toNat - 32 else c.toNat := by
  unfold Char.toUpper
  split
  case isTrue h =>
    have hlower : 97 ≤ c.toNat ∧ c.toNat ≤ 122 := h
    -- The distance is subtracted by what is added to it in 32 bits.
    have hwrap : (c.val + ('A'.val - 'a'.val)).toNat = (c.toNat + (2 ^ 32 - 32)) % 2 ^ 32 :=
      UInt32.toNat_add ..
    rw [if_pos hlower, Char.toNat_mk]
    omega
  case isFalse h => exact (if_neg h).symm

theorem toNat_toLower (c : Char) :
    c.toLower.toNat = if 65 ≤ c.toNat ∧ c.toNat ≤ 90 then c.toNat + 32 else c.toNat := by
  unfold Char.toLower
  split
  case isTrue h =>
    have hupper : 65 ≤ c.toNat ∧ c.toNat ≤ 90 := h
    have hwrap : (c.val + ('a'.val - 'A'.val)).toNat = (c.toNat + 32) % 2 ^ 32 :=
      UInt32.toNat_add ..
    rw [if_pos hupper, Char.toNat_mk]
    omega
  case isFalse h => exact (if_neg h).symm

theorem map_map_of_toNat {f g h : Char → Char} (hsame : ∀ c, (f (g c)).toNat = (h c).toNat)
    (cs : List Char) : (cs.map g).map f = cs.map h := by
  rw [List.map_map]
  exact List.map_congr_left fun c _ => Char.toNat_inj.mp (hsame c)

theorem asciiUpper_asciiUpper (cs : List Char) : asciiUpper (asciiUpper cs) = asciiUpper cs := by
  refine map_map_of_toNat (fun c => ?_) cs
  rw [toNat_toUpper, toNat_toUpper]
  grind

theorem asciiLower_asciiUpper (cs : List Char) : asciiLower (asciiUpper cs) = asciiLower cs := by
  refine map_map_of_toNat (fun c => ?_) cs
  rw [toNat_toLower, toNat_toLower, toNat_toUpper]
  grind

theorem asciiUpper_asciiLower (cs : List Char) : asciiUpper (asciiLower cs) = asciiUpper cs := by
  refine map_map_of_toNat (fun c => ?_) cs
  rw [toNat_toUpper, toNat_toUpper, toNat_toLower]
  grind

theorem asciiUpper_eq_iff {cs ds : List Char} :
    asciiUpper cs = asciiUpper ds ↔ asciiLower cs = asciiLower ds := by
  constructor
  · intro h
    rw [← asciiLower_asciiUpper cs, h, asciiLower_asciiUpper]
  · intro h
    rw [← asciiUpper_asciiLower cs, h, asciiUpper_asciiLower]

end Namebook.Text
