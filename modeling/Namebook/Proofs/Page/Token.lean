import Namebook.Proofs.Page

/-!
# Which texts hold an offset

A token that is given out holds the digits of its offset, and it is read as that offset, whatever
white space is around it. It is not the only text that is: zeros before the digits and a plus sign
before those are read as well. With these spellings all texts that hold an offset are known, and a
text that is none of them holds no offset.
-/

namespace Namebook.Page

/-- The text that holds the digits of an offset after zeros, and after a plus sign or without
one. -/
def spelling (plus : Bool) (zeros n : Nat) : String :=
  String.ofList (Text.Base64.encode (Text.Utf8.encode (Text.numeral plus zeros n)))

theorem spelling_plain (n : Nat) : spelling false 0 n = token n := rfl

variable {plus plus' : Bool} {zeros zeros' n n' : Nat} {t : String}

theorem ascii_of_mem_numeral {c : Char} (h : c ∈ Text.numeral plus zeros n) : c.toNat < 0x80 := by
  rcases List.mem_append.mp h with hsign | hdigits
  · cases plus with
    | false => simp at hsign
    | true =>
      rw [List.mem_singleton.mp hsign]
      decide
  rcases List.mem_append.mp hdigits with hzero | hdigit
  · rw [(List.mem_replicate.mp hzero).2]
    decide
  · exact ascii_of_mem_digits hdigit

theorem encode_numeral (plus : Bool) (zeros n : Nat) :
    Text.Utf8.encode (Text.numeral plus zeros n) = (Text.numeral plus zeros n).map Char.toNat :=
  Text.Utf8.encode_of_ascii fun _ => ascii_of_mem_numeral

theorem lt_of_mem_encode_numeral {b : Nat}
    (h : b ∈ Text.Utf8.encode (Text.numeral plus zeros n)) : b < 256 := by
  rw [encode_numeral] at h
  obtain ⟨c, hc, rfl⟩ := List.mem_map.mp h
  exact Nat.lt_trans (ascii_of_mem_numeral hc) (by decide)

/-- Nothing of a number is lost in its spelling, so different spellings are different texts. -/
theorem spelling_inj :
    spelling plus zeros n = spelling plus' zeros' n' ↔ plus = plus' ∧ zeros = zeros' ∧ n = n' := by
  rw [← Text.numeral_inj]
  constructor
  · intro h
    have hbytes : some (Text.Utf8.encode (Text.numeral plus zeros n)) =
        some (Text.Utf8.encode (Text.numeral plus' zeros' n')) := by
      rw [← Text.Base64.decode_encode fun _ => lt_of_mem_encode_numeral,
        ← Text.Base64.decode_encode fun _ => lt_of_mem_encode_numeral, String.ofList_inj.mp h]
    rw [← Text.Utf8.decode_encode_of_ascii fun _ => ascii_of_mem_numeral,
      Option.some.inj hbytes, Text.Utf8.decode_encode_of_ascii fun _ => ascii_of_mem_numeral]
  · intro h
    rw [spelling, h, spelling]

theorem offset?_eq_some_iff :
    offset? t = some n ↔ n < 2 ^ 64 ∧ ∃ plus zeros, Text.trim t = spelling plus zeros n := by
  have hword : n ≤ Text.maxWord ↔ n < 2 ^ 64 := Nat.lt_succ_iff.symm
  have htrim (plus : Bool) (zeros : Nat) : Text.trim t = spelling plus zeros n ↔
      Text.trimChars t.toList =
        Text.Base64.encode (Text.Utf8.encode (Text.numeral plus zeros n)) := String.ofList_inj
  simp only [offset?, Option.bind_eq_some_iff, Text.Base64.decode_eq_some_iff,
    Text.natUpTo?_eq_some_iff_numeral, hword, htrim]
  constructor
  · rintro ⟨bytes, ⟨htext, -⟩, hlt, plus, zeros, hnumeral⟩
    have hbytes := (Text.Utf8.decode_eq_iff_of_ascii fun _ => ascii_of_mem_numeral).mp hnumeral
    exact ⟨hlt, plus, zeros, hbytes ▸ htext⟩
  · rintro ⟨hlt, plus, zeros, htext⟩
    exact ⟨_, ⟨htext, fun _ => lt_of_mem_encode_numeral⟩, hlt, plus, zeros,
      Text.Utf8.decode_encode_of_ascii fun _ => ascii_of_mem_numeral⟩

/-- A text holds an offset of 64 bits exactly if it is one of its spellings, white space around it
apart, and no two of them are one text. So the texts that hold an offset are those that were given
out for it, for all texts but the spellings with a sign or with zeros. -/
theorem offset?_of_spelling (t : String) :
    (∀ n, offset? t = some n ↔ n < 2 ^ 64 ∧ ∃ plus zeros, Text.trim t = spelling plus zeros n) ∧
      (∀ n, spelling false 0 n = token n) ∧
      (∀ plus zeros n plus' zeros' n', spelling plus zeros n = spelling plus' zeros' n' ↔
        plus = plus' ∧ zeros = zeros' ∧ n = n') ∧
      ((∀ n, offset? t = some n ↔ n < 2 ^ 64 ∧ Text.trim t = token n) ↔
        ∀ plus zeros, ∀ n < 2 ^ 64, Text.trim t = spelling plus zeros n →
          plus = false ∧ zeros = 0) := by
  refine ⟨fun n => offset?_eq_some_iff, spelling_plain, fun _ _ _ _ _ _ => spelling_inj, ?_⟩
  constructor
  · intro h plus zeros n hn ht
    obtain ⟨-, hissued⟩ := (h n).mp (offset?_eq_some_iff.mpr ⟨hn, plus, zeros, ht⟩)
    rw [ht, ← spelling_plain, spelling_inj] at hissued
    exact ⟨hissued.1, hissued.2.1⟩
  · intro h n
    rw [offset?_eq_some_iff, and_congr_right_iff]
    intro hn
    constructor
    · rintro ⟨plus, zeros, ht⟩
      obtain ⟨rfl, rfl⟩ := h plus zeros n hn ht
      exact ht
    · exact fun ht => ⟨false, 0, ht⟩

/-- The text of a seven with a plus sign is read as seven, like the token of seven itself. -/
theorem signed_spelling_read :
    ¬∀ t n, offset? t = some n ↔ n < 2 ^ 64 ∧ Text.trim t = token n := by
  intro h
  have hsigned : offset? "Kzc" = some 7 :=
    offset?_eq_some_iff.mpr ⟨by decide, true, 0, by decide⟩
  exact absurd ((h "Kzc" 7).mp hsigned).2 (by decide)

end Namebook.Page
