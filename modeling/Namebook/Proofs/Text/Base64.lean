import Mathlib.Data.List.Basic
import Namebook.Text.Base64
import Namebook.Text.Blank

/-!
# Base 64 read again

Bytes are cut into numbers of six bits, each of which is written as one symbol. Both steps can be
undone, and no symbol is white space. Nothing is read but what is written for some bytes.
-/

namespace Namebook.Text

namespace Base64

theorem value?_symbol {n : Nat} (h : n < 64) : value? (symbol n) = some n := by
  have hall : ∀ n < 64, value? (symbol n) = some n := by decide
  exact hall n h

theorem isBlank_symbol (n : Nat) : isBlank (symbol n) = false := by
  have hall : ∀ n < 64, isBlank (symbol n) = false := by decide
  by_cases h : n < 64
  · exact hall n h
  · -- Every number beyond the alphabet has the last symbol.
    have hs : symbol n = symbol 63 := by
      unfold symbol
      rw [if_neg (by omega), if_neg (by omega), if_neg (by omega), if_neg (by omega)]
      rfl
    rw [hs]
    decide

/-- The numbers of six bits that stand for bytes, the last one filled up with zeros. -/
def sextets : List Nat → List Nat
  | [] => []
  | [a] => [a / 4, a % 4 * 16]
  | [a, b] => [a / 4, a % 4 * 16 + b / 16, b % 16 * 4]
  | a :: b :: c :: rest =>
    a / 4 :: (a % 4 * 16 + b / 16) :: (b % 16 * 4 + c / 64) :: c % 64 :: sextets rest

theorem encode_eq_map (bytes : List Nat) : encode bytes = (sextets bytes).map symbol := by
  fun_induction encode bytes with
  | case1 => rfl
  | case2 a => rfl
  | case3 a b => rfl
  | case4 a b c rest ih => rw [sextets, ih]; rfl

theorem lt_of_mem_sextets {bytes : List Nat} (h : ∀ b ∈ bytes, b < 256) :
    ∀ n ∈ sextets bytes, n < 64 := by
  fun_induction sextets bytes with
  | case1 => simp
  | case2 a => simp at h ⊢; omega
  | case3 a b => simp at h ⊢; omega
  | case4 a b c rest ih =>
    simp only [List.forall_mem_cons] at h ⊢
    obtain ⟨ha, hb, hc, hrest⟩ := h
    exact ⟨by omega, by omega, by omega, by omega, ih hrest⟩

theorem decodeValues_sextets {bytes : List Nat} (h : ∀ b ∈ bytes, b < 256) :
    decodeValues (sextets bytes) = some bytes := by
  fun_induction sextets bytes with
  | case1 => rfl
  | case2 a =>
    have ha : a < 256 := h a (by simp)
    simp only [decodeValues]
    rw [if_pos (by omega)]
    congr 2
    omega
  | case3 a b =>
    simp only [List.forall_mem_cons] at h
    obtain ⟨ha, hb, -⟩ := h
    simp only [decodeValues]
    rw [if_pos (by omega)]
    congr 2
    · omega
    · congr 1
      omega
  | case4 a b c rest ih =>
    simp only [List.forall_mem_cons] at h
    obtain ⟨ha, hb, hc, hrest⟩ := h
    simp only [decodeValues, ih hrest, Option.map_some]
    congr 2
    · omega
    · congr 1
      · omega
      · congr 1
        omega

theorem mapM_value?_symbol {ns : List Nat} (h : ∀ n ∈ ns, n < 64) :
    (ns.map symbol).mapM value? = some ns := by
  induction ns with
  | nil => rfl
  | cons n ns ih =>
    obtain ⟨hn, hns⟩ := List.forall_mem_cons.mp h
    simp [value?_symbol hn, ih hns]

theorem decode_encode {bytes : List Nat} (h : ∀ b ∈ bytes, b < 256) :
    decode (encode bytes) = some bytes := by
  rw [decode, encode_eq_map, mapM_value?_symbol (lt_of_mem_sextets h), Option.bind_some,
    decodeValues_sextets h]

theorem isBlank_of_mem_encode {bytes : List Nat} {c : Char} (h : c ∈ encode bytes) :
    isBlank c = false := by
  rw [encode_eq_map] at h
  obtain ⟨n, -, rfl⟩ := List.mem_map.mp h
  exact isBlank_symbol n

/-! ## What can be read -/

theorem symbol_of_value? {c : Char} {n : Nat} (h : value? c = some n) : symbol n = c ∧ n < 64 := by
  have hchar {m : Nat} (hm : m = c.toNat) : Char.ofNat m = c := by rw [hm, Char.ofNat_toNat]
  unfold value? at h
  dsimp only at h
  split at h
  · obtain rfl := Option.some.inj h
    rw [symbol, if_pos (by omega)]
    exact ⟨hchar (by omega), by omega⟩
  split at h
  · obtain rfl := Option.some.inj h
    rw [symbol, if_neg (by omega), if_pos (by omega)]
    exact ⟨hchar (by omega), by omega⟩
  split at h
  · obtain rfl := Option.some.inj h
    rw [symbol, if_neg (by omega), if_neg (by omega), if_pos (by omega)]
    exact ⟨hchar (by omega), by omega⟩
  split at h
  · obtain rfl := Option.some.inj h
    rename_i hc
    exact ⟨hc.symm, by decide⟩
  split at h
  · obtain rfl := Option.some.inj h
    rename_i hc
    exact ⟨hc.symm, by decide⟩
  · exact nomatch h

theorem mapM_value?_eq_some {cs : List Char} {ns : List Nat} (h : cs.mapM value? = some ns) :
    ns.map symbol = cs ∧ ∀ n ∈ ns, n < 64 := by
  induction cs generalizing ns with
  | nil =>
    obtain rfl : [] = ns := Option.some.inj h
    exact ⟨rfl, List.forall_mem_nil _⟩
  | cons c cs ih =>
    simp only [List.mapM_cons, bind, pure, Option.bind_eq_some_iff, Option.some.injEq] at h
    obtain ⟨n, hn, ms, hms, rfl⟩ := h
    obtain ⟨hsymbol, hlt⟩ := symbol_of_value? hn
    obtain ⟨hmap, hall⟩ := ih hms
    exact ⟨by rw [List.map_cons, hsymbol, hmap], List.forall_mem_cons.mpr ⟨hlt, hall⟩⟩

/-- What is filled up with zeros is read, so there is one way to write given bytes. -/
theorem sextets_of_decodeValues {ns bytes : List Nat} (hns : ∀ n ∈ ns, n < 64)
    (h : decodeValues ns = some bytes) : sextets bytes = ns ∧ ∀ b ∈ bytes, b < 256 := by
  fun_induction decodeValues ns generalizing bytes with
  | case1 =>
    obtain rfl := Option.some.inj h
    simp [sextets]
  | case2 => exact nomatch h
  | case3 w x hx =>
    obtain rfl := Option.some.inj h
    simp only [List.forall_mem_cons] at hns
    simp only [sextets, List.cons.injEq, and_true, List.forall_mem_cons, List.not_mem_nil,
      false_imp_iff, implies_true]
    omega
  | case4 => exact nomatch h
  | case5 w x y hy =>
    obtain rfl := Option.some.inj h
    simp only [List.forall_mem_cons] at hns
    simp only [sextets, List.cons.injEq, and_true, List.forall_mem_cons, List.not_mem_nil,
      false_imp_iff, implies_true]
    omega
  | case6 => exact nomatch h
  | case7 w x y z rest ih =>
    obtain ⟨later, hlater, rfl⟩ := Option.map_eq_some_iff.mp h
    simp only [List.forall_mem_cons] at hns
    obtain ⟨hsextets, hbytes⟩ := ih hns.2.2.2.2 hlater
    simp only [sextets, hsextets, List.cons.injEq, and_true, List.forall_mem_cons]
    exact ⟨by omega, by omega, by omega, by omega, hbytes⟩

theorem decode_eq_some_iff {cs : List Char} {bytes : List Nat} :
    decode cs = some bytes ↔ cs = encode bytes ∧ ∀ b ∈ bytes, b < 256 := by
  constructor
  · intro h
    obtain ⟨ns, hns, hvalues⟩ := Option.bind_eq_some_iff.mp h
    obtain ⟨hsymbols, hlt⟩ := mapM_value?_eq_some hns
    obtain ⟨hsextets, hbytes⟩ := sextets_of_decodeValues hlt hvalues
    exact ⟨by rw [encode_eq_map, hsextets, hsymbols], hbytes⟩
  · rintro ⟨rfl, hbytes⟩
    exact decode_encode hbytes

end Base64

end Namebook.Text
