import Mathlib.Algebra.Group.Nat.Defs
import Namebook.Page
import Namebook.Proofs.Text.Base64
import Namebook.Proofs.Text.Blank
import Namebook.Proofs.Text.Decimal
import Namebook.Proofs.Text.Utf8

/-!
# Walking through pages

One who follows the token of each page to the next one meets every record from the first page on,
once and in order. A walk ends because each page but the last is full, so that the offset grows; the
tokens on the way hold offsets in the list, and so are read as they were written.
-/

namespace Namebook.Page

/-! ## Tokens -/

theorem ascii_of_mem_digits {n : Nat} {c : Char} (h : c ∈ Text.digits n) : c.toNat < 0x80 := by
  have hc := Text.isDigit_of_mem_digits h
  rw [Char.isDigit, Bool.and_eq_true, decide_eq_true_eq, decide_eq_true_eq] at hc
  exact Nat.lt_of_le_of_lt hc.2 (by decide)

theorem offset?_token {n : Nat} (h : n < 2 ^ 64) : offset? (token n) = some n := by
  have hascii : ∀ c ∈ Text.digits n, c.toNat < 0x80 := fun c => ascii_of_mem_digits
  have hbytes : ∀ b ∈ Text.Utf8.encode (Text.digits n), b < 256 := by
    rw [Text.Utf8.encode_of_ascii hascii]
    intro b hb
    obtain ⟨c, hc, rfl⟩ := List.mem_map.mp hb
    exact Nat.lt_trans (hascii c hc) (by decide)
  have hn : n ≤ Text.maxWord := Nat.le_of_lt_succ h
  rw [offset?, token, String.toList_ofList,
    Text.trimChars_of_noBlank fun c => Text.Base64.isBlank_of_mem_encode,
    Text.Base64.decode_encode hbytes, Option.bind_some,
    Text.Utf8.decode_encode_of_ascii hascii, Text.natUpTo?_digits hn]

theorem token_ne_empty {n : Nat} (h : n < 2 ^ 64) : token n ≠ "" := by
  intro he
  have hn : offset? "" = none := by
    rw [offset?]
    change Text.natUpTo? Text.maxWord (Text.Utf8.decode []) = none
    rw [Text.Utf8.decode]
    rfl
  rw [← he, offset?_token h] at hn
  exact Option.some_ne_none n hn

theorem start_token {n total : Nat} (h : n < total) (ht : total < 2 ^ 64) :
    start (token n) total = n := by
  rw [start, offset?_token (Nat.lt_trans h ht), Option.filter_some, if_pos (by simpa using h),
    Option.getD_some]

theorem start_eq_zero_or_lt (token : String) (total : Nat) :
    start token total = 0 ∨ start token total < total := by
  unfold start
  cases h : (offset? token).filter (· < total) with
  | none => exact .inl rfl
  | some n => exact .inr (by simpa using (Option.filter_eq_some_iff.mp h).2)

theorem start_le (token : String) (total : Nat) : start token total ≤ total := by
  rcases start_eq_zero_or_lt token total with h | h <;> omega

/-! ## Pages -/

section Pages

variable {all : List Record} {size : Nat} {token : String}

theorem of_zero (all : List Record) (token : String) :
    Page.of all 0 token = ⟨all, "", all.length⟩ := rfl

/-- A page with more behind it is full, and names the offset after its last record. -/
theorem of_eq_more (hs : 0 < size) (h : start token all.length + size < all.length) :
    Page.of all size token =
      ⟨(all.drop (start token all.length)).take size,
        Page.token (start token all.length + size), all.length⟩ := by
  have hm : min (start token all.length + size) all.length = start token all.length + size :=
    Nat.min_eq_left (Nat.le_of_lt h)
  rw [Page.of, if_neg (Nat.ne_of_gt hs)]
  dsimp only
  rw [hm, if_pos h, Nat.add_sub_cancel_left]

/-- A page that reaches the end of the list names no other. -/
theorem of_eq_last (hs : 0 < size) (h : all.length ≤ start token all.length + size) :
    Page.of all size token = ⟨all.drop (start token all.length), "", all.length⟩ := by
  rw [Page.of, if_neg (Nat.ne_of_gt hs)]
  dsimp only
  rw [Nat.min_eq_right h, if_neg (Nat.lt_irrefl _), List.take_of_length_le (by simp)]

end Pages

/-- The pages that one gets who begins with a token and takes the token of each page to the next
one, until there is none. -/
inductive Walk (all : List Record) (size : Nat) : String → List Page → Prop where
  | last {token : String} (h : (Page.of all size token).next = "") :
      Walk all size token [Page.of all size token]
  | more {token : String} {later : List Page} (h : (Page.of all size token).next ≠ "")
      (rest : Walk all size (Page.of all size token).next later) :
      Walk all size token (Page.of all size token :: later)

namespace Walk

variable {all : List Record} {size : Nat} {token : String} {pages : List Page}

theorem ne_nil (h : Walk all size token pages) : pages ≠ [] := by
  cases h <;> simp

/-- Nobody who follows the tokens has a choice. -/
theorem unique {others : List Page} (h : Walk all size token pages)
    (h' : Walk all size token others) : others = pages := by
  induction h generalizing others with
  | last hl =>
    cases h' with
    | last _ => rfl
    | more hm _ => exact absurd hl hm
  | more hm _ ih =>
    cases h' with
    | last hl => exact absurd hl hm
    | more _ rest' => rw [ih rest']

theorem total_eq (h : Walk all size token pages) : ∀ p ∈ pages, p.total = all.length := by
  have ht (token : String) : (Page.of all size token).total = all.length := by
    unfold Page.of
    split <;> rfl
  induction h with
  | @last token _ => simp [ht token]
  | @more token _ _ _ ih => simpa [ht token] using ih

variable (hs : 0 < size) (hall : all.length < 2 ^ 64)
include hs hall

/-- From the page of a token one goes on to an offset that is further by a full page, or it is the
last page. -/
theorem next_cases (token : String) :
    (Page.of all size token).next = "" ∧
        (Page.of all size token).records = all.drop (start token all.length) ∧
        all.length ≤ start token all.length + size ∨
      (Page.of all size token).next ≠ "" ∧
        (Page.of all size token).records = (all.drop (start token all.length)).take size ∧
        start (Page.of all size token).next all.length = start token all.length + size ∧
        start token all.length + size < all.length := by
  by_cases h : start token all.length + size < all.length
  · have hlt : start token all.length + size < 2 ^ 64 := Nat.lt_trans h hall
    rw [of_eq_more hs h]
    exact .inr ⟨token_ne_empty hlt, rfl, start_token h hall, h⟩
  · have hle := Nat.le_of_not_lt h
    rw [of_eq_last hs hle]
    exact .inl ⟨rfl, rfl, hle⟩

/-- Every walk comes to an end, as the offset grows with each page. -/
theorem exists_walk (token : String) : ∃ pages, Walk all size token pages := by
  induction hn : all.length - start token all.length using Nat.strongRecOn
    generalizing token with
  | _ n ih =>
    rcases next_cases hs hall token with ⟨hl, -⟩ | ⟨hm, -, hstart, hlt⟩
    · exact ⟨_, .last hl⟩
    · obtain ⟨later, hw⟩ := ih _ (by omega) (Page.of all size token).next rfl
      exact ⟨_, .more hm hw⟩

theorem length_le (h : Walk all size token pages) : ∀ p ∈ pages, p.records.length ≤ size := by
  have hle (token : String) : (Page.of all size token).records.length ≤ size := by
    rcases next_cases hs hall token with ⟨-, hr, he⟩ | ⟨-, hr, -, -⟩
    · rw [hr, List.length_drop]
      omega
    · rw [hr]
      exact List.length_take_le _ _
  induction h with
  | @last token _ => simpa using hle token
  | @more token _ _ _ ih => simpa using ⟨hle token, ih⟩

theorem full_of_mem_dropLast (h : Walk all size token pages) :
    ∀ p ∈ pages.dropLast, p.records.length = size := by
  induction h with
  | last _ => simp
  | @more token later hm rest ih =>
    rw [List.dropLast_cons_of_ne_nil (rest.ne_nil)]
    rcases next_cases hs hall token with ⟨hl, -, -⟩ | ⟨-, hr, -, hlt⟩
    · exact absurd hl hm
    · refine List.forall_mem_cons.mpr ⟨?_, ih⟩
      rw [hr, List.length_take, List.length_drop]
      omega

/-- The pages together are what the list holds from the first page on. -/
theorem flatMap_records (h : Walk all size token pages) :
    pages.flatMap Page.records = all.drop (start token all.length) := by
  induction h with
  | @last token hl =>
    rcases next_cases hs hall token with ⟨-, hr, -⟩ | ⟨hm, -, -, -⟩
    · rw [List.flatMap_singleton, hr]
    · exact absurd hl hm
  | @more token later hm rest ih =>
    rcases next_cases hs hall token with ⟨hl, -, -⟩ | ⟨-, hr, hstart, -⟩
    · exact absurd hl hm
    · rw [List.flatMap_cons, hr, ih, hstart, ← List.drop_drop, List.take_append_drop]

end Walk

/-! ## Words of 64 bits -/

/-- The sum of two words, or the largest word if that is less. -/
def sumWord (a b : UInt64) : UInt64 :=
  if a + b < a then UInt64.ofNat Text.maxWord else a + b

/-- Where a page ends that begins at an offset, reckoned in words. -/
def stopWord (offset size total : UInt64) : UInt64 := min (sumWord offset size) total

theorem toNat_sumWord (a b : UInt64) :
    (sumWord a b).toNat = min (a.toNat + b.toNat) Text.maxWord := by
  have ha := a.toNat_lt
  have hb := b.toNat_lt
  unfold sumWord
  split
  · rename_i h
    rw [UInt64.lt_iff_toNat_lt, UInt64.toNat_add] at h
    have : (UInt64.ofNat Text.maxWord).toNat = Text.maxWord := rfl
    rw [this]
    simp only [Text.maxWord, UInt64.size] at *
    omega
  · rename_i h
    rw [UInt64.lt_iff_toNat_lt, UInt64.toNat_add] at h
    rw [UInt64.toNat_add]
    simp only [Text.maxWord, UInt64.size] at *
    omega

theorem toNat_stopWord (offset size total : UInt64) :
    (stopWord offset size total).toNat = min (offset.toNat + size.toNat) total.toNat := by
  have ht := total.toNat_lt
  have hs := toNat_sumWord offset size
  change (if sumWord offset size ≤ total then sumWord offset size else total).toNat = _
  split
  · rename_i h
    rw [UInt64.le_iff_toNat_le] at h
    simp only [Text.maxWord, UInt64.size] at hs
    omega
  · rename_i h
    rw [UInt64.le_iff_toNat_le] at h
    simp only [Text.maxWord, UInt64.size] at hs
    omega

/-- No page is reckoned otherwise in words: the offset is not behind the end, and neither the sum
nor the difference is cut. -/
theorem of_eq_words {all : List Record} {size : Nat} (hs : 0 < size) (hsize : size < 2 ^ 64)
    (hall : all.length < 2 ^ 64) (token : String) :
    let offset := UInt64.ofNat (start token all.length)
    let stop := stopWord offset (.ofNat size) (.ofNat all.length)
    offset ≤ stop ∧
      Page.of all size token =
        ⟨(all.drop offset.toNat).take (stop - offset).toNat,
          if stop < .ofNat all.length then Page.token stop.toNat else "", all.length⟩ := by
  intro offset stop
  have hle := start_le token all.length
  have hoffset : offset.toNat = start token all.length :=
    UInt64.toNat_ofNat_of_lt' (Nat.lt_of_le_of_lt hle hall)
  have htotal : (UInt64.ofNat all.length).toNat = all.length := UInt64.toNat_ofNat_of_lt' hall
  have hstop : stop.toNat = min (start token all.length + size) all.length := by
    rw [toNat_stopWord, hoffset, htotal, UInt64.toNat_ofNat_of_lt' hsize]
  have hos : offset ≤ stop := by
    rw [UInt64.le_iff_toNat_le, hoffset, hstop]
    omega
  refine ⟨hos, ?_⟩
  rw [UInt64.toNat_sub_of_le _ _ hos, hoffset, hstop, Page.of, if_neg (Nat.ne_of_gt hs)]
  simp only [UInt64.lt_iff_toNat_lt, hstop, htotal]

/-- A walk through the pages of a list from any token gives each record from the first page on once
and in order, in full pages up to the last one, and comes to an end. The first page begins at the
offset of the token if that is in the list, and at the start if not. Tokens hold every offset of 64
bits, all offsets are exact in words of that size, and size zero gives the whole list at once. -/
theorem walk_from (all : List Record) (size : Nat) (token : String)
    (hall : all.length < 2 ^ 64) (hsize : size < 2 ^ 64) :
    let first := match offset? token with
      | some n => if n < all.length then n else 0
      | none => 0
    (∀ n < 2 ^ 64, offset? (Page.token n) = some n) ∧
      Page.of all 0 token = ⟨all, "", all.length⟩ ∧
      (0 < size →
        (∃ pages, Walk all size token pages ∧
          (∀ others, Walk all size token others → others = pages) ∧
          (∀ p ∈ pages, p.total = all.length ∧ p.records.length ≤ size) ∧
          (∀ p ∈ pages.dropLast, p.records.length = size) ∧
          pages.flatMap Page.records = all.drop first) ∧
        ∀ t : String,
          let offset := UInt64.ofNat (start t all.length)
          let stop := stopWord offset (.ofNat size) (.ofNat all.length)
          offset ≤ stop ∧
            Page.of all size t =
              ⟨(all.drop offset.toNat).take (stop - offset).toNat,
                if stop < .ofNat all.length then Page.token stop.toNat else "", all.length⟩) := by
  intro first
  have hfirst : start token all.length = first := by
    unfold start first
    cases offset? token with
    | none => rfl
    | some n =>
      by_cases h : n < all.length <;> simp [Option.filter, h]
  refine ⟨fun n => offset?_token, of_zero all token, fun hs => ⟨?_, of_eq_words hs hsize hall⟩⟩
  obtain ⟨pages, hw⟩ := Walk.exists_walk hs hall token
  refine ⟨pages, hw, fun others => hw.unique, fun p hp => ?_, hw.full_of_mem_dropLast hs hall, ?_⟩
  · exact ⟨hw.total_eq p hp, hw.length_le hs hall p hp⟩
  · rw [hw.flatMap_records hs hall, hfirst]

/-- Two pages of three records, although the token was never given out. -/
theorem walk_from_malformed :
    let all := ["a", "b", "c"].map fun name => Record.named name .manual .epoch
    all.length < 2 ^ 64 ∧ 2 < 2 ^ 64 ∧ offset? "%" = none ∧
      ∃ pages, Walk all 2 "%" pages ∧ (∀ p ∈ pages.dropLast, p.records.length = 2) ∧
        pages.flatMap Page.records = all := by
  intro all
  have hall : all.length < 2 ^ 64 := by decide
  have hnone : offset? "%" = none := rfl
  obtain ⟨-, -, hwalk⟩ := walk_from all 2 "%" hall (by decide)
  obtain ⟨⟨pages, hw, -, -, hfull, hrecords⟩, -⟩ := hwalk (by decide)
  rw [hnone] at hrecords
  exact ⟨hall, by decide, hnone, pages, hw, hfull, hrecords⟩

end Namebook.Page
