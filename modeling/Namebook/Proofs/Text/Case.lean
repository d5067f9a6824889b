import Namebook.Proofs.Text.Lowercase
import Namebook.Proofs.Text.Normal

/-!
# Lower case again

The lower case of a letter is no letter that has another one, and it is not white space. The first
is known of whole spans of letters at once: where the lower case of a span comes to lie among the
letters of another, it lies between them. So a text in lower case stays as it is, and as nothing is
left to trim of a trimmed text in lower case, the normal form of a name is its own normal form.
-/

namespace Namebook.Text

namespace Case

variable {s t : Span} {n : Nat}

/-- The last code point of the lower case. -/
def Span.top (s : Span) : Nat := s.image + (s.last - s.first)

/-- The lower case of the one span has no letter of the other. Where their ranges meet, only every
second code point is a letter, and the others are lower case. -/
def Span.misses (s t : Span) : Bool :=
  Nat.blt s.top t.first || Nat.blt t.last s.image ||
    ((s.step == 2 || s.last == s.first) && t.step == 2 && (s.image + t.first) % 2 == 1)

theorem all_misses : (lowerSpans.all fun s => lowerSpans.all fun t => s.misses t) = true := by
  decide +kernel

theorem misses_of_mem (hs : s ∈ lowerSpans) (ht : t ∈ lowerSpans) : s.misses t = true :=
  List.all_eq_true.mp (List.all_eq_true.mp all_misses s hs) t ht

theorem covers_iff :
    s.covers n = true ↔ s.first ≤ n ∧ n ≤ s.last ∧ (n - s.first) % s.step = 0 := by
  simp [Span.covers, and_assoc]

theorem covers_image (h : s.misses t = true) (hn : s.covers n = true) :
    t.covers (s.image + (n - s.first)) = false := by
  obtain ⟨hfirst, hlast, hstep⟩ := covers_iff.mp hn
  simp only [Span.misses, Span.top, Bool.or_eq_true, Bool.and_eq_true, Nat.blt_eq, beq_iff_eq] at h
  rw [← Bool.not_eq_true, covers_iff]
  rintro ⟨hfirst', hlast', hstep'⟩
  rcases h with (h | h) | ⟨⟨hs, ht⟩, hodd⟩
  · omega
  · omega
  · rw [ht] at hstep'
    rcases hs with hs | hs
    · rw [hs] at hstep
      omega
    · omega

theorem lowerIn_of_uncovered {spans : List Span} (h : ∀ s ∈ spans, s.covers n = false) :
    lowerIn n spans = n := by
  induction spans with
  | nil => rfl
  | cons s spans ih =>
    obtain ⟨hs, hspans⟩ := List.forall_mem_cons.mp h
    rw [lowerIn, hs, ih hspans]
    simp

theorem lowerIn_cases (n : Nat) (spans : List Span) :
    lowerIn n spans = n ∨
      ∃ s ∈ spans, s.covers n = true ∧ lowerIn n spans = s.image + (n - s.first) := by
  induction spans with
  | nil => exact .inl rfl
  | cons s spans ih =>
    rw [lowerIn]
    by_cases hfirst : n < s.first
    · exact .inl (if_pos hfirst)
    · rw [if_neg hfirst]
      by_cases hcovers : s.covers n = true
      · exact .inr ⟨s, List.mem_cons_self, hcovers, if_pos hcovers⟩
      · rw [if_neg hcovers]
        refine ih.imp_right fun ⟨t, ht, himage⟩ => ⟨t, List.mem_cons_of_mem s ht, himage⟩

/-- The lower case of a span is neither white space nor the one letter that the table leaves out,
and its code points are characters. -/
theorem image_apart : ∀ s ∈ lowerSpans,
    (∀ b ∈ (0x130, 0x130) :: blankRanges, s.top < b.1 ∨ b.2 < s.image) ∧
      (s.top < 0xD800 ∨ 0xDFFF < s.image ∧ s.top < 0x110000) := by
  decide +kernel

/-- Neither white space nor a letter with another lower case. -/
def IsPlain (n : Nat) : Prop :=
  (∀ b ∈ (0x130, 0x130) :: blankRanges, n < b.1 ∨ b.2 < n) ∧ ∀ s ∈ lowerSpans, s.covers n = false

theorem isPlain_image (hs : s ∈ lowerSpans) (hn : s.covers n = true) :
    IsPlain (s.image + (n - s.first)) := by
  obtain ⟨hfirst, hlast, -⟩ := covers_iff.mp hn
  refine ⟨fun b hb => ?_, fun t ht => covers_image (misses_of_mem hs ht) hn⟩
  have hapart := (image_apart s hs).1 b hb
  rw [Span.top] at hapart
  omega

theorem toNat_ofNat_image (hs : s ∈ lowerSpans) (hn : s.covers n = true) :
    (Char.ofNat (s.image + (n - s.first))).toNat = s.image + (n - s.first) := by
  obtain ⟨hfirst, hlast, -⟩ := covers_iff.mp hn
  obtain ⟨-, hvalid⟩ := image_apart s hs
  rw [Span.top] at hvalid
  have hchar : (s.image + (n - s.first)).isValidChar := by
    rw [Nat.isValidChar]
    omega
  exact toNat_ofNat_of_isValidChar hchar

/-- The two characters that the one letter left out becomes, and the small sigmas. -/
theorem isPlain_special : ∀ n ∈ [0x69, 0x307, 0x3C2, 0x3C3], IsPlain n := by
  unfold IsPlain
  decide +kernel

theorem exists_covers_sigma : ∃ s ∈ lowerSpans, s.covers 'Σ'.toNat = true := by decide +kernel

end Case

/-! ## Characters -/

/-- The character is its own lower case, whatever stands around it. -/
def IsLowered (c : Char) : Prop := lowerChar c = [c] ∧ c ≠ 'Σ'

variable {c d : Char}

theorem isLowered_of_isPlain (h : Case.IsPlain c.toNat) : IsLowered c := by
  obtain ⟨houtside, huncovered⟩ := h
  constructor
  · have hdotted := houtside (0x130, 0x130) List.mem_cons_self
    rw [lowerChar, if_neg (by omega), Case.lowerCode, Case.lowerIn_of_uncovered huncovered,
      Char.ofNat_toNat]
  · rintro rfl
    obtain ⟨s, hs, hcovers⟩ := Case.exists_covers_sigma
    exact Bool.false_ne_true ((huncovered s hs).symm.trans hcovers)

theorem isBlank_of_isPlain (h : Case.IsPlain c.toNat) : isBlank c = false := by
  rw [← Bool.not_eq_true]
  intro hblank
  obtain ⟨b, hb, hfirst, hlast⟩ := exists_blankRange hblank
  have houtside := h.1 b (List.mem_cons_of_mem _ hb)
  omega

/-- A character stays as it is, or it becomes something that has no other lower case. -/
theorem lowerChar_cases (c : Char) :
    lowerChar c = [c] ∨ ∀ d ∈ lowerChar c, Case.IsPlain d.toNat := by
  by_cases h : c.toNat = 0x130
  · right
    rw [lowerChar, if_pos h]
    simp [Case.isPlain_special]
  · rw [lowerChar, if_neg h, Case.lowerCode]
    rcases Case.lowerIn_cases c.toNat Case.lowerSpans with hsame | ⟨s, hs, hcovers, himage⟩
    · rw [hsame, Char.ofNat_toNat]
      exact .inl rfl
    · rw [himage, List.forall_mem_singleton, Case.toNat_ofNat_image hs hcovers]
      exact .inr (Case.isPlain_image hs hcovers)

theorem isLowered_of_mem_lowerChar (hc : c ≠ 'Σ') (hd : d ∈ lowerChar c) :
    IsLowered d ∧ (isBlank c = false → isBlank d = false) := by
  rcases lowerChar_cases c with hsame | hplain
  · rw [hsame, List.mem_singleton] at hd
    rw [hd]
    exact ⟨⟨hsame, hc⟩, id⟩
  · exact ⟨isLowered_of_isPlain (hplain d hd), fun _ => isBlank_of_isPlain (hplain d hd)⟩

theorem isPlain_lowerSigma (before after : List Char) :
    Case.IsPlain (lowerSigma before after).toNat := by
  rw [lowerSigma]
  split
  · exact Case.isPlain_special _ (by decide)
  · exact Case.isPlain_special _ (by decide)

/-! ## Texts -/

variable {before cs : List Char}

/-- What the first character of a text becomes. -/
theorem exists_lowercaseFrom_cons (before : List Char) (c : Char) (cs : List Char) :
    ∃ ds, lowercaseFrom before (c :: cs) = ds ++ lowercaseFrom (c :: before) cs ∧ ds ≠ [] ∧
      ∀ d ∈ ds, IsLowered d ∧ (isBlank c = false → isBlank d = false) := by
  refine ⟨_, rfl, ?_⟩
  by_cases hc : c = 'Σ'
  · have hplain := isPlain_lowerSigma before cs
    rw [if_pos hc]
    simp [isLowered_of_isPlain hplain, isBlank_of_isPlain hplain]
  · rw [if_neg hc]
    exact ⟨lowerChar_ne_nil c, fun d hd => isLowered_of_mem_lowerChar hc hd⟩

theorem isLowered_of_mem_lowercaseFrom (h : d ∈ lowercaseFrom before cs) : IsLowered d := by
  induction cs generalizing before with
  | nil => simp [lowercaseFrom] at h
  | cons c cs ih =>
    obtain ⟨ds, hds, -, hlowered⟩ := exists_lowercaseFrom_cons before c cs
    rw [hds, List.mem_append] at h
    exact h.elim (fun hd => (hlowered d hd).1) ih

theorem lowercaseFrom_of_isLowered (h : ∀ c ∈ cs, IsLowered c) : lowercaseFrom before cs = cs := by
  induction cs generalizing before with
  | nil => rfl
  | cons c cs ih =>
    obtain ⟨⟨hchar, hsigma⟩, hcs⟩ := List.forall_mem_cons.mp h
    rw [lowercaseFrom, if_neg hsigma, hchar, ih hcs]
    rfl

theorem lowercase_lowercase (s : String) : lowercase (lowercase s) = lowercase s := by
  have hlowered : ∀ c ∈ lowercaseChars s.toList, IsLowered c :=
    fun _ => isLowered_of_mem_lowercaseFrom
  rw [lowercase, lowercase, String.toList_ofList, lowercaseChars,
    lowercaseFrom_of_isLowered hlowered]

/-- White space at the ends of a text in lower case has been there before. -/
theorem isTrimmed_lowercase {s : String} (h : IsTrimmed s) : IsTrimmed (lowercase s) := by
  intro d hd
  rw [lowercase, String.toList_ofList, lowercaseChars] at hd
  rcases hd with hfirst | hlast
  · cases hs : s.toList with
    | nil => simp [hs, lowercaseFrom] at hfirst
    | cons c cs =>
      obtain ⟨ds, hds, hne, hblank⟩ := exists_lowercaseFrom_cons [] c cs
      rw [hs, hds, List.head?_append_of_ne_nil _ hne] at hfirst
      exact (hblank d (List.mem_of_head? hfirst)).2 (h c (.inl (by simp [hs])))
  · rcases List.eq_nil_or_concat s.toList with hs | ⟨cs, c, hs⟩
    · simp [hs, lowercaseFrom] at hlast
    · obtain ⟨ds, hds, hne, hblank⟩ := exists_lowercaseFrom_cons (cs.reverse ++ []) c []
      rw [hs, List.concat_eq_append, lowercaseFrom_append, hds, lowercaseFrom, List.append_nil,
        List.getLast?_append_of_ne_nil _ hne] at hlast
      exact (hblank d (List.mem_of_getLast? hlast)).2 (h c (.inr (by simp [hs])))

theorem trim_normalizeName (s : String) : trim (normalizeName s) = normalizeName s := by
  rw [← lowercase_trim]
  exact trim_of_isTrimmed (isTrimmed_lowercase (isTrimmed_trim s))

theorem lowercase_normalizeName (s : String) : lowercase (normalizeName s) = normalizeName s := by
  rw [← lowercase_trim, lowercase_lowercase]

/-- The normal form of a name is its own normal form. -/
theorem normalizeName_normalizeName (s : String) :
    normalizeName (normalizeName s) = normalizeName s := by
  rw [← lowercase_trim (normalizeName s), trim_normalizeName, lowercase_normalizeName]

end Namebook.Text
