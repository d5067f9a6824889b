import Mathlib.Data.List.Infix
import Namebook.Proofs.Text.Blank

/-!
# The lower case of a part

Only a capital sigma looks at what stands around it when it is put into lower case, and white space
at the ends of a text is nothing it sees. So the normal form of a part of a name stands in the
normal form of the name if its sigmas end no word in the one that they do not end in the other. If
the two small sigmas count as one letter it always stands there.
-/

namespace Namebook.Text

/-- The lower case of a part of a text. `before` is the text before it, backwards. -/
def lowercaseAmid (before after : List Char) : List Char → List Char
  | [] => []
  | c :: cs =>
    (if c = 'Σ' then [lowerSigma before (cs ++ after)] else lowerChar c) ++
      lowercaseAmid (c :: before) after cs

/-- The capital sigmas of the part have the same lower case in the text as in the part alone. -/
def KeepsSigmas (before part after : List Char) : Prop :=
  ∀ cs ds, part = cs ++ 'Σ' :: ds →
    lowerSigma (cs.reverse ++ before.reverse) (ds ++ after) = lowerSigma cs.reverse ds

/-- Makes one letter of the two small sigmas. -/
def plainSigma (c : Char) : Char := if c = 'ς' then 'σ' else c

variable {before after : List Char}

/-! ## A part in its place -/

theorem lowercaseFrom_append (before cs after : List Char) :
    lowercaseFrom before (cs ++ after) =
      lowercaseAmid before after cs ++ lowercaseFrom (cs.reverse ++ before) after := by
  induction cs generalizing before with
  | nil => simp [lowercaseAmid]
  | cons c cs ih => simp [lowercaseFrom, lowercaseAmid, ih]

theorem lowercaseAmid_nil (before cs : List Char) :
    lowercaseAmid before [] cs = lowercaseFrom before cs := by
  induction cs generalizing before with
  | nil => rfl
  | cons c cs ih => simp [lowercaseFrom, lowercaseAmid, ih]

theorem lowercaseAmid_occurs (before part after : List Char) :
    lowercaseAmid before.reverse after part <:+: lowercaseChars (before ++ part ++ after) := by
  rw [lowercaseChars, List.append_assoc, lowercaseFrom_append, lowercaseFrom_append,
    List.append_nil, ← List.append_assoc]
  exact List.infix_append _ _ _

theorem map_lowerSigma (before after : List Char) : plainSigma (lowerSigma before after) = 'σ' := by
  simp only [plainSigma, lowerSigma]
  split <;> simp

/-- Apart from sigmas the place of a part does not matter. -/
theorem map_lowercaseAmid (before after before' after' part : List Char) :
    (lowercaseAmid before after part).map plainSigma =
      (lowercaseAmid before' after' part).map plainSigma := by
  induction part generalizing before before' with
  | nil => rfl
  | cons c part ih =>
    simp only [lowercaseAmid, List.map_append, ih (c :: before) (c :: before')]
    by_cases hc : c = 'Σ' <;> simp [hc, map_lowerSigma]

theorem lowercaseAmid_eq_lowercaseFrom_iff (passed before part after : List Char) :
    lowercaseAmid (passed ++ before) after part = lowercaseFrom passed part ↔
      ∀ cs ds, part = cs ++ 'Σ' :: ds →
        lowerSigma (cs.reverse ++ passed ++ before) (ds ++ after) =
          lowerSigma (cs.reverse ++ passed) ds := by
  induction part generalizing passed with
  | nil => simp [lowercaseAmid, lowercaseFrom]
  | cons c part ih =>
    -- The first character agrees unless it is a sigma, and the others do if their sigmas do.
    have hfirst :
        lowercaseAmid (passed ++ before) after (c :: part) = lowercaseFrom passed (c :: part) ↔
        (c = 'Σ' → lowerSigma (passed ++ before) (part ++ after) = lowerSigma passed part) ∧
          lowercaseAmid (c :: passed ++ before) after part = lowercaseFrom (c :: passed) part := by
      rw [lowercaseAmid, lowercaseFrom, List.cons_append]
      by_cases hc : c = 'Σ' <;> simp [hc]
    rw [hfirst, ih]
    constructor
    · rintro ⟨hsigma, hrest⟩ cs ds he
      cases cs with
      | nil =>
        obtain ⟨rfl, rfl⟩ := List.cons.inj he
        exact hsigma rfl
      | cons d cs =>
        obtain ⟨rfl, hpart⟩ := List.cons.inj he
        simpa using hrest cs ds hpart
    · intro h
      refine ⟨fun hc => h [] part (by rw [hc, List.nil_append]), fun cs ds he => ?_⟩
      simpa using h (c :: cs) ds (by rw [he, List.cons_append])

theorem keepsSigmas_iff {part : List Char} :
    KeepsSigmas before part after ↔
      lowercaseAmid before.reverse after part = lowercaseChars part := by
  rw [← List.nil_append before.reverse, lowercaseChars, lowercaseAmid_eq_lowercaseFrom_iff,
    KeepsSigmas]
  simp

instance (before part after : List Char) : Decidable (KeepsSigmas before part after) :=
  decidable_of_iff _ keepsSigmas_iff.symm

theorem keepsSigmas_of_notMem {part : List Char} (h : 'Σ' ∉ part) (before after : List Char) :
    KeepsSigmas before part after := by
  intro cs ds he
  exact absurd (by simp [he]) h

/-! ## White space around a text -/

/-- The first and the last code points of the runs of white space. -/
def blankRanges : List (Nat × Nat) :=
  [(9, 13), (0x20, 0x20), (0x85, 0x85), (0xA0, 0xA0), (0x1680, 0x1680), (0x2000, 0x200A),
    (0x2028, 0x2029), (0x202F, 0x202F), (0x205F, 0x205F), (0x3000, 0x3000)]

theorem exists_blankRange {c : Char} (h : isBlank c = true) :
    ∃ b ∈ blankRanges, b.1 ≤ c.toNat ∧ c.toNat ≤ b.2 := by
  simp only [isBlank, Bool.or_eq_true, Bool.and_eq_true, decide_eq_true_eq, beq_iff_eq] at h
  simp only [blankRanges, List.exists_mem_cons_iff, List.not_mem_nil, false_and, exists_false,
    or_false]
  omega

theorem blank_apart : ∀ r ∈ Case.casedRanges ++ Case.ignorableRanges, ∀ b ∈ blankRanges,
    r.2 < b.1 ∨ b.2 < r.1 := by
  decide +kernel

/-- A sigma that looks for the letters of its word does not look past white space. -/
theorem blank_ends_word {c : Char} (h : isBlank c = true) :
    Case.isCased c = false ∧ Case.isIgnorable c = false := by
  obtain ⟨b, hb, hfirst, hlast⟩ := exists_blankRange h
  have houtside {r : Nat × Nat} (hr : r ∈ Case.casedRanges ++ Case.ignorableRanges) :
      ¬(r.1 ≤ c.toNat ∧ c.toNat ≤ r.2) := by
    have hapart := blank_apart r hr b hb
    omega
  simp only [Case.isCased, Case.isIgnorable, List.any_eq_false, Bool.and_eq_true, decide_eq_true_eq]
  exact ⟨fun r hr => houtside (List.mem_append_left _ hr),
    fun r hr => houtside (List.mem_append_right _ hr)⟩

theorem meetsCased_append_blank {blanks : List Char} (h : ∀ c ∈ blanks, isBlank c = true)
    (cs : List Char) : meetsCased (cs ++ blanks) = meetsCased cs := by
  rw [meetsCased, meetsCased, List.dropWhile_append]
  cases cs.dropWhile Case.isIgnorable with
  | cons c cs => rfl
  | nil =>
    cases blanks with
    | nil => rfl
    | cons b blanks =>
      obtain ⟨hcased, hignorable⟩ := blank_ends_word (h b List.mem_cons_self)
      simp [hcased, hignorable]

theorem lowerSigma_append_blank {start rest : List Char} (hstart : ∀ c ∈ start, isBlank c = true)
    (hrest : ∀ c ∈ rest, isBlank c = true) (before after : List Char) :
    lowerSigma (before ++ start) (after ++ rest) = lowerSigma before after := by
  rw [lowerSigma, meetsCased_append_blank hstart, meetsCased_append_blank hrest, lowerSigma]

/-- The sigmas of a part that is trimmed have the white space that is cut off around them. -/
theorem KeepsSigmas.of_padded {part start rest outer tail : List Char}
    (h : KeepsSigmas before (start ++ part ++ rest) after)
    (hstart : ∀ c ∈ start, isBlank c = true) (hrest : ∀ c ∈ rest, isBlank c = true)
    (houter : ∀ c ∈ outer, isBlank c = true) (htail : ∀ c ∈ tail, isBlank c = true)
    {before' after' : List Char} (hbefore : before ++ start = outer ++ before')
    (hafter : rest ++ after = after' ++ tail) : KeepsSigmas before' part after' := by
  have hreverse {blanks : List Char} (hb : ∀ c ∈ blanks, isBlank c = true) :
      ∀ c ∈ blanks.reverse, isBlank c = true := fun c hc => hb c (List.mem_reverse.mp hc)
  intro cs ds he
  have hsigma := h (start ++ cs) (ds ++ rest) (by simp [he])
  calc lowerSigma (cs.reverse ++ before'.reverse) (ds ++ after')
      = lowerSigma (cs.reverse ++ before'.reverse ++ outer.reverse) (ds ++ after' ++ tail) :=
        (lowerSigma_append_blank (hreverse houter) htail _ _).symm
    _ = lowerSigma (cs.reverse ++ (before ++ start).reverse) (ds ++ (rest ++ after)) := by
        rw [hbefore, hafter, List.reverse_append, ← List.append_assoc, ← List.append_assoc]
    _ = lowerSigma (cs.reverse ++ start.reverse) (ds ++ rest) := by simpa using hsigma
    _ = lowerSigma cs.reverse ds := lowerSigma_append_blank (hreverse hstart) hrest _ _

/-- What is left of a part stands in what is left of the text. -/
theorem exists_place {s part : String} (he : s.toList = before ++ part.toList ++ after) :
    ∃ before' after', (trim s).toList = before' ++ (trim part).toList ++ after' ∧
      (KeepsSigmas before part.toList after → KeepsSigmas before' (trim part).toList after') := by
  by_cases hne : trim part = ""
  · refine ⟨(trim s).toList, [], by simp [hne], fun _ => ?_⟩
    exact keepsSigmas_of_notMem (by simp [hne]) _ _
  obtain ⟨start, rest, hstart, hrest, hpart⟩ := exists_padding part.toList
  obtain ⟨outer, houter, hbefore⟩ := exists_trimStart (before ++ start)
  obtain ⟨tail, htail, hafter⟩ := exists_trimEnd (rest ++ after)
  have htrim : trimChars part.toList = (trim part).toList := by simp [trim]
  rw [htrim] at hpart
  refine ⟨trimStart (before ++ start), trimEnd (rest ++ after), ?_, fun h => ?_⟩
  · rw [← trimChars_append_trimmed (isTrimmed_trim part) hne, trim, String.toList_ofList, he, hpart]
    simp
  · rw [hpart] at h
    exact h.of_padded hstart hrest houter htail hbefore hafter

/-! ## Normal forms of names -/

theorem toList_normalizeName (s : String) :
    (normalizeName s).toList = lowercaseChars (trim s).toList := by
  simp [normalizeName, trim]

theorem normalizeName_occurs {s part : String} (he : s.toList = before ++ part.toList ++ after)
    (h : KeepsSigmas before part.toList after) :
    (normalizeName part).toList <:+: (normalizeName s).toList := by
  obtain ⟨before', after', hplace, hkeeps⟩ := exists_place he
  rw [toList_normalizeName, toList_normalizeName, hplace, ← keepsSigmas_iff.mp (hkeeps h)]
  exact lowercaseAmid_occurs before' (trim part).toList after'

/-- But for the two small sigmas the normal form of a part stands in that of the whole. -/
theorem map_normalizeName_occurs {s part : String} (h : part.toList <:+: s.toList) :
    (normalizeName part).toList.map plainSigma <:+: (normalizeName s).toList.map plainSigma := by
  obtain ⟨before, after, he⟩ := h
  obtain ⟨before', after', hplace, -⟩ := exists_place he.symm
  have hsame : (lowercaseChars (trim part).toList).map plainSigma =
      (lowercaseAmid before'.reverse after' (trim part).toList).map plainSigma := by
    rw [lowercaseChars, ← lowercaseAmid_nil, map_lowercaseAmid]
  rw [toList_normalizeName, toList_normalizeName, hplace, hsame]
  exact (lowercaseAmid_occurs before' (trim part).toList after').map plainSigma

end Namebook.Text
