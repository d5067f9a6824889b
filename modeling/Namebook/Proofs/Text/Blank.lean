import Mathlib.Data.List.DropRight
import Namebook.Text.Normal

/-!
# Trimming

Trimming takes away white space at both ends and nothing else, and it leaves nothing to trim. So it
does not matter how much white space is put around a text. Of a name that is not blank something is
left, and its lower case is not empty either.
-/

namespace Namebook.Text

theorem trimChars_of_noBlank {cs : List Char} (h : ∀ c ∈ cs, isBlank c = false) :
    trimChars cs = cs := by
  have hdrop (ds : List Char) (hd : ∀ c ∈ ds, isBlank c = false) : ds.dropWhile isBlank = ds := by
    cases ds with
    | nil => rfl
    | cons d ds => exact List.dropWhile_cons_of_neg (by simp [hd d List.mem_cons_self])
  have hr : ∀ c ∈ cs.reverse, isBlank c = false := fun c hc => h c (List.mem_reverse.mp hc)
  rw [trimChars, trimStart, hdrop cs h, trimEnd, hdrop _ hr, List.reverse_reverse]

theorem trimStart_trimChars (cs : List Char) : trimStart (trimChars cs) = trimChars cs := by
  rw [trimStart, List.dropWhile_eq_self_iff]
  intro hlength hblank
  -- The end is cut off a text whose first character is not blank, and that character stays.
  have hfirst : trimChars cs <+: trimStart cs := List.rdropWhile_prefix isBlank (trimStart cs)
  have hpos : 0 < (trimStart cs).length := Nat.lt_of_lt_of_le hlength hfirst.length_le
  rw [hfirst.getElem] at hblank
  exact List.dropWhile_get_zero_not isBlank cs hpos hblank

theorem trimEnd_trimChars (cs : List Char) : trimEnd (trimChars cs) = trimChars cs :=
  List.rdropWhile_idempotent isBlank (trimStart cs)

theorem trimChars_trimChars (cs : List Char) : trimChars (trimChars cs) = trimChars cs := by
  conv_lhs => rw [trimChars, trimStart_trimChars]
  exact trimEnd_trimChars cs

theorem trim_trim (s : String) : trim (trim s) = trim s := by
  simp [trim, trimChars_trimChars]

theorem trim_empty : trim "" = "" := by decide

theorem trimStart_append_left {before : List Char} (h : ∀ c ∈ before, isBlank c = true)
    (cs : List Char) : trimStart (before ++ cs) = trimStart cs :=
  List.dropWhile_append_of_pos h

theorem trimEnd_append_right {after : List Char} (h : ∀ c ∈ after, isBlank c = true)
    (cs : List Char) : trimEnd (cs ++ after) = trimEnd cs := by
  have hrev : ∀ c ∈ after.reverse, isBlank c = true := fun c hc => h c (List.mem_reverse.mp hc)
  rw [trimEnd, List.reverse_append, List.dropWhile_append_of_pos hrev, trimEnd]

theorem trimChars_append_right {after : List Char} (h : ∀ c ∈ after, isBlank c = true)
    (cs : List Char) : trimChars (cs ++ after) = trimChars cs := by
  rw [trimChars, trimStart, List.dropWhile_append]
  by_cases hcs : (cs.dropWhile isBlank).isEmpty = true
  · have hafter : after.dropWhile isBlank = [] := List.dropWhile_eq_nil_iff.mpr h
    rw [if_pos hcs, hafter, trimChars, trimStart, List.isEmpty_iff.mp hcs]
  · rw [if_neg hcs, trimEnd_append_right h, trimChars, trimStart]

/-- A text with white space around it, or none. -/
def IsPadded (padded s : String) : Prop :=
  ∃ before after : List Char, (∀ c ∈ before, isBlank c = true) ∧ (∀ c ∈ after, isBlank c = true) ∧
    padded.toList = before ++ s.toList ++ after

theorem trim_of_isPadded {padded s : String} (h : IsPadded padded s) : trim padded = trim s := by
  obtain ⟨before, after, hbefore, hafter, he⟩ := h
  rw [trim, he, trimChars_append_right hafter, trimChars, trimStart_append_left hbefore,
    ← trimChars, trim]

theorem exists_trimStart (cs : List Char) :
    ∃ before, (∀ c ∈ before, isBlank c = true) ∧ cs = before ++ trimStart cs :=
  ⟨cs.takeWhile isBlank, fun _ => List.mem_takeWhile_imp, List.takeWhile_append_dropWhile.symm⟩

theorem exists_trimEnd (cs : List Char) :
    ∃ after, (∀ c ∈ after, isBlank c = true) ∧ cs = trimEnd cs ++ after :=
  ⟨cs.rtakeWhile isBlank, fun _ => List.mem_rtakeWhile_imp,
    (List.rdropWhile_append_rtakeWhile (p := isBlank)).symm⟩

/-- What is taken away is white space before the text that is left and after it. -/
theorem exists_padding (cs : List Char) :
    ∃ before after, (∀ c ∈ before, isBlank c = true) ∧ (∀ c ∈ after, isBlank c = true) ∧
      cs = before ++ trimChars cs ++ after := by
  obtain ⟨before, hbefore, hstart⟩ := exists_trimStart cs
  obtain ⟨after, hafter, hend⟩ := exists_trimEnd (trimStart cs)
  exact ⟨before, after, hbefore, hafter, by rw [trimChars, List.append_assoc, ← hend, ← hstart]⟩

theorem trim_eq_trim_iff {a b : String} :
    trim a = trim b ↔ ∃ s, IsPadded a s ∧ IsPadded b s := by
  have hpadded (s : String) : IsPadded s (trim s) := by
    obtain ⟨before, after, hbefore, hafter, he⟩ := exists_padding s.toList
    exact ⟨before, after, hbefore, hafter, by simpa [trim] using he⟩
  constructor
  · intro h
    exact ⟨trim a, hpadded a, h ▸ hpadded b⟩
  · rintro ⟨s, ha, hb⟩
    rw [trim_of_isPadded ha, trim_of_isPadded hb]

theorem mem_of_mem_trimChars {c : Char} {cs : List Char} (h : c ∈ trimChars cs) : c ∈ cs := by
  obtain ⟨before, after, -, -, he⟩ := exists_padding cs
  rw [he]
  exact List.mem_append_left after (List.mem_append_right before h)

theorem trimChars_eq_nil_iff {cs : List Char} : trimChars cs = [] ↔ ∀ c ∈ cs, isBlank c = true := by
  constructor
  · intro h c hc
    obtain ⟨before, after, hbefore, hafter, he⟩ := exists_padding cs
    rw [he, h, List.append_nil] at hc
    exact (List.mem_append.mp hc).elim (hbefore c) (hafter c)
  · intro h
    have hstart : trimStart cs = [] := List.dropWhile_eq_nil_iff.mpr h
    rw [trimChars, hstart]
    rfl

theorem trim_eq_empty_iff {s : String} : trim s = "" ↔ ∀ c ∈ s.toList, isBlank c = true := by
  rw [trim, String.ofList_eq_empty_iff, trimChars_eq_nil_iff]

theorem trim_ne_empty_iff {s : String} : trim s ≠ "" ↔ ∃ c ∈ s.toList, isBlank c = false := by
  rw [ne_eq, trim_eq_empty_iff]
  simp

theorem trim_ne_empty_of_part {s part : String} (h : part.toList <:+: s.toList)
    (hne : trim part ≠ "") : trim s ≠ "" := by
  obtain ⟨c, hc, hblank⟩ := trim_ne_empty_iff.mp hne
  exact trim_ne_empty_iff.mpr ⟨c, h.subset hc, hblank⟩

/-- White space is neither the first nor the last character. -/
def IsTrimmed (s : String) : Prop :=
  ∀ c, s.toList.head? = some c ∨ s.toList.getLast? = some c → isBlank c = false

theorem isTrimmed_trim (s : String) : IsTrimmed (trim s) := by
  intro c hc
  rw [trim, String.toList_ofList] at hc
  rw [← Bool.not_eq_true]
  rcases hc with hfirst | hlast
  · obtain ⟨cs, hcs⟩ := List.head?_eq_some_iff.mp hfirst
    have hstart := trimStart_trimChars s.toList
    rw [hcs, trimStart, List.dropWhile_eq_self_iff] at hstart
    exact hstart (by simp)
  · obtain ⟨cs, hcs⟩ := List.getLast?_eq_some_iff.mp hlast
    have hend : (trimChars s.toList).rdropWhile isBlank = trimChars s.toList :=
      trimEnd_trimChars s.toList
    rw [hcs, List.rdropWhile_eq_self_iff] at hend
    simpa using hend (by simp)

theorem trim_of_isTrimmed {s : String} (h : IsTrimmed s) : trim s = s := by
  have hstart : s.toList.dropWhile isBlank = s.toList := by
    rw [List.dropWhile_eq_self_iff]
    intro hpos
    simpa using h _ (.inl (List.head?_eq_getElem? ▸ List.getElem?_eq_getElem hpos))
  have hend : s.toList.rdropWhile isBlank = s.toList := by
    rw [List.rdropWhile_eq_self_iff]
    intro hne
    simpa using h _ (.inr (List.getLast?_eq_some_getLast hne))
  rw [trim, trimChars, trimStart, hstart]
  exact (congrArg String.ofList hend).trans String.ofList_toList

theorem trimStart_append_cons {c : Char} (h : isBlank c = false) (before after : List Char) :
    trimStart (before ++ c :: after) = trimStart before ++ c :: after := by
  have hstays : (c :: after).dropWhile isBlank = c :: after :=
    List.dropWhile_cons_of_neg (by simp [h])
  rw [trimStart, List.dropWhile_append, hstays, trimStart]
  cases before.dropWhile isBlank with
  | nil => rfl
  | cons b before => rfl

theorem trimEnd_append_cons {c : Char} (h : isBlank c = false) (before after : List Char) :
    trimEnd (before ++ c :: after) = before ++ c :: trimEnd after := by
  have hreverse := congrArg List.reverse (trimStart_append_cons h after.reverse before.reverse)
  simpa [trimEnd, trimStart] using hreverse

/-- White space is not cut off next to a part that is trimmed. -/
theorem trimChars_append_trimmed {part : String} (h : IsTrimmed part) (hne : part ≠ "")
    (before after : List Char) :
    trimChars (before ++ part.toList ++ after) =
      trimStart before ++ part.toList ++ trimEnd after := by
  have hnil : part.toList ≠ [] := by simpa using hne
  obtain ⟨c, cs, hfirst⟩ := List.exists_cons_of_ne_nil hnil
  obtain ⟨ds, d, hlast⟩ := (List.eq_nil_or_concat part.toList).resolve_left hnil
  rw [List.concat_eq_append] at hlast
  have hc : isBlank c = false := h c (.inl (by simp [hfirst]))
  have hd : isBlank d = false := h d (.inr (by simp [hlast]))
  have hstart : trimStart (before ++ part.toList ++ after) =
      trimStart before ++ part.toList ++ after := by
    rw [hfirst, List.append_assoc, List.cons_append, trimStart_append_cons hc]
    simp
  rw [trimChars, hstart, hlast, List.append_assoc, List.append_assoc, List.singleton_append,
    ← List.append_assoc, trimEnd_append_cons hd]
  simp

/-- A text that is missing is as good as a blank one. -/
theorem bind_nonBlank? (raw : Option String) :
    raw.bind nonBlank? =
      if trim (raw.getD "") = "" then none else some (trim (raw.getD "")) := by
  cases raw with
  | none => simp [trim_empty]
  | some s => simp [nonBlank?]

theorem nonBlank?_eq_some_iff {s t : String} : nonBlank? s = some t ↔ trim s = t ∧ t ≠ "" := by
  by_cases h : trim s = ""
  · have hnone : nonBlank? s = none := by simp [nonBlank?, h]
    rw [hnone, h]
    simp only [reduceCtorEq, false_iff, not_and, not_not]
    exact Eq.symm
  · have hsome : nonBlank? s = some (trim s) := by simp [nonBlank?, h]
    rw [hsome, Option.some.injEq]
    exact ⟨fun ht => ⟨ht, ht ▸ h⟩, And.left⟩

theorem filterMap_nonBlank? (texts : List String) :
    texts.filterMap nonBlank? = (texts.map trim).filter (· ≠ "") := by
  induction texts with
  | nil => rfl
  | cons s texts ih =>
    by_cases h : trim s = ""
    · simp [nonBlank?, h, ih]
    · simp [nonBlank?, h, ih]

theorem lowerChar_ne_nil (c : Char) : lowerChar c ≠ [] := by
  rw [lowerChar]
  split <;> simp

theorem lowercaseFrom_eq_nil_iff {before cs : List Char} :
    lowercaseFrom before cs = [] ↔ cs = [] := by
  cases cs with
  | nil => simp [lowercaseFrom]
  | cons c cs =>
    have hne : (if c = 'Σ' then [lowerSigma before cs] else lowerChar c) ≠ [] := by
      by_cases hsigma : c = 'Σ'
      · simp [hsigma]
      · rw [if_neg hsigma]
        exact lowerChar_ne_nil c
    simp [lowercaseFrom, hne]

/-- The normal form of a name is empty for a blank name only. -/
theorem normalizeName_eq_empty_iff {s : String} : normalizeName s = "" ↔ trim s = "" := by
  rw [normalizeName, trim, String.ofList_eq_empty_iff, String.ofList_eq_empty_iff, lowercaseChars,
    lowercaseFrom_eq_nil_iff]

end Namebook.Text
