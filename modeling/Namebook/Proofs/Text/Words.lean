import Namebook.Proofs.Text.Blank

/-!
# Words of a text

White space cuts a text in two, and the words of the parts are the words of the whole. So the first
word is what stands between the white space at the start and the next, and the other words are those
of the rest.
-/

namespace Namebook.Text

/-- The text is a word and a rest that does not go on with it, after white space or none. -/
def FirstWord (cs word rest : List Char) : Prop :=
  ∃ lead, cs = lead ++ word ++ rest ∧ (∀ c ∈ lead, isBlank c = true) ∧
    word ≠ [] ∧ (∀ c ∈ word, isBlank c = false) ∧ ∀ c, rest.head? = some c → isBlank c = true

variable {cs word rest : List Char}

theorem wordsFrom_nil (c : Char) (word : List Char) :
    wordsFrom [] (c :: word) = [(c :: word).reverse] := rfl

/-- White space ends the word met so far, if there is one. -/
theorem wordsFrom_cons (c : Char) (cs word : List Char) :
    wordsFrom (c :: cs) word =
      if isBlank c then wordsFrom [] word ++ words cs else wordsFrom cs (c :: word) := by
  cases word <;> rfl

theorem wordsFrom_append_blank {c : Char} (h : isBlank c = true) (cs ds word : List Char) :
    wordsFrom (cs ++ c :: ds) word = wordsFrom cs word ++ words ds := by
  induction cs generalizing word with
  | nil => rw [List.nil_append, wordsFrom_cons, if_pos h]
  | cons d cs ih =>
    rw [List.cons_append, wordsFrom_cons, wordsFrom_cons]
    by_cases hd : isBlank d = true
    · rw [if_pos hd, if_pos hd, List.append_assoc, words, ih]
      rfl
    · rw [if_neg hd, if_neg hd, ih]

theorem words_append_blank {c : Char} (h : isBlank c = true) (cs ds : List Char) :
    words (cs ++ c :: ds) = words cs ++ words ds := wordsFrom_append_blank h cs ds []

theorem words_append_left {lead : List Char} (h : ∀ c ∈ lead, isBlank c = true) (cs : List Char) :
    words (lead ++ cs) = words cs := by
  induction lead with
  | nil => rfl
  | cons c lead ih =>
    obtain ⟨hc, hlead⟩ := List.forall_mem_cons.mp h
    rw [List.cons_append, ← List.nil_append (c :: (lead ++ cs)), words_append_blank hc, ih hlead]
    rfl

theorem words_of_blank (h : ∀ c ∈ cs, isBlank c = true) : words cs = [] := by
  rw [← List.append_nil cs, words_append_left h]
  rfl

theorem wordsFrom_of_noBlank (h : ∀ c ∈ cs, isBlank c = false) (word : List Char) :
    wordsFrom cs word = wordsFrom [] (cs.reverse ++ word) := by
  induction cs generalizing word with
  | nil => rfl
  | cons c cs ih =>
    obtain ⟨hc, hcs⟩ := List.forall_mem_cons.mp h
    rw [wordsFrom_cons, if_neg (by simp [hc]), ih hcs]
    simp

theorem words_of_noBlank (hne : cs ≠ []) (h : ∀ c ∈ cs, isBlank c = false) : words cs = [cs] := by
  obtain ⟨c, reversed, hreverse⟩ := List.exists_cons_of_ne_nil (List.reverse_ne_nil_iff.mpr hne)
  rw [words, wordsFrom_of_noBlank h, List.append_nil, hreverse, wordsFrom_nil, ← hreverse,
    List.reverse_reverse]

theorem words_of_firstWord (h : FirstWord cs word rest) : words cs = word :: words rest := by
  obtain ⟨lead, rfl, hlead, hne, hword, hrest⟩ := h
  rw [List.append_assoc, words_append_left hlead]
  cases rest with
  | nil =>
    rw [List.append_nil, words_of_noBlank hne hword]
    rfl
  | cons c rest =>
    have hc : isBlank c = true := hrest c rfl
    have hskip : words (c :: rest) = words rest :=
      words_append_left (List.forall_mem_singleton.mpr hc) rest
    rw [words_append_blank hc, words_of_noBlank hne hword, hskip, List.singleton_append]

/-- A text without words is white space, and any other has a first word. -/
theorem exists_firstWord (h : words cs ≠ []) : ∃ word rest, FirstWord cs word rest := by
  obtain ⟨lead, hlead, hcs⟩ := exists_trimStart cs
  have hne : trimStart cs ≠ [] := by
    intro hnil
    rw [hnil, List.append_nil] at hcs
    exact h (words_of_blank (hcs ▸ hlead))
  obtain ⟨c, ds, hds⟩ := List.exists_cons_of_ne_nil hne
  have hc : isBlank c = false := by
    have hstop := List.head?_dropWhile_not isBlank cs
    rw [← trimStart, hds] at hstop
    exact hstop
  refine ⟨(c :: ds).takeWhile (!isBlank ·), (c :: ds).dropWhile (!isBlank ·), lead, ?_, hlead, ?_,
    fun d hd => ?_, fun d hd => ?_⟩
  · rw [List.append_assoc, List.takeWhile_append_dropWhile, ← hds, ← hcs]
  · simp [hc]
  · simpa using List.mem_takeWhile_imp hd
  · have hstop := List.head?_dropWhile_not (!isBlank ·) (c :: ds)
    rw [hd] at hstop
    simpa using hstop

theorem words_eq_cons_iff {later : List (List Char)} :
    words cs = word :: later ↔ ∃ rest, FirstWord cs word rest ∧ words rest = later := by
  constructor
  · intro h
    obtain ⟨first, rest, hfirst⟩ := exists_firstWord (h ▸ List.cons_ne_nil word later)
    obtain ⟨rfl, hlater⟩ := List.cons.inj ((words_of_firstWord hfirst).symm.trans h)
    exact ⟨rest, hfirst, hlater⟩
  · rintro ⟨rest, hfirst, rfl⟩
    exact words_of_firstWord hfirst

end Namebook.Text
