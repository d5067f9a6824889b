import Mathlib.Data.List.Basic
import Namebook.Text.Split

/-!
# Cutting at a separator

The pieces of a text are those of a list that is split at the separator: one more than there are
separators, none of them with a separator inside. A cut is made at the first separator, so nothing
is cut where there is none. The lines of a text are the pieces between line feeds, without the ends
of lines that take a carriage return as well.
-/

namespace Namebook.Text

variable {sep : Char} {cs : List Char}

theorem pieces_eq_splitOn (sep : Char) (cs : List Char) : pieces sep cs = cs.splitOn sep := by
  induction cs with
  | nil => rfl
  | cons c cs ih =>
    rw [pieces, ih, List.splitOn_cons_eq_if_modifyHead]
    by_cases h : c = sep
    · simp [h]
    · cases hs : cs.splitOn sep with
      | nil => exact absurd hs (List.splitOn_ne_nil sep cs)
      | cons p ps => simp [h]

theorem length_splitOn (sep : Char) (cs : List Char) :
    (cs.splitOn sep).length = cs.count sep + 1 := by
  induction cs with
  | nil => rfl
  | cons c cs ih =>
    rw [List.splitOn_cons_eq_if_modifyHead]
    by_cases h : c = sep
    · simp [h, ih]
    · simp [h, ih]

theorem notMem_of_mem_splitOn {piece : List Char} (h : piece ∈ cs.splitOn sep) : sep ∉ piece := by
  induction cs generalizing piece with
  | nil =>
    rw [List.splitOn_nil, List.mem_singleton] at h
    simp [h]
  | cons c cs ih =>
    rw [List.splitOn_cons_eq_if_modifyHead] at h
    by_cases hc : c = sep
    · rw [if_pos (beq_iff_eq.mpr hc)] at h
      rcases List.mem_cons.mp h with rfl | h
      · simp
      · exact ih h
    · rw [if_neg (by simpa using hc)] at h
      cases hs : cs.splitOn sep with
      | nil => exact absurd hs (List.splitOn_ne_nil sep cs)
      | cons p ps =>
        rw [hs, List.modifyHead_cons] at h
        rw [hs] at ih
        rcases List.mem_cons.mp h with rfl | h
        · have hp : sep ∉ p := ih List.mem_cons_self
          simp [hp, Ne.symm hc]
        · exact ih (List.mem_cons_of_mem p h)

/-- The texts before, between and after the separators. -/
def parts (sep : Char) (s : String) : List String := (s.toList.splitOn sep).map String.ofList

theorem map_pieces (sep : Char) (s : String) :
    (pieces sep s.toList).map String.ofList = parts sep s := by
  rw [pieces_eq_splitOn, parts]

theorem length_parts (sep : Char) (s : String) :
    (parts sep s).length = s.toList.count sep + 1 := by
  rw [parts, List.length_map, length_splitOn]

theorem notMem_of_mem_parts {s part : String} (h : part ∈ parts sep s) : sep ∉ part.toList := by
  obtain ⟨piece, hpiece, rfl⟩ := List.mem_map.mp h
  rw [String.toList_ofList]
  exact notMem_of_mem_splitOn hpiece

theorem cut?_eq_some_iff {before after : List Char} :
    cut? sep cs = some (before, after) ↔ cs = before ++ sep :: after ∧ sep ∉ before := by
  induction cs generalizing before with
  | nil => simp [cut?]
  | cons c cs ih =>
    by_cases hc : c = sep
    · cases before with
      | nil => simp [cut?, hc, eq_comm]
      | cons b before => simp +contextual [cut?, hc]
    · cases before with
      | nil => simp [cut?, hc]
      | cons b before =>
        rw [cut?, if_neg hc, Option.map_eq_some_iff]
        simp only [Prod.exists, Prod.mk.injEq, List.cons_append, List.cons.injEq, List.mem_cons,
          not_or]
        grind

theorem cut?_eq_none_iff : cut? sep cs = none ↔ sep ∉ cs := by
  induction cs with
  | nil => simp [cut?]
  | cons c cs ih =>
    by_cases hc : c = sep
    · simp [cut?, hc]
    · simp [cut?, hc, ih, Ne.symm hc]

/-! ## Lines -/

/-- The lines of a text. A line feed ends a line, with or without a carriage return before it, and a
last line without an end is not empty. -/
inductive IsLines : List Char → List (List Char) → Prop where
  | none : IsLines [] []
  | unfinished {line : List Char} (hne : line ≠ []) (hline : '\n' ∉ line) : IsLines line [line]
  | feed {line rest : List Char} {later : List (List Char)} (hline : '\n' ∉ line)
      (hlast : line.getLast? ≠ some '\r') (hrest : IsLines rest later) :
      IsLines (line ++ '\n' :: rest) (line :: later)
  | returnFeed {line rest : List Char} {later : List (List Char)} (hline : '\n' ∉ line)
      (hrest : IsLines rest later) : IsLines (line ++ '\r' :: '\n' :: rest) (line :: later)

theorem lines_of_notMem (h : '\n' ∉ cs) : lines cs = [cs].filter fun line => !line.isEmpty := by
  rw [lines, pieces_eq_splitOn, List.splitOn_eq_singleton h]
  rfl

theorem lines_append_feed {line : List Char} (h : '\n' ∉ line) (rest : List Char) :
    lines (line ++ '\n' :: rest) = dropReturn line :: lines rest := by
  have hne : rest.splitOn '\n' ≠ [] := List.splitOn_ne_nil '\n' rest
  obtain ⟨piece, pieces, hpieces⟩ := List.exists_cons_of_ne_nil hne
  rw [lines, lines, pieces_eq_splitOn, pieces_eq_splitOn,
    List.splitOn_append_cons_self_of_not_mem h, hpieces]
  rfl

theorem dropReturn_of_last {line : List Char} (h : line.getLast? ≠ some '\r') :
    dropReturn line = line := if_neg h

theorem dropReturn_concat (line : List Char) : dropReturn (line ++ ['\r']) = line := by
  rw [dropReturn, if_pos (by simp), List.dropLast_concat]

theorem isLines_lines (cs : List Char) : IsLines cs (lines cs) := by
  induction hn : cs.length using Nat.strongRecOn generalizing cs with
  | ind n ih =>
    by_cases hfeed : '\n' ∈ cs
    · obtain ⟨line, rest, rfl, hline⟩ := List.eq_append_cons_of_mem hfeed
      have hrest : IsLines rest (lines rest) := ih rest.length (by simp [← hn]; omega) rest rfl
      rw [lines_append_feed hline]
      by_cases hlast : line.getLast? = some '\r'
      · obtain ⟨short, rfl⟩ := List.getLast?_eq_some_iff.mp hlast
        rw [dropReturn_concat, List.append_assoc]
        exact .returnFeed (fun h => hline (List.mem_append_left _ h)) hrest
      · rw [dropReturn_of_last hlast]
        exact .feed hline hlast hrest
    · rw [lines_of_notMem hfeed]
      cases cs with
      | nil => exact .none
      | cons c cs => exact .unfinished (List.cons_ne_nil c cs) hfeed

theorem isLines_iff {ls : List (List Char)} : IsLines cs ls ↔ ls = lines cs := by
  constructor
  · intro h
    induction h with
    | none => rfl
    | unfinished hne hline =>
      rw [lines_of_notMem hline]
      simp [hne]
    | feed hline hlast _ ih => rw [lines_append_feed hline, dropReturn_of_last hlast, ih]
    | @returnFeed line rest later hline _ ih =>
      have hreturn : '\n' ∉ line ++ ['\r'] := by simp [hline]
      rw [List.append_cons, lines_append_feed hreturn, dropReturn_concat, ih]
  · rintro rfl
    exact isLines_lines cs

end Namebook.Text
