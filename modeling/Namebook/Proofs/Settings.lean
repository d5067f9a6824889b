import Namebook.Proofs.Grouping
import Namebook.Proofs.Table
import Namebook.Settings

/-!
# Groups of namespaces

The pairs of the settings either all have a namespace and a group, or the first that has not is the
problem. What the accepted ones say is what objects are given: of several pairs for one namespace
the last one counts, and no pair that counts is passed over for being blank.
-/

namespace Namebook.Settings

/-- The texts before and after the first equals sign. -/
def HasSides (pair before after : String) : Prop :=
  pair.toList = before.toList ++ '=' :: after.toList ∧ '=' ∉ before.toList

/-- There is no equals sign, or nothing but white space before the first one or after it. -/
def IsRefused (pair : String) : Prop :=
  '=' ∉ pair.toList ∨ ∃ before after, HasSides pair before after ∧
    ((∀ c ∈ before.toList, Text.isBlank c = true) ∨ ∀ c ∈ after.toList, Text.isBlank c = true)

/-- White space around the namespace and around the group is no part of them. -/
def Assigns (pair space group : String) : Prop :=
  ∃ before after, HasSides pair before after ∧ Text.trim before = space ∧ Text.trim after = group

/-- The last pair for the namespace gives it the group. -/
def IsLastFor (pairs : List String) (space group : String) : Prop :=
  ∃ before pair after, pairs = before ++ pair :: after ∧ Assigns pair space group ∧
    ∀ later ∈ after, ∀ other, ¬Assigns later space other

variable {pair space group : String} {pairs : List String}

/-! ## One pair -/

theorem cut?_eq_some_iff_hasSides {before after : List Char} :
    Text.cut? '=' pair.toList = some (before, after) ↔
      HasSides pair (String.ofList before) (String.ofList after) := by
  rw [Text.cut?_eq_some_iff, HasSides, String.toList_ofList, String.toList_ofList]

theorem spaceGroup?_eq_some_iff :
    spaceGroup? pair = some (space, group) ↔
      Assigns pair space group ∧ space ≠ "" ∧ group ≠ "" := by
  simp only [spaceGroup?, bind, Option.bind_eq_some_iff, Prod.exists, cut?_eq_some_iff_hasSides,
    Text.nonBlank?_eq_some_iff, Option.some.injEq, Prod.mk.injEq]
  constructor
  · rintro ⟨before, after, hsides, _, ⟨hbefore, hspace⟩, _, ⟨hafter, hgroup⟩, rfl, rfl⟩
    exact ⟨⟨_, _, hsides, hbefore, hafter⟩, hspace, hgroup⟩
  · rintro ⟨⟨before, after, hsides, hbefore, hafter⟩, hspace, hgroup⟩
    exact ⟨before.toList, after.toList, by simpa using hsides, space,
      ⟨by simpa using hbefore, hspace⟩, group, ⟨by simpa using hafter, hgroup⟩, rfl, rfl⟩

theorem HasSides.unique {before after before' after' : String} (h : HasSides pair before after)
    (h' : HasSides pair before' after') : before' = before ∧ after' = after := by
  have hcut : Text.cut? '=' pair.toList = some (before.toList, after.toList) :=
    Text.cut?_eq_some_iff.mpr h
  have hcut' : Text.cut? '=' pair.toList = some (before'.toList, after'.toList) :=
    Text.cut?_eq_some_iff.mpr h'
  rw [hcut, Option.some.injEq, Prod.mk.injEq, String.toList_inj, String.toList_inj] at hcut'
  exact ⟨hcut'.1.symm, hcut'.2.symm⟩

theorem exists_hasSides (h : '=' ∈ pair.toList) : ∃ before after, HasSides pair before after := by
  cases hcut : Text.cut? '=' pair.toList with
  | none => exact absurd h (Text.cut?_eq_none_iff.mp hcut)
  | some sides => exact ⟨_, _, cut?_eq_some_iff_hasSides.mp hcut⟩

theorem not_isRefused_iff :
    ¬IsRefused pair ↔ ∃ space group, Assigns pair space group ∧ space ≠ "" ∧ group ≠ "" := by
  simp only [IsRefused, ← Text.trim_eq_empty_iff]
  constructor
  · intro h
    rw [not_or, not_not] at h
    obtain ⟨before, after, hsides⟩ := exists_hasSides h.1
    have hblank : ¬(Text.trim before = "" ∨ Text.trim after = "") := fun hblank =>
      h.2 ⟨before, after, hsides, hblank⟩
    exact ⟨_, _, ⟨before, after, hsides, rfl, rfl⟩, not_or.mp hblank⟩
  · rintro ⟨space, group, ⟨before, after, hsides, rfl, rfl⟩, hspace, hgroup⟩
    rintro (hnone | ⟨before', after', hsides', hblank⟩)
    · exact hnone (by simp [hsides.1])
    · obtain ⟨rfl, rfl⟩ := hsides.unique hsides'
      exact hblank.elim hspace hgroup

theorem isRefused_iff : IsRefused pair ↔ spaceGroup? pair = none := by
  rw [← not_iff_not, not_isRefused_iff, ← ne_eq, Option.ne_none_iff_exists', Prod.exists]
  simp only [spaceGroup?_eq_some_iff]

instance (pair : String) : Decidable (IsRefused pair) := decidable_of_iff _ isRefused_iff.symm

theorem Assigns.unique {space' group' : String} (h : Assigns pair space group)
    (h' : Assigns pair space' group') : space' = space ∧ group' = group := by
  obtain ⟨before, after, hsides, rfl, rfl⟩ := h
  obtain ⟨before', after', hsides', rfl, rfl⟩ := h'
  obtain ⟨rfl, rfl⟩ := hsides.unique hsides'
  exact ⟨rfl, rfl⟩

theorem spaceGroup?_of_assigns (h : ¬IsRefused pair) (hassigns : Assigns pair space group) :
    spaceGroup? pair = some (space, group) := by
  obtain ⟨space', group', hassigns', hne⟩ := not_isRefused_iff.mp h
  obtain ⟨rfl, rfl⟩ := hassigns.unique hassigns'
  exact spaceGroup?_eq_some_iff.mpr ⟨hassigns', hne⟩

/-! ## All pairs -/

/-- A refused pair stops the reading. Until then every pair is put into the table. -/
theorem foldlM_addPair (pairs : List String) (table : List (String × String)) :
    pairs.foldlM addPair table =
      match pairs.find? fun pair => (spaceGroup? pair).isNone with
      | some pair => .error (.badSpaceGroup pair)
      | none => .ok (Table.insertAll (pairs.filterMap spaceGroup?) table) := by
  induction pairs generalizing table with
  | nil => rfl
  | cons pair pairs ih =>
    rw [List.foldlM_cons, addPair]
    cases hpair : spaceGroup? pair with
    | none =>
      rw [List.find?_cons_of_pos (by simp [hpair])]
      rfl
    | some p =>
      rw [List.find?_cons_of_neg (by simp [hpair]), List.filterMap_cons_some hpair]
      exact ih (Table.insert p.1 p.2 table)

theorem find?_isNone_eq_some_iff :
    (pairs.find? fun pair => (spaceGroup? pair).isNone) = some pair ↔
      ∃ before after, pairs = before ++ pair :: after ∧ (∀ p ∈ before, ¬IsRefused p) ∧
        IsRefused pair := by
  simp only [isRefused_iff, List.find?_eq_some_iff_append, Option.isNone_iff_eq_none,
    Bool.not_eq_eq_eq_not, Bool.not_true, Option.isNone_eq_false_iff, Option.isSome_iff_ne_none]
  constructor
  · rintro ⟨hpair, before, after, he, hbefore⟩
    exact ⟨before, after, he, hbefore, hpair⟩
  · rintro ⟨before, after, he, hbefore, hpair⟩
    exact ⟨hpair, before, after, he, hbefore⟩

theorem find?_isNone_eq_none_iff :
    (pairs.find? fun pair => (spaceGroup? pair).isNone) = none ↔
      ∀ pair ∈ pairs, ¬IsRefused pair := by
  simp [isRefused_iff, List.find?_eq_none]

theorem lookup_insertAll_filterMap (h : ∀ pair ∈ pairs, ¬IsRefused pair) :
    (Table.insertAll (pairs.filterMap spaceGroup?) []).lookup space = some group ↔
      IsLastFor pairs space group := by
  rw [Table.lookup_insertAll_eq_some_iff]
  constructor
  · rintro ⟨before, after, he, hafter⟩
    obtain ⟨skipped, rest, rfl, -, hrest⟩ := List.filterMap_eq_append_iff.mp he
    obtain ⟨between, pair, later, rfl, -, hpair, rfl⟩ := List.filterMap_eq_cons_iff.mp hrest
    refine ⟨skipped ++ between, pair, later, by simp, (spaceGroup?_eq_some_iff.mp hpair).1, ?_⟩
    intro p hp other hassigns
    have hsome : spaceGroup? p = some (space, other) :=
      spaceGroup?_of_assigns (h p (by simp [hp])) hassigns
    exact hafter (space, other) (List.mem_filterMap.mpr ⟨p, hp, hsome⟩) rfl
  · rintro ⟨before, pair, after, rfl, hassigns, hlater⟩
    have hpair : spaceGroup? pair = some (space, group) :=
      spaceGroup?_of_assigns (h pair (by simp)) hassigns
    refine ⟨before.filterMap spaceGroup?, after.filterMap spaceGroup?, ?_, ?_⟩
    · rw [List.filterMap_append, List.filterMap_cons_some hpair]
    · rintro ⟨space', other⟩ hp rfl
      obtain ⟨p, hp, hsome⟩ := List.mem_filterMap.mp hp
      exact hlater p hp other (spaceGroup?_eq_some_iff.mp hsome).1

theorem exists_isLastFor (h : ∀ pair ∈ pairs, ¬IsRefused pair) (hpair : pair ∈ pairs)
    (hassigns : Assigns pair space group) : ∃ last, IsLastFor pairs space last := by
  have hsome : spaceGroup? pair = some (space, group) :=
    spaceGroup?_of_assigns (h pair hpair) hassigns
  have hfound : (pairs.filterMap spaceGroup?).reverse.lookup space ≠ none := by
    intro hnone
    have hmem : (space, group) ∈ (pairs.filterMap spaceGroup?).reverse :=
      List.mem_reverse.mpr (List.mem_filterMap.mpr ⟨pair, hpair, hsome⟩)
    simpa using List.lookup_eq_none_iff.mp hnone _ hmem
  obtain ⟨last, hlast⟩ := Option.ne_none_iff_exists'.mp hfound
  refine ⟨last, (lookup_insertAll_filterMap h).mp ?_⟩
  rw [Table.lookup_insertAll, hlast, Option.some_or]

/-! ## The rules of the settings -/

variable {s : Settings} {g : Grouping}

theorem grouping_eq_error_iff {problem : Problem} :
    s.grouping = .error problem ↔ ∃ before pair after, s.spaceGroups = before ++ pair :: after ∧
      (∀ p ∈ before, ¬IsRefused p) ∧ IsRefused pair ∧ problem = .badSpaceGroup pair := by
  have hfirst : s.grouping = .error problem ↔
      ∃ pair, (s.spaceGroups.find? fun pair => (spaceGroup? pair).isNone) = some pair ∧
        problem = .badSpaceGroup pair := by
    rw [grouping, foldlM_addPair]
    cases s.spaceGroups.find? fun pair => (spaceGroup? pair).isNone with
    | some pair => simp [bind, Except.bind, eq_comm]
    | none => simp [bind, Except.bind, pure, Except.pure]
  simp only [hfirst, find?_isNone_eq_some_iff]
  constructor
  · rintro ⟨pair, ⟨before, after, he, hbefore, hpair⟩, hproblem⟩
    exact ⟨before, pair, after, he, hbefore, hpair, hproblem⟩
  · rintro ⟨before, pair, after, he, hbefore, hpair, hproblem⟩
    exact ⟨pair, ⟨before, after, he, hbefore, hpair⟩, hproblem⟩

theorem grouping_eq_ok_iff :
    s.grouping = .ok g ↔ (∀ pair ∈ s.spaceGroups, ¬IsRefused pair) ∧
      g = { defaultGroup := Text.trim s.defaultGroup, labelKey := s.labelKey.bind Text.nonBlank?,
            bySpace := Table.insertAll (s.spaceGroups.filterMap spaceGroup?) [] } := by
  rw [grouping, foldlM_addPair, ← find?_isNone_eq_none_iff]
  cases s.spaceGroups.find? fun pair => (spaceGroup? pair).isNone with
  | some pair => simp [bind, Except.bind]
  | none => simp [bind, Except.bind, pure, Except.pure, eq_comm]

theorem lookup_bySpace (h : s.grouping = .ok g) :
    g.bySpace.lookup space = some group ↔ IsLastFor s.spaceGroups space group := by
  obtain ⟨haccepted, rfl⟩ := grouping_eq_ok_iff.mp h
  exact lookup_insertAll_filterMap haccepted

/-- A group that is given to a namespace is no empty text, so the resolver takes it. -/
theorem mapped_of_isLastFor (h : s.grouping = .ok g) (hspace : space ≠ "")
    (hlast : IsLastFor s.spaceGroups space group) : g.mapped space = group ∧ group ≠ "" := by
  have haccepted := (grouping_eq_ok_iff.mp h).1
  have hlookup : g.bySpace.lookup space = some group := (lookup_bySpace h).mpr hlast
  obtain ⟨before, pair, after, he, hassigns, -⟩ := hlast
  have hpair : ¬IsRefused pair := haccepted pair (by simp [he])
  refine ⟨by simp [Grouping.mapped, hspace, hlookup], ?_⟩
  exact (spaceGroup?_eq_some_iff.mp (spaceGroup?_of_assigns hpair hassigns)).2.2

theorem mapped_of_unassigned (h : s.grouping = .ok g)
    (hspace : ∀ pair ∈ s.spaceGroups, ∀ group, ¬Assigns pair space group) :
    g.mapped space = "" := by
  have hlookup : g.bySpace.lookup space = none := by
    rw [Option.eq_none_iff_forall_ne_some]
    intro group hgroup
    obtain ⟨before, pair, after, he, hassigns, -⟩ := (lookup_bySpace h).mp hgroup
    exact hspace pair (by simp [he]) group hassigns
  simp [Grouping.mapped, hlookup]

/-- The rules of the settings for an object that lists no groups and has no label that names one. -/
theorem resolve_of_grouping {labels : Option Grouping.Labels} (h : s.grouping = .ok g)
    (hlist : (labels.getD []).lookup Grouping.groupsLabel = none)
    (hkey : ∀ raw, s.labelKey = some raw → Text.trim raw ≠ "" →
      (labels.getD []).lookup (Text.trim raw) = none) :
    g.resolve labels space =
      [([g.mapped space, Text.trim s.defaultGroup].find? (· ≠ "")).getD "Services"] := by
  obtain ⟨-, hg⟩ := grouping_eq_ok_iff.mp h
  have hdefault : g.defaultGroup = Text.trim s.defaultGroup := by rw [hg]
  rw [Grouping.resolve_of_unlabelled hlist, hdefault]
  intro key hlabel
  rw [hg] at hlabel
  obtain ⟨raw, hraw, hsome⟩ := Option.bind_eq_some_iff.mp hlabel
  obtain ⟨rfl, hne⟩ := Text.nonBlank?_eq_some_iff.mp hsome
  exact hkey raw hraw hne

/-- The first pair that is refused is the problem, word for word, and without one there is none. If
there is none, every pair has a namespace and a group, neither of them empty, and some pair is the
last one for that namespace. An object that lists no groups and does not have the label of the
settings is in the group of the last pair for its namespace, else in the default group or the
fallback. -/
theorem grouping_of_pairs (s : Settings) :
    (∀ problem, s.grouping = .error problem ↔ ∃ before pair after,
        s.spaceGroups = before ++ pair :: after ∧ (∀ p ∈ before, ¬IsRefused p) ∧ IsRefused pair ∧
          problem = .badSpaceGroup pair) ∧
      ((∃ g, s.grouping = .ok g) ↔ ∀ pair ∈ s.spaceGroups, ¬IsRefused pair) ∧
      ∀ g, s.grouping = .ok g →
        (∀ pair ∈ s.spaceGroups, ∃ space group, Assigns pair space group ∧ space ≠ "" ∧ group ≠ "" ∧
          ∃ last, IsLastFor s.spaceGroups space last ∧ g.resolve none space = [last]) ∧
        ∀ (labels : Option Grouping.Labels) (space : String), space ≠ "" →
          (labels.getD []).lookup Grouping.groupsLabel = none →
          (∀ raw, s.labelKey = some raw → Text.trim raw ≠ "" →
            (labels.getD []).lookup (Text.trim raw) = none) →
          (∀ group, IsLastFor s.spaceGroups space group → g.resolve labels space = [group]) ∧
            ((∀ pair ∈ s.spaceGroups, ∀ group, ¬Assigns pair space group) →
              g.resolve labels space =
                [if Text.trim s.defaultGroup = "" then "Services"
                  else Text.trim s.defaultGroup]) := by
  refine ⟨fun problem => grouping_eq_error_iff, by simp [grouping_eq_ok_iff], fun g h => ⟨?_, ?_⟩⟩
  · intro pair hpair
    have haccepted := (grouping_eq_ok_iff.mp h).1
    obtain ⟨space, group, hassigns, hspace, hgroup⟩ := not_isRefused_iff.mp (haccepted pair hpair)
    obtain ⟨last, hlast⟩ := exists_isLastFor haccepted hpair hassigns
    refine ⟨space, group, hassigns, hspace, hgroup, last, hlast, ?_⟩
    obtain ⟨hmapped, hne⟩ := mapped_of_isLastFor h hspace hlast
    rw [resolve_of_grouping h rfl (fun _ _ _ => rfl), hmapped]
    simp [hne]
  · intro labels space hspace hlist hkey
    rw [resolve_of_grouping h hlist hkey]
    constructor
    · intro group hlast
      obtain ⟨hmapped, hne⟩ := mapped_of_isLastFor h hspace hlast
      simp [hmapped, hne]
    · intro hunassigned
      rw [mapped_of_unassigned h hunassigned]
      by_cases hdefault : Text.trim s.defaultGroup = "" <;> simp [hdefault]

/-- The group of a pair goes on to its end, past further equals signs. -/
theorem grouping_of_pairs_repeated :
    let s : Settings := ⟨defaultListen, 30, none, none, 5, " ", some "\t",
      ["shop=Shop", "ops = Ops = 2 ", " shop =\u3000Store"], 64⟩
    let g : Grouping := ⟨"", none, [("ops", "Ops = 2"), ("shop", "Store")]⟩
    let refused : Settings := { s with spaceGroups := ["a=b=", "= c", "d"] }
    s.grouping = .ok g ∧ IsLastFor s.spaceGroups "shop" "Store" ∧
      g.resolve (some [("\t", "Search")]) "shop" = ["Store"] ∧
      g.resolve none "shops" = ["Services"] ∧
      refused.grouping = .error (.badSpaceGroup "= c") := by
  intro s g refused
  have hg : s.grouping = .ok g := by decide +kernel
  have hlast : IsLastFor s.spaceGroups "shop" "Store" :=
    ⟨["shop=Shop", "ops = Ops = 2 "], " shop =\u3000Store", [], rfl,
      ⟨" shop ", "\u3000Store", by unfold HasSides; decide, by decide, by decide⟩, by simp⟩
  obtain ⟨hrefused, -⟩ := grouping_of_pairs refused
  obtain ⟨-, -, hrules⟩ := grouping_of_pairs s
  obtain ⟨-, hresolve⟩ := hrules g hg
  have hkey (ls : Grouping.Labels) : ∀ raw, s.labelKey = some raw → Text.trim raw ≠ "" →
      ls.lookup (Text.trim raw) = none := by
    intro raw hraw hne
    obtain rfl : "\t" = raw := Option.some.inj hraw
    exact absurd (by decide) hne
  have hother : ∀ pair ∈ s.spaceGroups, ∀ group, ¬Assigns pair "shops" group := by
    intro pair hpair group hassigns
    have hfirst : ∀ pair ∈ s.spaceGroups, (spaceGroup? pair).map Prod.fst ≠ some "shops" := by
      decide
    have haccepted : ∀ pair ∈ s.spaceGroups, ¬IsRefused pair := by decide
    apply hfirst pair hpair
    rw [spaceGroup?_of_assigns (haccepted pair hpair) hassigns, Option.map_some]
  exact ⟨hg, hlast,
    (hresolve _ "shop" (by decide) (by decide) (hkey _)).1 "Store" hlast,
    ((hresolve none "shops" (by decide) rfl (hkey _)).2 hother).trans (by decide),
    (hrefused _).mpr ⟨["a=b="], "= c", ["d"], rfl, by decide, by decide, rfl⟩⟩

end Namebook.Settings
