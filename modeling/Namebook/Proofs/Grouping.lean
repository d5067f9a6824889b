import Namebook.Grouping
import Namebook.Proofs.Text.Blank
import Namebook.Proofs.Text.Split

/-!
# Which rule gives the group

An object that lists groups itself is in these. Any other is in one group, the first that a rule
gives: its label, its namespace, the default, and at last the fallback. What comes after the rule
that decides does not count, and of the labels only two are ever looked at.
-/

namespace Namebook.Grouping

/-- What the object lists itself: the pieces between the commas, trimmed, without the blank ones. -/
def listedBy (labels : Labels) : List String :=
  match labels.lookup "dnsportal.firestoned.io/groups" with
  | none => []
  | some s => ((Text.parts ',' s).map Text.trim).filter (· ≠ "")

/-- The value of the label that names the group. It is empty if no label is to do so. -/
def labelled (g : Grouping) (labels : Labels) : String :=
  match g.labelKey with
  | none => ""
  | some key => if key = "" then "" else (labels.lookup key).getD ""

/-- The group of the namespace. It is empty for an object outside of all namespaces. -/
def mapped (g : Grouping) (space : String) : String :=
  if space = "" then "" else (g.bySpace.lookup space).getD ""

/-- What the rules for a single group offer, the first of them first. An empty text is no offer. -/
def offers (g : Grouping) (labels : Labels) (space : String) : List String :=
  [g.labelled labels, g.mapped space, g.defaultGroup, "Services"]

variable {g : Grouping} {labels : Labels} {space : String}

theorem nonEmpty?_eq (s : String) : nonEmpty? s = if s = "" then none else some s := by
  simp [nonEmpty?]

theorem own_eq (labels : Labels) : own labels = listedBy labels := by
  unfold own listedBy groupsLabel
  cases labels.lookup "dnsportal.firestoned.io/groups" with
  | none => rfl
  | some s =>
    have hlisted : listed s = (Text.parts ',' s).filterMap Text.nonBlank? := by
      simp only [listed, ← Text.map_pieces, List.filterMap_map, Function.comp_def]
    rw [Option.map_some, Option.getD_some, hlisted, Text.filterMap_nonBlank?]

theorem byLabel?_eq (g : Grouping) (labels : Labels) :
    g.byLabel? labels = nonEmpty? (g.labelled labels) := by
  unfold byLabel? labelled
  cases g.labelKey with
  | none => rfl
  | some key =>
    by_cases hkey : key = ""
    · simp [nonEmpty?_eq, hkey]
    · cases hl : labels.lookup key <;> simp [nonEmpty?_eq, hkey, hl]

theorem bySpace?_eq (g : Grouping) (space : String) :
    g.bySpace? space = nonEmpty? (g.mapped space) := by
  unfold bySpace? mapped
  by_cases hspace : space = ""
  · simp [nonEmpty?_eq, hspace]
  · cases hl : g.bySpace.lookup space <;> simp [nonEmpty?_eq, hspace, hl]

theorem find?_offers (g : Grouping) (labels : Labels) (space : String) :
    (g.offers labels space).find? (· ≠ "") = some (g.assigned labels space) := by
  unfold offers assigned
  rw [byLabel?_eq, bySpace?_eq]
  by_cases hlabel : g.labelled labels = ""
  · by_cases hspace : g.mapped space = ""
    · by_cases hdefault : g.defaultGroup = "" <;>
        simp [nonEmpty?_eq, hlabel, hspace, hdefault, fallbackGroup]
    · simp [nonEmpty?_eq, hlabel, hspace]
  · simp [nonEmpty?_eq, hlabel]

theorem listedBy_congr {labels' : Labels}
    (h : labels'.lookup groupsLabel = labels.lookup groupsLabel) :
    listedBy labels' = listedBy labels := by
  unfold groupsLabel at h
  rw [listedBy, listedBy, h]

theorem labelled_congr {labels' : Labels}
    (h : ∀ key, g.labelKey = some key → labels'.lookup key = labels.lookup key) :
    g.labelled labels' = g.labelled labels := by
  unfold labelled
  cases hk : g.labelKey with
  | none => rfl
  | some key => simp only [h key hk]

theorem labelled_of_labelKey {g' : Grouping} (h : g'.labelKey = g.labelKey) (labels : Labels) :
    g'.labelled labels = g.labelled labels := by
  rw [labelled, labelled, h]

/-- After the first offer the others do not count. -/
theorem assigned_congr {g' : Grouping} {labels' : Labels} {space' group : String}
    (before : List String) {after after' : List String}
    (h : g.offers labels space = before ++ group :: after)
    (h' : g'.offers labels' space' = before ++ group :: after') (hgroup : group ≠ "") :
    g'.assigned labels' space' = g.assigned labels space := by
  have hfind (rest : List String) : (before ++ group :: rest).find? (· ≠ "") =
      (before ++ [group]).find? (· ≠ "") := by
    simp [List.find?_append, hgroup]
  have hsame := (find?_offers g' labels' space').symm.trans
    ((h' ▸ hfind after').trans (h ▸ hfind after).symm)
  exact Option.some.inj (hsame.trans (find?_offers g labels space))

/-! ## All rules -/

theorem resolve_eq (g : Grouping) (labels : Option Labels) (space : String) :
    g.resolve labels space =
      if listedBy (labels.getD []) = [] then [g.assigned (labels.getD []) space]
      else listedBy (labels.getD []) := by
  rw [← own_eq, resolve]
  cases own (labels.getD []) with
  | nil => rfl
  | cons group groups => rfl

theorem resolve_congr {g' : Grouping} {labels labels' : Option Labels} {space' : String}
    (hlisted : listedBy (labels'.getD []) = listedBy (labels.getD []))
    (hassigned : g'.assigned (labels'.getD []) space' = g.assigned (labels.getD []) space) :
    g'.resolve labels' space' = g.resolve labels space := by
  rw [resolve_eq, resolve_eq, hlisted, hassigned]

theorem resolve_ne_nil (g : Grouping) (labels : Option Labels) (space : String) :
    g.resolve labels space ≠ [] := by
  rw [resolve_eq]
  split
  · simp
  · assumption

theorem ne_empty_of_mem_resolve {labels : Option Labels} {group : String}
    (h : group ∈ g.resolve labels space) : group ≠ "" := by
  rw [resolve_eq] at h
  split at h
  · rw [List.mem_singleton.mp h]
    simpa using List.find?_some (find?_offers g (labels.getD []) space)
  · unfold listedBy at h
    split at h
    · simp at h
    · simpa using (List.mem_filter.mp h).2

/-- Without a list and without the label, the namespace decides or what comes after it. -/
theorem resolve_of_unlabelled {labels : Option Labels}
    (hlist : (labels.getD []).lookup groupsLabel = none)
    (hkey : ∀ key, g.labelKey = some key → (labels.getD []).lookup key = none) :
    g.resolve labels space =
      [([g.mapped space, g.defaultGroup].find? (· ≠ "")).getD "Services"] := by
  have hlisted : listedBy (labels.getD []) = [] := by
    rw [groupsLabel] at hlist
    simp only [listedBy, hlist]
  have hlabel : g.labelled (labels.getD []) = "" := by
    cases hk : g.labelKey with
    | none => simp only [labelled, hk]
    | some key => simp [labelled, hk, hkey key hk]
  have hfind := find?_offers g (labels.getD []) space
  rw [offers, hlabel, List.find?_cons_of_neg (by simp)] at hfind
  rw [resolve_eq, if_pos hlisted, List.singleton_inj, ← Option.some_inj, ← hfind]
  by_cases hmapped : g.mapped space = ""
  · by_cases hdefault : g.defaultGroup = "" <;> simp [hmapped, hdefault]
  · simp [hmapped]

/-- There always is a group, and none is empty. Those that the object lists itself are all it is in,
and nothing else counts then. Otherwise it is in the one group that is offered first; of its labels
only the list and the label that names the group are looked at, and once its label or its namespace
has decided, neither the rules that come later count nor what they go by. -/
theorem resolve_by_priority (g : Grouping) (labels : Option Labels) (space : String) :
    let ls := labels.getD []
    let groups := g.resolve labels space
    g.resolve none space = g.resolve (some []) space ∧
      groups ≠ [] ∧ (∀ group ∈ groups, group ≠ "") ∧
      (listedBy ls ≠ [] → groups = listedBy ls ∧
        ∀ (g' : Grouping) (labels' : Labels) (space' : String),
          labels'.lookup groupsLabel = ls.lookup groupsLabel →
            g'.resolve (some labels') space' = groups) ∧
      (listedBy ls = [] → ∃ group,
        (g.offers ls space).find? (· ≠ "") = some group ∧ groups = [group]) ∧
      (∀ labels' : Labels, labels'.lookup groupsLabel = ls.lookup groupsLabel →
        (∀ key, g.labelKey = some key → labels'.lookup key = ls.lookup key) →
          g.resolve (some labels') space = groups) ∧
      (g.labelled ls ≠ "" → ∀ (g' : Grouping) (space' : String), g'.labelKey = g.labelKey →
        g'.resolve labels space' = groups) ∧
      (g.mapped space ≠ "" → ∀ g' : Grouping, g'.labelKey = g.labelKey →
        g'.mapped space = g.mapped space → g'.resolve labels space = groups) := by
  intro ls groups
  have hgroups : groups = if listedBy ls = [] then [g.assigned ls space] else listedBy ls :=
    resolve_eq g labels space
  refine ⟨rfl, resolve_ne_nil g labels space, fun _ => ne_empty_of_mem_resolve, ?_, ?_, ?_, ?_, ?_⟩
  · intro h
    rw [hgroups, if_neg h]
    refine ⟨rfl, fun g' labels' space' hlookup => ?_⟩
    have hlisted : listedBy labels' = listedBy ls := listedBy_congr hlookup
    rw [resolve_eq, Option.getD_some, hlisted, if_neg h]
  · intro h
    exact ⟨g.assigned ls space, find?_offers g ls space, by rw [hgroups, if_pos h]⟩
  · intro labels' hlookup hkey
    have hoffers : g.offers labels' space = g.offers ls space := by
      rw [offers, offers, labelled_congr hkey]
    refine resolve_congr (listedBy_congr hlookup) (Option.some.inj ?_)
    rw [← find?_offers, ← find?_offers, Option.getD_some, hoffers]
  · intro hlabel g' space' hkey
    have hoffers : g'.offers ls space' =
        g.labelled ls :: [g'.mapped space', g'.defaultGroup, "Services"] := by
      rw [offers, labelled_of_labelKey hkey]
    exact resolve_congr rfl (assigned_congr [] rfl hoffers hlabel)
  · intro hspace g' hkey hmapped
    have hoffers : g'.offers ls space =
        g.labelled ls :: g.mapped space :: [g'.defaultGroup, "Services"] := by
      rw [offers, labelled_of_labelKey hkey, hmapped]
    exact resolve_congr rfl (assigned_congr [g.labelled ls] rfl hoffers hspace)

/-- The list is blank and is the label that names the group as well, so as a label it counts. -/
theorem resolve_by_priority_blankList :
    let g : Grouping := ⟨"Platform", some groupsLabel, [("shop", "Shop")]⟩
    let g' : Grouping := ⟨"", some groupsLabel, []⟩
    let labels : Labels := [(groupsLabel, " ,\t,"), ("team", "Search")]
    let named : Labels := [(groupsLabel, " ,Edge,, Core "), ("team", "Search")]
    listedBy labels = [] ∧ g.labelled labels ≠ "" ∧ g.resolve (some labels) "shop" = [" ,\t,"] ∧
      g'.resolve (some labels) "" = g.resolve (some labels) "shop" ∧
      listedBy named ≠ [] ∧ g.resolve (some named) "shop" = ["Edge", "Core"] := by
  intro g g' labels named
  obtain ⟨-, -, -, -, hone, -, hlabel, -⟩ := resolve_by_priority g (some labels) "shop"
  obtain ⟨-, -, -, hlisted, -⟩ := resolve_by_priority g (some named) "shop"
  have hblank : listedBy labels = [] := by decide
  have hnamed : listedBy named ≠ [] := by decide
  obtain ⟨group, hgroup, hresolve⟩ := hone hblank
  have hoffer : group = " ,\t," := Option.some.inj (hgroup.symm.trans (by decide))
  exact ⟨hblank, by decide, hoffer ▸ hresolve, hlabel (by decide) g' "" rfl, hnamed,
    (hlisted hnamed).1.trans (by decide)⟩

end Namebook.Grouping
