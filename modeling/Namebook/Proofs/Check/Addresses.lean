import Mathlib.Data.Multiset.Basic
import Namebook.Proofs.Check
import Namebook.Proofs.Text.Blank

/-!
# Addresses as they are compared

A check of addresses keeps those that are not of the other version, and compares them with the
expected targets as multisets of lower-case texts. Neither the order of either list matters nor
white space around their texts.
-/

namespace Namebook

open Dns (Question Resolver)

namespace Check

/-- The target can be read as an address, and it is one of the other version. -/
def IsForeign (q : Question) (target : String) : Prop :=
  ∃ ip, Address.Ip.parse? (Text.trim target) = some ip ∧ q.isFor ip = false

variable {q : Question} {resolver : Resolver} {name type : String} {found expected : List String}

theorem inFamily_iff {family : Address.Ip → Bool} {target : String} :
    inFamily family target = true ↔
      ∀ ip, Address.Ip.parse? (Text.trim target) = some ip → family ip = true := by
  simp [inFamily, Option.all_eq_true]

theorem inFamily_isFor {target : String} :
    inFamily q.isFor target = true ↔ ¬IsForeign q target := by
  rw [inFamily_iff, IsForeign]
  simp

instance (q : Question) (target : String) : Decidable (IsForeign q target) :=
  decidable_of_iff (¬inFamily q.isFor target = true) (by rw [inFamily_isFor, not_not])

/-! ## The comparison -/

/-- Texts are the same as often if and only if they are the same once they are sorted. -/
theorem perm_iff_mergeSort_eq {as bs : List String} : as.Perm bs ↔ as.mergeSort = bs.mergeSort := by
  constructor
  · intro h
    have hsorted (cs : List String) : cs.mergeSort.Pairwise (· ≤ ·) := by
      have hle : cs.mergeSort.Pairwise fun a b => decide (a ≤ b) = true :=
        List.pairwise_mergeSort (fun a b c => by simpa using String.le_trans)
          (fun a b => by simpa using String.le_total a b) cs
      simpa using hle
    apply List.Perm.eq_of_pairwise (fun a b _ _ => String.le_antisymm) (hsorted as) (hsorted bs)
    exact ((List.mergeSort_perm as _).trans h).trans (List.mergeSort_perm bs _).symm
  · intro h
    have hperm := List.mergeSort_perm as fun a b => decide (a ≤ b)
    rw [h] at hperm
    exact hperm.symm.trans (List.mergeSort_perm bs _)

/-- To compare the lengths first makes no difference but to the work. -/
theorem sameTargets_iff {resolved expected : List String} :
    sameTargets resolved expected = true ↔ (resolved.map form).Perm (expected.map form) := by
  unfold sameTargets
  rw [Bool.and_eq_true, beq_iff_eq, beq_iff_eq, perm_iff_mergeSort_eq]
  refine ⟨fun h => h.2, fun h => ⟨?_, h⟩⟩
  have hlength := (perm_iff_mergeSort_eq.mpr h).length_eq
  rwa [List.length_map, List.length_map] at hlength

theorem addresses_of_ok {family : Address.Ip → Bool} (h : resolver.host name = .ok found) :
    addresses resolver name expected family =
      ⟨if sameTargets (found.filter (inFamily family)) expected then .sync else .notSync,
        found.filter (inFamily family)⟩ := by
  rw [addresses, h]

theorem filter_inFamily (q : Question) (found : List String) :
    found.filter (inFamily q.isFor) = found.filter fun target => ¬IsForeign q target := by
  apply List.filter_congr
  intro target _
  rw [Bool.eq_iff_iff, inFamily_isFor, decide_eq_true_iff]

/-! ## Order and white space -/

/-- The same texts in some order, with white space around any of them. -/
def Rearranges (others targets : List String) : Prop :=
  ∃ order : List String, order.Perm targets ∧ List.Forall₂ Text.IsPadded others order

theorem perm_map_trim_of_rearranges {others targets : List String} (h : Rearranges others targets) :
    (others.map Text.trim).Perm (targets.map Text.trim) := by
  obtain ⟨order, hperm, hpadded⟩ := h
  have htrim : others.map Text.trim = order.map Text.trim := by
    induction hpadded generalizing targets with
    | nil => rfl
    | cons hhead _ ih =>
      rw [List.map_cons, List.map_cons, Text.trim_of_isPadded hhead, ih (.refl _)]
  rw [htrim]
  exact hperm.map Text.trim

/-- What is compared of the texts only depends on the trimmed texts. -/
theorem map_form_filter (family : Address.Ip → Bool) (targets : List String) :
    (targets.filter (inFamily family)).map form =
      ((targets.map Text.trim).filter fun t => (Address.Ip.parse? t).all family).map
        Text.lowercase := by
  have hform : Text.lowercase ∘ Text.trim = form := rfl
  have hfamily : (fun t => (Address.Ip.parse? t).all family) ∘ Text.trim = inFamily family := by
    funext target
    rw [Function.comp_apply, inFamily]
  rw [List.filter_map, List.map_map, hform, hfamily]

theorem perm_form_filter (family : Address.Ip → Bool) {others targets : List String}
    (h : Rearranges others targets) :
    ((others.filter (inFamily family)).map form).Perm
      ((targets.filter (inFamily family)).map form) := by
  rw [map_form_filter, map_form_filter]
  exact ((perm_map_trim_of_rearranges h).filter _).map _

theorem perm_form {others targets : List String} (h : Rearranges others targets) :
    (others.map form).Perm (targets.map form) := by
  have hform : Text.lowercase ∘ Text.trim = form := rfl
  rw [← hform, ← List.map_map, ← List.map_map]
  exact (perm_map_trim_of_rearranges h).map _

theorem status_addresses_of_rearranges {other : Resolver} {host : String}
    {others targets : List String} (family : Address.Ip → Bool)
    (hfound : resolver.host name = .ok found) (hothers : other.host host = .ok others)
    (h : Rearranges others found) (he : Rearranges targets expected) :
    (addresses other host targets family).status =
      (addresses resolver name expected family).status := by
  have hsame : sameTargets (others.filter (inFamily family)) targets =
      sameTargets (found.filter (inFamily family)) expected := by
    rw [Bool.eq_iff_iff, sameTargets_iff, sameTargets_iff]
    have hresolved := perm_form_filter family h
    have htargets := perm_form he
    exact ⟨fun hp => (hresolved.symm.trans hp).trans htargets,
      fun hp => (hresolved.trans hp).trans htargets.symm⟩
  rw [addresses_of_ok hothers, addresses_of_ok hfound, hsame]

/-! ## Both versions -/

theorem count_filter_isForeign (q : Question) (found : List String) (target : String) :
    (found.filter fun t => ¬IsForeign q t).count target =
      if IsForeign q target then 0 else found.count target := by
  by_cases h : IsForeign q target
  · rw [if_pos h, List.count_eq_zero]
    simp [h]
  · rw [if_neg h]
    exact List.count_filter (by simpa using h)

theorem isForeign_iff {target : String} {ip : Address.Ip}
    (h : Address.Ip.parse? (Text.trim target) = some ip) :
    IsForeign q target ↔ q.isFor ip = false := by
  simp [IsForeign, h]

theorem not_isForeign {target : String} (h : Address.Ip.parse? (Text.trim target) = none) :
    ¬IsForeign q target := by
  simp [IsForeign, h]

/-- A check of addresses of either version, for a name that has been found. It gives the texts that
were found, but for those that are addresses of the other version, in their order and as they are.
These are compared with the expected targets as multisets of trimmed texts in lower case: as many,
and the same when sorted. So neither order nor white space matters to the status. An address is
given as often as it was found, for the one version that it is of; what is no address is given for
both. -/
theorem addresses_compared (resolver : Resolver) (name : String) (found : List String)
    (hfound : resolver.host name = .ok found) :
    (∀ (q : Question) (type : String) (expected : List String), q ≠ .cname → q.IsSpelled type →
      let result := check resolver name type expected
      let alike := (result.resolved.map form : Multiset String) = expected.map form
      result.resolved = found.filter (fun target => ¬IsForeign q target) ∧
        (result.status = .sync ↔ alike) ∧ (result.status = .notSync ↔ ¬alike) ∧
        (alike ↔ result.resolved.length = expected.length ∧
          (result.resolved.map form).mergeSort = (expected.map form).mergeSort) ∧
        ∀ (other : Resolver) (host : String) (others targets : List String),
          other.host host = .ok others → Rearranges others found → Rearranges targets expected →
            (check other host type targets).status = result.status) ∧
      ∀ (v4 v6 : String) (expected : List String),
        Question.a.IsSpelled v4 → Question.aaaa.IsSpelled v6 →
        let a := (check resolver name v4 expected).resolved
        let aaaa := (check resolver name v6 expected).resolved
        (∀ target ip, Address.Ip.parse? (Text.trim target) = some ip →
          a.count target = (if ip.isV4 then found.count target else 0) ∧
            aaaa.count target = if ip.isV4 then 0 else found.count target) ∧
          ∀ target, Address.Ip.parse? (Text.trim target) = none →
            a.count target = found.count target ∧ aaaa.count target = found.count target := by
  have hchecked {q : Question} {type : String} (expected : List String) (hne : q ≠ .cname)
      (hq : q.IsSpelled type) : check resolver name type expected =
        ⟨if sameTargets (found.filter (inFamily q.isFor)) expected then .sync else .notSync,
          found.filter (inFamily q.isFor)⟩ := by
    rw [check_of_address hq hne, addresses_of_ok hfound]
  constructor
  · intro q type expected hne hq result alike
    have hresult : result = _ := hchecked expected hne hq
    have halike : sameTargets (found.filter (inFamily q.isFor)) expected = true ↔ alike := by
      rw [sameTargets_iff, ← Multiset.coe_eq_coe]
      simp only [alike, hresult]
    refine ⟨?given, ?sync, ?notSync, ?sorted, ?rearranged⟩
    case given => rw [hresult, filter_inFamily]
    case sync => rw [hresult, ite_eq_sync_iff, halike]
    case notSync => rw [hresult, ite_eq_notSync_iff, halike]
    case sorted =>
      rw [← perm_iff_mergeSort_eq, ← Multiset.coe_eq_coe]
      refine ⟨fun h => ⟨?_, h⟩, fun h => h.2⟩
      simpa using congrArg Multiset.card h
    case rearranged =>
      intro other host others targets hothers h he
      have hsame := status_addresses_of_rearranges q.isFor hfound hothers h he
      rwa [← check_of_address hq hne, ← check_of_address hq hne] at hsame
  · intro v4 v6 expected hv4 hv6 a aaaa
    have ha : a = found.filter fun t => ¬IsForeign .a t := by
      rw [← filter_inFamily]
      exact congrArg CheckResult.resolved (hchecked expected (by decide) hv4)
    have haaaa : aaaa = found.filter fun t => ¬IsForeign .aaaa t := by
      rw [← filter_inFamily]
      exact congrArg CheckResult.resolved (hchecked expected (by decide) hv6)
    rw [ha, haaaa]
    refine ⟨fun target ip hip => ?_, fun target hnone => ?_⟩
    · rw [count_filter_isForeign, count_filter_isForeign]
      simp only [isForeign_iff hip]
      cases ip <;> simp [Question.isFor, Address.Ip.isV4]
    · rw [count_filter_isForeign, count_filter_isForeign, if_neg (not_isForeign hnone),
        if_neg (not_isForeign hnone)]
      exact ⟨rfl, rfl⟩

/-- A name with addresses of both versions, and with a target that is no address. -/
theorem addresses_compared_mixed :
    let found := ["10.0.0.2", "2001:DB8::1", "Gateway", " 10.0.0.1"]
    let resolver : Resolver := .ofTables [("api.example.com", found)] []
    let expected := ["gateway ", "10.0.0.1", "10.0.0.2"]
    resolver.host "api.example.com" = .ok found ∧ Question.a.IsSpelled " a" ∧
      check resolver "api.example.com" " a" expected =
        ⟨.sync, ["10.0.0.2", "Gateway", " 10.0.0.1"]⟩ := by
  intro found resolver expected
  have hfound : resolver.host "api.example.com" = .ok found := rfl
  have hspelled : Question.a.IsSpelled " a" := by decide
  obtain ⟨hresolved, hsync, -⟩ :=
    (addresses_compared resolver "api.example.com" found hfound).1 .a " a" expected (by decide)
      hspelled
  have hgiven : (found.filter fun target => ¬IsForeign .a target) =
      ["10.0.0.2", "Gateway", " 10.0.0.1"] := by decide +kernel
  rw [hgiven] at hresolved
  rw [hresolved, Multiset.coe_eq_coe] at hsync
  have hstatus := hsync.mpr (List.isPerm_iff.mp (by decide +kernel))
  refine ⟨hfound, hspelled, ?_⟩
  rw [← hresolved, ← hstatus]

end Check

end Namebook
