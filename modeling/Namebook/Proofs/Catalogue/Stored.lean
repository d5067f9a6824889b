import Namebook.Proofs.Catalogue
import Namebook.Proofs.Text.Normal
import Namebook.Proofs.Time.Instant

/-!
# What is stored of a name

What a catalogue stores of a name is made of the records of that name alone, merged in the order of
their arrival. As long as no manual record takes the place of a discovered one, this is the first of
them, seen as late as any. Otherwise it is the first manual one with what the very first said of
DNS, and it is seen as late as any from the manual one on: what was seen of the name before is
forgotten.
-/

namespace Namebook

/-- The type is in normal form, as `Record.withType` makes it. -/
def Record.IsNormal (r : Record) : Prop := Text.normalizeType r.type = r.type

instance (r : Record) : Decidable r.IsNormal :=
  inferInstanceAs (Decidable (Text.normalizeType r.type = r.type))

theorem Record.isNormal_named (name : String) (p : Provenance) (seen : Time.Instant) :
    (Record.named name p seen).IsNormal := by
  simp [IsNormal, named, Text.normalizeType, Text.asciiUpper, Text.trimChars, Text.trimStart,
    Text.trimEnd]

theorem Record.isNormal_withType (type : String) (r : Record) : (r.withType type).IsNormal :=
  Text.normalizeType_normalizeType type

namespace Catalogue

/-! ## Two records -/

theorem merge_of_stays {existing incoming : Record}
    (h : existing.provenance = .manual ∨ incoming.provenance ≠ .manual) :
    merge existing incoming = existing.withSeen (max existing.seen incoming.seen) := by
  have hnot : ¬(incoming.provenance = .manual ∧ existing.provenance = .discovered) := by
    rintro ⟨hin, hex⟩
    rcases h with h | h
    · exact nomatch h.symm.trans hex
    · exact h hin
  rw [merge, if_neg hnot, Time.Instant.latest_eq_max]

theorem merge_of_replaced {existing incoming : Record} (hex : existing.provenance ≠ .manual)
    (hin : incoming.provenance = .manual) :
    merge existing incoming =
      (incoming.withTargets existing.targets).withType existing.type := by
  have hdiscovered : existing.provenance = .discovered := by
    cases h : existing.provenance with
    | manual => exact absurd h hex
    | discovered => rfl
  rw [merge, if_pos ⟨hin, hdiscovered⟩]

/-! ## The records of one name -/

/-- What records of one name become, in the order of their arrival. -/
def mergeAll : List Record → Option Record
  | [] => none
  | first :: rest => some (rest.foldl merge first)

theorem mergeAll_concat (es : List Record) (r : Record) :
    mergeAll (es ++ [r]) = some (((mergeAll es).map fun e => merge e r).getD r) := by
  cases es with
  | nil => rfl
  | cons first rest => simp [mergeAll]

theorem foldl_merge_of_stays {first : Record} {rest : List Record}
    (h : first.provenance = .manual ∨ ∀ e ∈ rest, e.provenance ≠ .manual) :
    rest.foldl merge first = first.withSeen ((rest.map Record.seen).foldl max first.seen) := by
  induction rest generalizing first with
  | nil => rfl
  | cons e rest ih =>
    have hstays : first.provenance = .manual ∨ e.provenance ≠ .manual :=
      h.imp_right fun hall => hall e List.mem_cons_self
    rw [List.foldl_cons, merge_of_stays hstays, ih]
    · rfl
    · exact h.imp_right fun hall x hx => hall x (List.mem_cons_of_mem e hx)

theorem foldl_merge_of_replaced {first m : Record} {before later : List Record}
    (hbefore : ∀ e ∈ first :: before, e.provenance ≠ .manual) (hm : m.provenance = .manual) :
    (before ++ m :: later).foldl merge first =
      { m with
        targets := first.targets
        type := Text.normalizeType first.type
        seen := (later.map Record.seen).foldl max m.seen } := by
  obtain ⟨hfirst, hrest⟩ := List.forall_mem_cons.mp hbefore
  let seen := (before.map Record.seen).foldl max first.seen
  have hstays : before.foldl merge first = first.withSeen seen :=
    foldl_merge_of_stays (.inr hrest)
  let winner := (m.withTargets first.targets).withType first.type
  have hreplaced : merge (first.withSeen seen) m = winner := merge_of_replaced hfirst hm
  have hmanual : winner.provenance = .manual := by
    simp only [winner, Record.withType, Record.withTargets, hm]
  rw [List.foldl_append, hstays, List.foldl_cons, hreplaced, foldl_merge_of_stays (.inl hmanual)]
  simp only [winner, Record.withSeen, Record.withType, Record.withTargets]

/-! ## All records -/

theorem find?_addTo (r : Record) (rs : List Record) (name : String) :
    (addTo r rs).find? (fun x => x.name == name) =
      if r.name = name then
        some (((rs.find? fun x => x.name == name).map fun e => merge e r).getD r)
      else rs.find? fun x => x.name == name := by
  induction rs with
  | nil =>
    by_cases h : r.name = name <;> simp [addTo, h]
  | cons x rs ih =>
    unfold addTo
    by_cases hx : x.name = r.name
    · by_cases h : r.name = name <;> simp [hx, h, name_merge hx]
    · rw [if_neg hx]
      by_cases hname : x.name = name
      · have h : r.name ≠ name := fun h => hx (hname.trans h.symm)
        simp [hname, h]
      · simp [hname, ih]

theorem find?_add (c : Catalogue) (r : Record) (name : String) :
    (c.add r).find? name =
      if r.name = name then some (((c.find? name).map fun e => merge e r).getD r)
      else c.find? name :=
  find?_addTo r c.records name

theorem find?_ofList (rs : List Record) (name : String) :
    (ofList rs).find? name = mergeAll (rs.filter fun r => r.name = name) := by
  induction rs using List.reverseRecOn with
  | nil => rfl
  | append_singleton rs r ih =>
    have hadd : (ofList (rs ++ [r])).find? name = ((ofList rs).add r).find? name := by
      rw [ofList, List.foldl_append]
      rfl
    rw [hadd, find?_add, ih, List.filter_append]
    by_cases h : r.name = name
    · simp [h, mergeAll_concat]
    · simp [h]

theorem name_of_find? {c : Catalogue} {name : String} {r : Record} (h : c.find? name = some r) :
    r.name = name := by simpa using List.find?_some h

theorem find?_of_mem {c : Catalogue} (hc : (c.records.map Record.name).Nodup) {r : Record}
    (hr : r ∈ c.records) : c.find? r.name = some r := by
  have hsome : (c.find? r.name).isSome = true :=
    List.find?_isSome.mpr ⟨r, hr, beq_self_eq_true r.name⟩
  obtain ⟨x, hx⟩ := Option.isSome_iff_exists.mp hsome
  have hmem : x ∈ c.records := List.mem_of_find?_eq_some hx
  rw [hx, List.inj_on_of_nodup_map hc hmem hr (name_of_find? hx)]

theorem size_ofList (rs : List Record) : (ofList rs).size = (rs.map Record.name).toFinset.card := by
  have hnames : (rs.map Record.name).toFinset = (rs.map Record.name).eraseDups.toFinset := by
    ext name
    simp
  rw [hnames, List.toFinset_card_of_nodup (nodup_eraseDups _), ← names_ofList, List.length_map,
    size]

section
variable {rs : List Record} {name : String} {first : Record}

theorem find?_eq_none (hes : (rs.filter fun r => r.name = name) = []) :
    (ofList rs).find? name = none := by
  rw [find?_ofList, hes, mergeAll]

/-- The first record stays, and is seen as late as any. -/
theorem find?_of_stays {rest : List Record}
    (hes : (rs.filter fun r => r.name = name) = first :: rest)
    (h : first.provenance = .manual ∨ ∀ e ∈ rest, e.provenance ≠ .manual) :
    ∃ seen, ((first :: rest).map Record.seen).max? = some seen ∧
      (ofList rs).find? name = some { first with seen } := by
  refine ⟨(rest.map Record.seen).foldl max first.seen, List.max?_cons', ?_⟩
  rw [find?_ofList, hes, mergeAll, foldl_merge_of_stays h]
  rfl

/-- The first manual record takes the place of those before it. -/
theorem find?_of_replaced {m : Record} {before later : List Record}
    (hes : (rs.filter fun r => r.name = name) = (first :: before) ++ m :: later)
    (hbefore : ∀ e ∈ first :: before, e.provenance ≠ .manual) (hm : m.provenance = .manual) :
    ∃ seen, ((m :: later).map Record.seen).max? = some seen ∧
      (ofList rs).find? name =
        some { m with
          targets := first.targets
          type := Text.normalizeType first.type
          seen } := by
  refine ⟨(later.map Record.seen).foldl max m.seen, List.max?_cons', ?_⟩
  rw [find?_ofList, hes, List.cons_append, mergeAll, foldl_merge_of_replaced hbefore hm]

end

/-- What is stored of every name is a function of the records of that name. Each stored record is
found under its own name, however that is written, and there are as many as there are names. -/
theorem find?_of_namesakes (rs : List Record) (h : ∀ r ∈ rs, r.IsNormal) :
    let c := ofList rs
    (∀ name,
      let es := rs.filter fun r => r.name = name
      (es = [] → c.find? name = none) ∧
      (∀ first rest, es = first :: rest →
        (∀ e ∈ es, e.provenance ≠ .manual) ∨ first.provenance = .manual →
        ∃ seen, (es.map Record.seen).max? = some seen ∧
          c.find? name = some { first with seen }) ∧
      ∀ first before m later, es = (first :: before) ++ m :: later →
        (∀ e ∈ first :: before, e.provenance ≠ .manual) → m.provenance = .manual →
        ∃ seen, ((m :: later).map Record.seen).max? = some seen ∧
          c.find? name =
            some { m with targets := first.targets, type := first.type, seen }) ∧
      c.size = (rs.map Record.name).toFinset.card ∧
      (∀ r ∈ c.records, c.find? r.name = some r) ∧
      (∀ name r, c.find? name = some r → r.name = name) ∧
      ∀ raw, c.get? raw = c.find? (Text.normalizeName raw) := by
  intro c
  have hnodup : (c.records.map Record.name).Nodup := by
    rw [names_ofList]
    exact nodup_eraseDups _
  refine ⟨fun name => ?_, size_ofList rs, fun r hr => find?_of_mem hnodup hr,
    fun name r hr => name_of_find? hr, fun raw => rfl⟩
  intro es
  refine ⟨find?_eq_none, ?stays, ?replaced⟩
  case stays =>
    intro first rest hes hkeeps
    rw [hes] at hkeeps ⊢
    refine find?_of_stays hes (hkeeps.symm.imp_right fun hall e he => ?_)
    exact hall e (List.mem_cons_of_mem first he)
  case replaced =>
    intro first before m later hes hbefore hm
    have hmem : first ∈ es := hes ▸ List.mem_cons_self
    have hnormal : Text.normalizeType first.type = first.type := h first (List.mem_filter.mp hmem).1
    obtain ⟨seen, hseen, hstored⟩ := find?_of_replaced hes hbefore hm
    rw [hnormal] at hstored
    exact ⟨seen, hseen, hstored⟩

/-- A name is found twice before a person claims it, and found once more. -/
theorem find?_of_namesakes_claimed :
    let found (seconds : Int) :=
      ((Record.named "X" .discovered ⟨seconds, 0⟩).withType " a").withTargets ["10.0.0.1"]
    let owned := (Record.named "x" .manual ⟨20, 0⟩).withDescription "owned"
    let other := Record.named "y" .discovered ⟨50, 0⟩
    let rs := [found 10, other, found 40, owned, found 30]
    (∀ r ∈ rs, r.IsNormal) ∧
      (ofList rs).get? " X" =
        some { owned with targets := ["10.0.0.1"], type := "A", seen := ⟨30, 0⟩ } ∧
      (ofList rs).size = 2 := by
  intro found owned other rs
  have hfound (seconds : Int) : (found seconds).IsNormal :=
    Record.isNormal_withType " a" (Record.named "X" .discovered ⟨seconds, 0⟩)
  have howned : owned.IsNormal := Record.isNormal_named "x" .manual ⟨20, 0⟩
  have hother : other.IsNormal := Record.isNormal_named "y" .discovered ⟨50, 0⟩
  have h : ∀ r ∈ rs, r.IsNormal := by simp [rs, hfound, howned, hother]
  obtain ⟨hnames, hsize, -, -, hget⟩ := find?_of_namesakes rs h
  obtain ⟨seen, hseen, hstored⟩ := (hnames "x").2.2 (found 10) [found 40] owned [found 30]
    (by decide) (by decide) rfl
  have hlatest : ([owned, found 30].map Record.seen).max? = some ⟨30, 0⟩ := by decide
  obtain rfl : seen = ⟨30, 0⟩ := Option.some.inj (hseen.symm.trans hlatest)
  have hx : Text.normalizeName " X" = "x" := by decide
  refine ⟨h, ?_, hsize.trans (by decide)⟩
  rw [hget, hx]
  exact hstored

end Catalogue

end Namebook
