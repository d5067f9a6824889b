import Mathlib.Logic.Function.Basic
import Namebook.Change
import Namebook.Proofs.Record

/-!
# Changes replayed

One who is told changes holds an entry for each key. Replaying the changes between two lists leads
from a mirror of the first list to a mirror of the second, and each of them fits what is held at
its turn. Both rest on the fact that no key is changed twice.
-/

namespace Namebook

/-- The entries that somebody holds, by key. -/
abbrev Holding := String → Option Record

def Holding.empty : Holding := fun _ => none

/-- Exactly the keys of a list, each with an entry of the content that the list has for it. -/
structure Holding.Mirrors (held : Holding) (rs : List Record) : Prop where
  keys : ∀ key, (held key).isSome = true ↔ key ∈ rs.map Record.key
  content : ∀ r ∈ rs, ∀ entry, held r.key = some entry → entry.contentEq r = true

theorem Holding.mirrors_empty : Holding.empty.Mirrors [] where
  keys := by simp [Holding.empty]
  content := by simp

namespace Change

/-- What is held for the key of a change after it. -/
def outcome (c : Change) : Option Record :=
  match c.kind with
  | .added => some c.record
  | .modified => some c.record
  | .deleted => none

def apply (held : Holding) (c : Change) : Holding := Function.update held c.record.key c.outcome

def replay (held : Holding) (cs : List Change) : Holding := cs.foldl apply held

/-- Only what is absent is added, and only what is present is deleted or gets another content. -/
def Fits (held : Holding) (c : Change) : Prop :=
  match c.kind with
  | .added => held c.record.key = none
  | .modified => ∃ entry, held c.record.key = some entry ∧ entry.contentEq c.record = false
  | .deleted => held c.record.key ≠ none

/-- Each change fits what is held after those before it. -/
def Lawful (held : Holding) : List Change → Prop
  | [] => True
  | c :: cs => Fits held c ∧ Lawful (apply held c) cs

/-! ## Replaying -/

theorem replay_append (held : Holding) (cs ds : List Change) :
    replay held (cs ++ ds) = replay (replay held cs) ds := List.foldl_append

theorem replay_of_notMem {held : Holding} {cs : List Change} {key : String}
    (h : key ∉ cs.map fun c => c.record.key) : replay held cs key = held key := by
  induction cs generalizing held with
  | nil => rfl
  | cons c cs ih =>
    rw [List.map_cons, List.mem_cons, not_or] at h
    rw [replay, List.foldl_cons, ← replay, ih h.2, apply, Function.update_of_ne h.1]

theorem replay_of_mem {held : Holding} {cs : List Change}
    (hn : (cs.map fun c => c.record.key).Nodup) {c : Change} (hc : c ∈ cs) :
    replay held cs c.record.key = c.outcome := by
  induction cs generalizing held with
  | nil => simp at hc
  | cons d cs ih =>
    obtain ⟨hd, hn⟩ := List.nodup_cons.mp hn
    rw [replay, List.foldl_cons, ← replay]
    rcases List.mem_cons.mp hc with rfl | hc
    · rw [replay_of_notMem hd, apply, Function.update_self]
    · exact ih hn hc

theorem lawful_append {held : Holding} {cs ds : List Change} :
    Lawful held (cs ++ ds) ↔ Lawful held cs ∧ Lawful (replay held cs) ds := by
  induction cs generalizing held with
  | nil => simp [Lawful, replay]
  | cons c cs ih =>
    rw [List.cons_append, Lawful, Lawful, ih, and_assoc]
    rfl

theorem lawful_of_prefix {held : Holding} {cs ds : List Change} (h : cs <+: ds)
    (hl : Lawful held ds) : Lawful held cs := by
  obtain ⟨rest, rfl⟩ := h
  exact (lawful_append.mp hl).1

theorem lawful_iff {held : Holding} {cs : List Change} :
    Lawful held cs ↔
      ∀ before c after, cs = before ++ c :: after → Fits (replay held before) c := by
  constructor
  · rintro h before c after rfl
    exact (lawful_append.mp h).2.1
  · intro h
    induction cs generalizing held with
    | nil => trivial
    | cons c cs ih =>
      refine ⟨h [] c cs rfl, ih fun before d after hs => ?_⟩
      exact h (c :: before) d after (by rw [hs, List.cons_append])

/-! ## What a comparison reports -/

theorem lastWith?_eq_some_iff {rs : List Record} (h : (rs.map Record.key).Nodup) {key : String}
    {r : Record} : lastWith? key rs = some r ↔ r ∈ rs ∧ r.key = key := by
  constructor
  · intro hf
    exact ⟨List.mem_reverse.mp (List.mem_of_find?_eq_some hf), by simpa using List.find?_some hf⟩
  · rintro ⟨hr, rfl⟩
    refine Record.find?_key ?_ (List.mem_reverse.mpr hr)
    rw [List.map_reverse]
    exact ((List.reverse_perm _).nodup_iff).mpr h

theorem lastWith?_eq_none_iff {rs : List Record} {key : String} :
    lastWith? key rs = none ↔ key ∉ rs.map Record.key := by
  simp [lastWith?, List.find?_eq_none, List.mem_map]

theorem arrival?_eq_some_iff {previous : List Record} (hp : (previous.map Record.key).Nodup)
    {r : Record} {c : Change} :
    arrival? previous r = some c ↔ c.record = r ∧
      (c.kind = .added ∧ r.key ∉ previous.map Record.key ∨
        c.kind = .modified ∧
          ∃ old ∈ previous, old.key = r.key ∧ old.contentEq r = false) := by
  obtain ⟨kind, record⟩ := c
  unfold arrival?
  cases h : lastWith? r.key previous with
  | none =>
    have hk : r.key ∉ previous.map Record.key := lastWith?_eq_none_iff.mp h
    have ho : ∀ old ∈ previous, old.key ≠ r.key :=
      fun old ho he => hk (he ▸ List.mem_map_of_mem ho)
    simp only [Option.some.injEq, Change.mk.injEq]
    grind
  | some before =>
    obtain ⟨hb, hk⟩ := (lastWith?_eq_some_iff hp).mp h
    have hu : ∀ old ∈ previous, old.key = r.key → old = before := fun old ho he =>
      Option.some.inj (((lastWith?_eq_some_iff hp).mpr ⟨ho, he⟩).symm.trans h)
    have hm : r.key ∈ previous.map Record.key := hk ▸ List.mem_map_of_mem hb
    cases hc : before.contentEq r <;> grind

theorem departure?_eq_some_iff {current : List Record} {r : Record} {c : Change} :
    departure? current r = some c ↔
      c.record = r ∧ c.kind = .deleted ∧ r.key ∉ current.map Record.key := by
  obtain ⟨kind, record⟩ := c
  have hk : (current.any fun x => x.key == r.key) = true ↔ r.key ∈ current.map Record.key := by
    simp [List.any_eq_true, List.mem_map]
  unfold departure?
  by_cases h : r.key ∈ current.map Record.key
  · rw [if_pos (hk.mpr h)]
    exact iff_of_false nofun fun hd => hd.2.2 h
  · rw [if_neg (mt hk.mp h), Option.some.injEq, Change.mk.injEq]
    grind

/-- The three reasons for a change. -/
theorem mem_between {previous current : List Record} (hp : (previous.map Record.key).Nodup)
    {c : Change} :
    c ∈ between previous current ↔
      (c.kind = .added ∧ c.record ∈ current ∧ c.record.key ∉ previous.map Record.key) ∨
      (c.kind = .modified ∧ c.record ∈ current ∧
        ∃ old ∈ previous, old.key = c.record.key ∧ old.contentEq c.record = false) ∨
      (c.kind = .deleted ∧ c.record ∈ previous ∧ c.record.key ∉ current.map Record.key) := by
  simp only [between, List.mem_append, List.mem_filterMap, arrival?_eq_some_iff hp,
    departure?_eq_some_iff]
  constructor
  · rintro (⟨_, hr, rfl, h | h⟩ | ⟨_, hr, rfl, h⟩)
    · exact .inl ⟨h.1, hr, h.2⟩
    · exact .inr (.inl ⟨h.1, hr, h.2⟩)
    · exact .inr (.inr ⟨h.1, hr, h.2⟩)
  · rintro (⟨hk, hr, h⟩ | ⟨hk, hr, h⟩ | ⟨hk, hr, h⟩)
    · exact .inl ⟨_, hr, rfl, .inl ⟨hk, h⟩⟩
    · exact .inl ⟨_, hr, rfl, .inr ⟨hk, h⟩⟩
    · exact .inr ⟨_, hr, rfl, hk, h⟩

/-- Changes picked from a list, each about the record that it was picked for. -/
theorem sublist_records {pick : Record → Option Change}
    (h : ∀ r c, pick r = some c → c.record = r) (rs : List Record) :
    ((rs.filterMap pick).map Change.record).Sublist rs := by
  induction rs with
  | nil => simp
  | cons r rs ih =>
    rw [List.filterMap_cons]
    cases hr : pick r with
    | none => exact ih.cons r
    | some c =>
      rw [List.map_cons, h r c hr]
      exact ih.cons_cons r

/-- No key is changed twice. -/
theorem nodup_keys_between {previous current : List Record}
    (hp : (previous.map Record.key).Nodup) (hc : (current.map Record.key).Nodup) :
    ((between previous current).map fun c => c.record.key).Nodup := by
  have ha : ((current.filterMap (arrival? previous)).map Change.record).Sublist current :=
    sublist_records (fun _ _ h => ((arrival?_eq_some_iff hp).mp h).1) current
  have hd : ((previous.filterMap (departure? current)).map Change.record).Sublist previous :=
    sublist_records (fun _ _ h => (departure?_eq_some_iff.mp h).1) previous
  rw [between, List.map_append, List.nodup_append]
  refine ⟨?_, ?_, ?_⟩
  · rw [← Function.comp_def Record.key Change.record, ← List.map_map]
    exact (ha.map Record.key).nodup hc
  · rw [← Function.comp_def Record.key Change.record, ← List.map_map]
    exact (hd.map Record.key).nodup hp
  · simp only [List.mem_map, List.mem_filterMap, departure?_eq_some_iff]
    rintro _ ⟨c, ⟨r, hr, hrc⟩, rfl⟩ _ ⟨d, ⟨s, hs, rfl, -, hn⟩, rfl⟩ he
    have hcr := ((arrival?_eq_some_iff hp).mp hrc).1
    exact hn ⟨r, hr, hcr ▸ he⟩

/-! ## Mirrors stay mirrors -/

section Between

variable {held : Holding} {previous current : List Record}

/-- Every change between two lists is one that fits, at its turn, what mirrors the first list. -/
theorem lawful_between (hp : (previous.map Record.key).Nodup)
    (hc : (current.map Record.key).Nodup) (hm : held.Mirrors previous) :
    Lawful held (between previous current) := by
  rw [lawful_iff]
  intro before c after hs
  have hn := nodup_keys_between hp hc
  have hmem : c ∈ between previous current := by simp [hs]
  -- What is held for the key of `c` is still what was held at the beginning.
  have hk : replay held before c.record.key = held c.record.key := by
    apply replay_of_notMem
    rw [hs, List.map_append, List.map_cons, List.nodup_append] at hn
    exact fun hb => hn.2.2 _ hb _ List.mem_cons_self rfl
  unfold Fits
  rw [hk]
  rcases (mem_between hp).mp hmem with ⟨ht, -, ha⟩ | ⟨ht, -, old, ho, hok, hd⟩ | ⟨ht, hr, -⟩
  · rw [ht]
    show held c.record.key = none
    rw [← Option.not_isSome_iff_eq_none, hm.keys]
    exact ha
  · rw [ht]
    obtain ⟨entry, he⟩ := Option.isSome_iff_exists.mp
      ((hm.keys old.key).mpr (List.mem_map_of_mem ho))
    refine ⟨entry, hok ▸ he, Bool.eq_false_iff.mpr fun hce => ?_⟩
    have hoe := Record.contentEq_symm (hm.content old ho entry he)
    rw [Record.contentEq_trans hoe hce] at hd
    exact Bool.noConfusion hd
  · rw [ht]
    show held c.record.key ≠ none
    rw [← Option.isSome_iff_ne_none, hm.keys]
    exact List.mem_map_of_mem hr

/-- A key of the second list that no change is about keeps an entry of the right content. -/
theorem held_of_unchanged (hp : (previous.map Record.key).Nodup) (hm : held.Mirrors previous)
    {r : Record} (hr : r ∈ current)
    (hk : r.key ∉ (between previous current).map fun c => c.record.key) :
    ∃ entry, held r.key = some entry ∧ entry.contentEq r = true := by
  have hnew (c : Change) (hcr : c.record = r) : c ∉ between previous current :=
    fun hc => hk (hcr ▸ List.mem_map_of_mem hc)
  have hpk : r.key ∈ previous.map Record.key := by
    by_contra ha
    exact hnew ⟨.added, r⟩ rfl ((mem_between hp).mpr (.inl ⟨rfl, hr, ha⟩))
  obtain ⟨old, ho, hok⟩ := List.mem_map.mp hpk
  obtain ⟨entry, he⟩ := Option.isSome_iff_exists.mp ((hm.keys r.key).mpr hpk)
  refine ⟨entry, he, Record.contentEq_trans (hm.content old ho entry (hok ▸ he)) ?_⟩
  by_contra hd
  exact hnew ⟨.modified, r⟩ rfl
    ((mem_between hp).mpr (.inr (.inl ⟨rfl, hr, old, ho, hok, Bool.eq_false_iff.mpr hd⟩)))

/-- A key that is in the first list and that no change is about is in the second. -/
theorem mem_keys_of_unchanged (hp : (previous.map Record.key).Nodup) {key : String}
    (hmem : key ∈ previous.map Record.key)
    (hk : key ∉ (between previous current).map fun c => c.record.key) :
    key ∈ current.map Record.key := by
  by_contra hgone
  obtain ⟨old, ho, rfl⟩ := List.mem_map.mp hmem
  have hd : (⟨.deleted, old⟩ : Change) ∈ between previous current :=
    (mem_between hp).mpr (.inr (.inr ⟨rfl, ho, hgone⟩))
  exact hk (List.mem_map.mpr ⟨_, hd, rfl⟩)

/-- After a change its record is held, or its key is one that the second list does not have. -/
theorem outcome_of_mem_between (hp : (previous.map Record.key).Nodup) {c : Change}
    (hc : c ∈ between previous current) :
    c.outcome = some c.record ∧ c.record ∈ current ∨
      c.outcome = none ∧ c.record.key ∉ current.map Record.key := by
  unfold outcome
  rcases (mem_between hp).mp hc with ⟨ht, hr, -⟩ | ⟨ht, hr, -⟩ | ⟨ht, -, hr⟩
  · exact .inl ⟨by rw [ht], hr⟩
  · exact .inl ⟨by rw [ht], hr⟩
  · exact .inr ⟨by rw [ht], hr⟩

theorem mirrors_replay_between (hp : (previous.map Record.key).Nodup)
    (hc : (current.map Record.key).Nodup) (hm : held.Mirrors previous) :
    (replay held (between previous current)).Mirrors current := by
  have hn := nodup_keys_between hp hc
  constructor
  · intro key
    by_cases hk : key ∈ (between previous current).map fun c => c.record.key
    · obtain ⟨c, hcb, rfl⟩ := List.mem_map.mp hk
      rw [replay_of_mem hn hcb]
      rcases outcome_of_mem_between hp hcb with ⟨ho, hr⟩ | ⟨ho, hr⟩
      · rw [ho]
        exact iff_of_true rfl (List.mem_map_of_mem hr)
      · rw [ho]
        exact iff_of_false nofun hr
    · rw [replay_of_notMem hk]
      constructor
      · intro hh
        exact mem_keys_of_unchanged hp ((hm.keys key).mp hh) hk
      · intro hmem
        obtain ⟨r, hr, rfl⟩ := List.mem_map.mp hmem
        obtain ⟨entry, he, -⟩ := held_of_unchanged hp hm hr hk
        rw [he, Option.isSome_some]
  · intro r hr entry he
    by_cases hk : r.key ∈ (between previous current).map fun c => c.record.key
    · obtain ⟨c, hcb, hck⟩ := List.mem_map.mp hk
      rw [← hck, replay_of_mem hn hcb] at he
      rcases outcome_of_mem_between hp hcb with ⟨ho, hcc⟩ | ⟨ho, hgone⟩
      · rw [ho, Option.some.injEq] at he
        -- The only record of the second list with this key is `r` itself.
        have hcr : c.record = r := Option.some.inj
          ((Record.find?_key hc hcc).symm.trans (hck ▸ Record.find?_key hc hr))
        rw [← he, hcr]
        exact Record.contentEq_refl r
      · exact absurd (List.mem_map_of_mem hr) (hck ▸ hgone)
    · rw [replay_of_notMem hk] at he
      obtain ⟨entry', he', hce⟩ := held_of_unchanged hp hm hr hk
      rw [he, Option.some.injEq] at he'
      exact he' ▸ hce

end Between

/-- To one who was shown nothing, all is new. -/
theorem between_nil (current : List Record) : between [] current = arrivals current := by
  have ha : arrival? [] = fun r => some ⟨.added, r⟩ := funext fun _ => rfl
  rw [between, arrivals, List.filterMap_nil, List.append_nil, ha, ← List.filterMap_eq_map]
  rfl

end Change

end Namebook
