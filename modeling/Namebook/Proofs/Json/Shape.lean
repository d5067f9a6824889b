import Namebook.Json.Shape
import Namebook.Proofs.Json.Text

/-!
# Shapes of what was written

A shape gives a value back if it gives back its parts: the items of a list, the meaning of a word,
and the fields of an object, which are read one by one in their order.
-/

namespace Namebook.Json

theorem arePlain_iff {items : List Json} : ArePlain items ↔ ∀ v ∈ items, v.IsPlain := by
  induction items with
  | nil => simp [ArePlain]
  | cons v items ih => simp [ArePlain, ih]

theorem isPlain_list {α : Type} {write : α → Json} (h : ∀ x, (write x).IsPlain) (xs : List α) :
    (list (xs.map write)).IsPlain := by
  apply arePlain_iff.mpr
  simp [h]

/-- An object is plain when the fields that it has are. -/
theorem isPlain_given {fields : List (String × Option Json)} :
    (given fields).IsPlain ↔ ∀ field ∈ fields, ∀ v ∈ field.2, v.IsPlain := by
  induction fields with
  | nil => simp [given, IsPlain, ArePlainFields]
  | cons field fields ih =>
    obtain ⟨name, value?⟩ := field
    cases value? with
    | none => simpa [given, IsPlain] using ih
    | some v => simpa [given, IsPlain, ArePlainFields] using fun _ => ih

/-! ## Reading again -/

/-- What is written is read as it was, from the value and from its text. So what was read of any
value or any text is read again from what is written of it. -/
structure Rereads {α : Type} (shape : Shape α) (write : α → Json) : Prop where
  value : ∀ x, shape (write x) = .ok x
  text : ∀ x, (read (write x).render).decode shape = .ok x
  valueAgain : ∀ v x, shape v = .ok x → shape (write x) = shape v
  textAgain : ∀ s x, (read s).decode shape = .ok x →
    (read (write x).render).decode shape = (read s).decode shape

theorem rereads_of_isPlain {α : Type} {shape : Shape α} {write : α → Json}
    (hplain : ∀ x, (write x).IsPlain) (h : ∀ x, shape (write x) = .ok x) : Rereads shape write := by
  have htext : ∀ x, (read (write x).render).decode shape = .ok x := by
    intro x
    simp [read_render (hplain x), Document.decode, h]
    rfl
  exact {
    value := h
    text := htext
    valueAgain := fun v x hv => (h x).trans hv.symm
    textAgain := fun s x hs => (htext x).trans hs.symm }

namespace Shape

variable {α σ : Type}

theorem text_text (s : String) : text (.text s) = .ok s := rfl

theorem optional_of_ne_null {v : Json} (h : v ≠ .null) (shape : Shape α) :
    optional shape v = (shape v).map some := by
  cases v <;> simp_all [optional]

theorem list_map {shape : Shape α} {write : α → Json} (h : ∀ x, shape (write x) = .ok x)
    (xs : List α) : list shape (.list (xs.map write)) = .ok xs := by
  change each shape (xs.map write) = .ok xs
  induction xs with
  | nil => rfl
  | cons x xs ih =>
    rw [List.map_cons, each, h, ih]
    rfl

theorem word_text {meaning : String → Option α} {s : String} {x : α} (h : meaning s = some x) :
    word meaning (.text s) = .ok x := by
  rw [word, h]
  rfl

/-! ## Objects -/

/-- The known fields are read one by one, each from its value if it has one. -/
def readEach : List (Member σ) → List (Option Json) → σ → Except Fault σ
  | m :: ms, some v :: values, draft => do readEach ms values (← m.read v draft)
  | _ :: ms, none :: values, draft => readEach ms values draft
  | _, _, draft => .ok draft

theorem find?_name {ms : List (Member σ)} (h : (ms.map Member.name).Nodup) :
    ∀ m ∈ ms, ms.find? (·.name == m.name) = some m := by
  induction ms with
  | nil => simp
  | cons k ms ih =>
    obtain ⟨hnew, hrest⟩ := List.nodup_cons.mp h
    intro m hm
    rcases List.mem_cons.mp hm with rfl | hm
    · simp
    · have hne : k.name ≠ m.name := fun he => hnew (he ▸ List.mem_map_of_mem hm)
      rw [List.find?_cons_of_neg (by simpa using hne)]
      exact ih hrest m hm

theorem named_known {all : List (Member σ)} {m : Member σ}
    (hfind : all.find? (·.name == m.name) = some m) {other : Shape Unit} {repeats : Bool}
    {seen : List String} (hnew : m.name ∉ seen) {v : Json} (hv : v.IsPlain)
    (fields : List (String × Json)) (draft : σ) :
    named all other repeats seen ((m.name, v) :: fields) draft =
      (do named all other repeats (m.name :: seen) fields (← m.read v draft)) := by
  have hnamed : ∀ w, v ≠ .unnamed w := by
    rintro w rfl
    exact hv
  rw [named, hfind]
  · simp [hnew]
  · exact hnamed

/-- The induction is on the fields that are left, of all those that are known. -/
theorem named_given {all ms : List (Member σ)}
    (hfind : ∀ m ∈ ms, all.find? (·.name == m.name) = some m)
    (hnodup : (ms.map Member.name).Nodup) {seen : List String} (hseen : ∀ m ∈ ms, m.name ∉ seen)
    {other : Shape Unit} {repeats : Bool} {fields : List (String × Option Json)}
    (hnames : fields.map Prod.fst = ms.map Member.name)
    (hplain : ∀ field ∈ fields, ∀ v ∈ field.2, v.IsPlain) (draft : σ) :
    named all other repeats seen (fields.filterMap fun (name, value?) =>
        value?.map fun value => (name, value)) draft =
      readEach ms (fields.map Prod.snd) draft := by
  induction ms generalizing seen fields draft with
  | nil =>
    rw [List.map_eq_nil_iff.mp hnames]
    rfl
  | cons m ms ih =>
    obtain ⟨hnew, hrest⟩ := List.nodup_cons.mp hnodup
    obtain ⟨hm, hms⟩ := List.forall_mem_cons.mp hfind
    obtain ⟨hunseen, hothers⟩ := List.forall_mem_cons.mp hseen
    cases fields with
    | nil => exact nomatch hnames
    | cons field fields =>
      obtain ⟨name, value?⟩ := field
      obtain ⟨rfl, hleft⟩ := List.cons.inj hnames
      obtain ⟨hv, hfields⟩ := List.forall_mem_cons.mp hplain
      cases value? with
      | none => exact ih hms hrest hothers hleft hfields draft
      | some v =>
        have hlater : ∀ k ∈ ms, k.name ∉ m.name :: seen := by
          intro k hk hmem
          rcases List.mem_cons.mp hmem with he | hmem
          · exact hnew (he ▸ List.mem_map_of_mem hk)
          · exact hothers k hk hmem
        have hnext (next : σ) := ih hms hrest hlater hleft hfields next
        simp only [List.filterMap_cons, Option.map_some, named_known hm hunseen (hv v rfl), hnext]
        rfl

/-- An object with the known fields in their order, or some of them, is read one by one. -/
theorem members_given {ms : List (Member σ)} {fields : List (String × Option Json)}
    (hplain : (given fields).IsPlain) (hnames : fields.map Prod.fst = ms.map Member.name)
    (hnodup : (ms.map Member.name).Nodup) (blank : σ) :
    members ms blank (.given fields) = readEach ms (fields.map Prod.snd) blank :=
  named_given (find?_name hnodup) hnodup (by simp) hnames (isPlain_given.mp hplain) blank

end Shape

end Namebook.Json
