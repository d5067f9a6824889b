import Namebook.Proofs.Json.Shape
import Namebook.RecordSet.Encoding

/-!
# Specs and statuses that are written and read again

Whatever fields a spec or a status has, it is read as it was written, from the JSON value and from
its text. So what was once read, from whatever form, is read again as the same.
-/

namespace Namebook

theorem Provenance.shape_word (p : Provenance) : shape (.text p.word) = .ok p := by
  have hword : ofWord? p.word = some p := by cases p <;> decide
  exact Json.Shape.word_text hword

theorem SyncStatus.shape_word (s : SyncStatus) : shape (.text s.word) = .ok s := by
  have hword : ofWord? s.word = some s := by cases s <;> decide
  exact Json.Shape.word_text hword

namespace RecordSet

open Json Json.Shape

theorem long_longJson (n : Int64) : long (longJson n) = .ok n := by
  have hn : int64 (longJson n) = .ok n.toInt := if_pos ⟨n.minValue_le_toInt, n.toInt_le⟩
  rw [long, hn]
  exact congrArg Except.ok n.ofInt_toInt

theorem isPlain_longJson (n : Int64) : (longJson n).IsPlain := by
  have hlow := n.le_toInt
  have hhigh := n.toInt_lt
  simp [longJson, IsPlain, IsWord, UInt64.size]
  omega

theorem isPlain_texts (items : List String) : (texts items).IsPlain := by
  have htext (s : String) : (Json.text s).IsPlain := trivial
  exact isPlain_list htext items

theorem list_texts (items : List String) : Json.Shape.list text (texts items) = .ok items := by
  have htext (s : String) : text (Json.text s) = .ok s := rfl
  exact list_map htext items

/-! ## Fields -/

section

variable {σ α : Type} {name : String} {shape : Json.Shape α} {ms : List (Member σ)} {v : Json}
  {values : List (Option Json)} {x : α} {draft : σ}

theorem readEach_needed (h : shape v = .ok x) (put : α → σ → σ) :
    readEach (needed name shape put :: ms) (some v :: values) draft =
      readEach ms values (put x draft) := by
  simp [readEach, needed, h]
  rfl

theorem readEach_defaulted (h : shape v = .ok x) (put : α → σ → σ) :
    readEach (defaulted name shape put :: ms) (some v :: values) draft =
      readEach ms values (put x draft) := by
  simp [readEach, defaulted, h]
  rfl

/-- What is absent is not written, and left as it is in the draft. -/
theorem readEach_maybe {write : α → Json} (h : ∀ x, shape (write x) = .ok x)
    (hnull : ∀ x, write x ≠ .null) {put : Option α → σ → σ} (hput : put none draft = draft)
    (x? : Option α) :
    readEach (maybe name shape put :: ms) (x?.map write :: values) draft =
      readEach ms values (put x? draft) := by
  cases x? with
  | none => exact congrArg (readEach ms values) hput.symm
  | some x =>
    simp [readEach, maybe, optional_of_ne_null (hnull x), h, Except.map]
    rfl

theorem readEach_text {put : Option String → σ → σ} (hput : put none draft = draft)
    (s? : Option String) :
    readEach (maybe name text put :: ms) (s?.map .text :: values) draft =
      readEach ms values (put s? draft) :=
  readEach_maybe text_text (by simp) hput s?

theorem readEach_long {put : Option Int64 → σ → σ} (hput : put none draft = draft)
    (n? : Option Int64) :
    readEach (maybe name long put :: ms) (n?.map longJson :: values) draft =
      readEach ms values (put n? draft) :=
  readEach_maybe long_longJson (by simp [longJson]) hput n?

end

/-! ## Entries and groups -/

theorem Entry.isPlain_toJson (e : Entry) : e.toJson.IsPlain := by
  apply isPlain_given.mpr
  simp [IsPlain, isPlain_texts]

theorem Entry.shape_toJson (e : Entry) : Entry.shape e.toJson = .ok e := by
  have hplain := e.isPlain_toJson
  unfold Entry.toJson at hplain
  unfold Entry.shape Entry.toJson
  rw [members_given hplain rfl (by decide)]
  simp only [List.map_cons, List.map_nil, readEach_needed (text_text _),
    readEach_defaulted (text_text _), readEach_defaulted (list_texts _),
    readEach_defaulted (Provenance.shape_word _), readEach_defaulted (SyncStatus.shape_word _),
    readEach_text]
  rfl

theorem Group.toJson_eq_given (g : Group) :
    g.toJson = .given [
      ("name", some (.text g.name)), ("fqdns", some (.list (g.entries.map Entry.toJson)))] := rfl

theorem Group.isPlain_toJson (g : Group) : g.toJson.IsPlain := by
  rw [toJson_eq_given, isPlain_given]
  simp [IsPlain]
  exact isPlain_list Entry.isPlain_toJson g.entries

theorem Group.shape_toJson (g : Group) : Group.shape g.toJson = .ok g := by
  have hplain := g.isPlain_toJson
  rw [toJson_eq_given] at hplain ⊢
  unfold Group.shape
  rw [members_given hplain rfl (by decide)]
  simp only [List.map_cons, List.map_nil, readEach_needed (text_text _),
    readEach_defaulted (list_map Entry.shape_toJson _)]
  rfl

theorem isPlain_groupsJson (groups : List Group) : (groupsJson groups).IsPlain :=
  isPlain_list Group.isPlain_toJson groups

theorem list_groupsJson (groups : List Group) :
    Json.Shape.list Group.shape (groupsJson groups) = .ok groups :=
  list_map Group.shape_toJson groups

/-! ## Specs and statuses -/

theorem Status.isPlain_toJson (s : Status) : s.toJson.IsPlain := by
  apply isPlain_given.mpr
  simp [IsPlain, isPlain_longJson, isPlain_groupsJson]

theorem Status.shape_toJson (s : Status) : Status.shape s.toJson = .ok s := by
  have hplain := s.isPlain_toJson
  unfold Status.toJson at hplain
  unfold Status.shape Status.toJson
  rw [members_given hplain rfl (by decide)]
  simp only [List.map_cons, List.map_nil, readEach_defaulted (list_groupsJson _), readEach_long,
    readEach_text]
  rfl

theorem Spec.isPlain_toJson (s : Spec) : s.toJson.IsPlain := by
  apply isPlain_given.mpr
  simp [IsPlain]

theorem Spec.shape_toJson (s : Spec) : Spec.shape s.toJson = .ok s := by
  have hplain := s.isPlain_toJson
  unfold Spec.toJson at hplain
  unfold Spec.shape Spec.toJson
  rw [members_given hplain rfl (by decide)]
  simp only [List.map_cons, List.map_nil, readEach_text]
  rfl

/-- Specs and statuses are read as they were written, and from whatever they were read, writing them
and reading them once more changes nothing. -/
theorem spec_and_status_reread :
    Rereads Spec.shape Spec.toJson ∧ Rereads Status.shape Status.toJson :=
  ⟨rereads_of_isPlain Spec.isPlain_toJson Spec.shape_toJson,
    rereads_of_isPlain Status.isPlain_toJson Status.shape_toJson⟩

/-- A status in the form of a list, with a null, a field that is not known and fields left out. -/
theorem spec_and_status_reread_listed :
    let v : Json := .list [
      .list [.record [("owner", .null), ("name", .text "Storefront"),
        ("fqdns", .list [.list [.text "shop.example.com", .text "A"]])]], .null]
    let s : Status := { groups := [{ name := "Storefront", entries := [
      { name := "shop.example.com", type := "A" }] }] }
    Status.shape v = .ok s ∧ Status.shape s.toJson = Status.shape v :=
  ⟨rfl, spec_and_status_reread.2.valueAgain _ _ rfl⟩

end RecordSet

end Namebook
