import Mathlib.Data.List.Forall2
import Namebook.Proofs.Json.Shape
import Namebook.Proofs.Text.Blank
import Namebook.Proofs.Text.Split
import Namebook.Reference

/-!
# Which texts are references

A reference has two slashes and something that is not blank before, between and after them. What is
read is what stands there, trimmed; so a reference is read again from its own text, and two texts
mean the same one exactly if they differ in white space around their segments only.
-/

namespace Namebook.Reference

/-- Two slashes, and before, between and after them something that is not white space. -/
def IsSpelled (raw : String) : Prop :=
  raw.toList.count '/' = 2 ∧ ∀ s ∈ Text.parts '/' raw, ∃ c ∈ s.toList, Text.isBlank c = false

/-- The texts differ in nothing but the white space around their segments. -/
def SameSegments (raw raw' : String) : Prop :=
  List.Forall₂ (fun a b => ∃ s, Text.IsPadded a s ∧ Text.IsPadded b s) (Text.parts '/' raw)
    (Text.parts '/' raw')

def segments (r : Reference) : List String := [r.kind, r.space, r.name]

variable {raw : String} {r : Reference}

theorem sameSegments_iff {raw' : String} :
    SameSegments raw raw' ↔
      (Text.parts '/' raw).map Text.trim = (Text.parts '/' raw').map Text.trim := by
  simp only [SameSegments, ← Text.trim_eq_trim_iff]
  rw [← List.forall₂_eq_eq_eq, List.forall₂_map_left_iff, List.forall₂_map_right_iff]

/-! ## Reading -/

theorem ofSegments?_eq_some_iff {pieces : List (List Char)} :
    ofSegments? pieces = some r ↔
      pieces.map (fun piece => String.ofList (Text.trimChars piece)) = r.segments ∧
        ∀ s ∈ r.segments, s ≠ "" := by
  unfold ofSegments?
  split
  · rename_i kind space name
    rw [and_congr_right fun h => by rw [← h], and_comm]
    obtain ⟨kind', space', name'⟩ := r
    simp [segments, and_assoc]
  · rename_i hthree
    simp only [reduceCtorEq, false_iff, not_and]
    intro hpieces
    have hlength := congrArg List.length hpieces
    rw [List.length_map] at hlength
    obtain ⟨a, b, c, rfl⟩ := List.length_eq_three.mp hlength
    exact absurd rfl (hthree a b c)

theorem parse?_eq_some_iff :
    parse? raw = some r ↔
      (Text.parts '/' raw).map Text.trim = r.segments ∧ ∀ s ∈ r.segments, s ≠ "" := by
  rw [parse?, ofSegments?_eq_some_iff, ← Text.map_pieces, List.map_map]
  simp [Text.trim, Function.comp_def]

theorem parse_eq_ok_iff : parse raw = .ok r ↔ parse? raw = some r := by
  rw [parse]
  cases parse? raw with
  | none => simp
  | some r' => simp

/-- Three trimmed segments that are not empty come from a text that is spelled in this way. -/
theorem isSpelled_iff : IsSpelled raw ↔ ∃ r, parse raw = .ok r := by
  simp only [parse_eq_ok_iff, parse?_eq_some_iff]
  constructor
  · intro ⟨hcount, hblank⟩
    have hlength : (Text.parts '/' raw).length = 3 := by rw [Text.length_parts, hcount]
    obtain ⟨a, b, c, habc⟩ := List.length_eq_three.mp hlength
    refine ⟨⟨Text.trim a, Text.trim b, Text.trim c⟩, by rw [habc]; rfl, ?_⟩
    have hne : ∀ s ∈ (Text.parts '/' raw).map Text.trim, s ≠ "" := by
      rw [List.forall_mem_map]
      exact fun s hs => Text.trim_ne_empty_iff.mpr (hblank s hs)
    rw [habc] at hne
    exact hne
  · rintro ⟨r, hr, hne⟩
    have hlength := congrArg List.length hr
    rw [List.length_map, Text.length_parts] at hlength
    rw [← hr, List.forall_mem_map] at hne
    exact ⟨Nat.succ.inj hlength, fun s hs => Text.trim_ne_empty_iff.mp (hne s hs)⟩

theorem parse_of_not_isSpelled (h : ¬IsSpelled raw) : parse raw = .error ⟨raw⟩ := by
  have hnone : parse? raw = none := by
    rw [Option.eq_none_iff_forall_ne_some]
    intro r hr
    exact h (isSpelled_iff.mpr ⟨r, parse_eq_ok_iff.mpr hr⟩)
  rw [parse, hnone]

theorem shape_eq_ok_iff {v : Json} :
    shape v = .ok r ↔ ∃ raw, v = .text raw ∧ parse raw = .ok r := by
  have hrequired (raw : String) :
      Json.Shape.required (parse? raw) = .ok r ↔ parse? raw = some r := by
    cases parse? raw with
    | none => simp [Json.Shape.required]
    | some r' => simp [Json.Shape.required]
  simp only [parse_eq_ok_iff]
  cases v with
  | text s =>
    have hshape : shape (.text s) = Json.Shape.required (parse? s) := rfl
    simp [hshape, hrequired]
  | _ => simp [shape, Json.Shape.text, Json.Shape.refuse, bind, Except.bind]

/-! ## Reading again -/

theorem clean_of_parse (h : parse raw = .ok r) :
    ∀ s ∈ r.segments, s ≠ "" ∧ Text.IsTrimmed s ∧ '/' ∉ s.toList := by
  obtain ⟨hr, hne⟩ := parse?_eq_some_iff.mp (parse_eq_ok_iff.mp h)
  intro s hs
  refine ⟨hne s hs, ?_⟩
  rw [← hr] at hs
  obtain ⟨t, ht, rfl⟩ := List.mem_map.mp hs
  refine ⟨Text.isTrimmed_trim t, ?_⟩
  rw [Text.trim, String.toList_ofList]
  exact fun hslash => Text.notMem_of_mem_parts ht (Text.mem_of_mem_trimChars hslash)

theorem isZero_of_parse? (h : parse? raw = some r) : r.isZero = false := by
  have hkind : r.kind ≠ "" := (parse?_eq_some_iff.mp h).2 r.kind (by simp [segments])
  simp [isZero, hkind]

theorem parts_render (h : ∀ s ∈ r.segments, '/' ∉ s.toList) :
    Text.parts '/' r.render = r.segments := by
  obtain ⟨kind, space, name⟩ := r
  have hkind : '/' ∉ kind.toList := h kind (by simp [segments])
  have hspace : '/' ∉ space.toList := h space (by simp [segments])
  have hname : '/' ∉ name.toList := h name (by simp [segments])
  have hrender : (render ⟨kind, space, name⟩).toList =
      kind.toList ++ '/' :: (space.toList ++ '/' :: name.toList) := by
    simp [render]
  rw [Text.parts, hrender, List.splitOn_append_cons_self_of_not_mem hkind,
    List.splitOn_append_cons_self_of_not_mem hspace, List.splitOn_eq_singleton hname]
  simp [segments]

theorem parse_render (h : parse raw = .ok r) : parse r.render = .ok r := by
  obtain ⟨hr, hne⟩ := parse?_eq_some_iff.mp (parse_eq_ok_iff.mp h)
  have hslash : ∀ s ∈ r.segments, '/' ∉ s.toList := fun s hs => (clean_of_parse h s hs).2.2
  have htrim : r.segments.map Text.trim = r.segments := by
    rw [← hr, List.map_map]
    exact List.map_congr_left fun s _ => Text.trim_trim s
  exact parse_eq_ok_iff.mpr (parse?_eq_some_iff.mpr ⟨by rw [parts_render hslash, htrim], hne⟩)

theorem parse_iff_sameSegments (h : parse raw = .ok r) (raw' : String) :
    parse raw' = .ok r ↔ SameSegments raw raw' := by
  obtain ⟨hr, hne⟩ := parse?_eq_some_iff.mp (parse_eq_ok_iff.mp h)
  rw [parse_eq_ok_iff, parse?_eq_some_iff, and_iff_left hne, sameSegments_iff, hr, eq_comm]

theorem read_render_toJson (h : parse raw = .ok r) :
    (Json.read r.toJson.render).decode shape = .ok r := by
  have hplain : r.toJson.IsPlain := trivial
  have hshape : shape r.toJson = .ok r := shape_eq_ok_iff.mpr ⟨r.render, rfl, parse_render h⟩
  rw [Json.read_render hplain, Json.Document.decode, hshape]
  rfl

/-- A text is read exactly if it is spelled as a reference, and is itself the error otherwise. What
is read are its trimmed segments, and they are clean. The reference is read again from its text, as
a value of JSON and out of the text of that; the texts that mean it are those with the same
segments, and no other reference is written as it is. Of all values of JSON only such texts are
read. -/
theorem parse_of_segments (raw : String) :
    (IsSpelled raw ↔ ∃ r, parse raw = .ok r) ∧
      (¬IsSpelled raw → parse raw = .error ⟨raw⟩) ∧
      (∀ r, parse raw = .ok r →
        (Text.parts '/' raw).map Text.trim = [r.kind, r.space, r.name] ∧
          (∀ s ∈ [r.kind, r.space, r.name], s ≠ "" ∧ Text.IsTrimmed s ∧ '/' ∉ s.toList) ∧
          r.isZero = false ∧ parse r.render = .ok r ∧
          shape r.toJson = .ok r ∧ (Json.read r.toJson.render).decode shape = .ok r ∧
          (∀ raw', parse raw' = .ok r ↔ SameSegments raw raw') ∧
          ∀ raw' r', parse raw' = .ok r' → r'.render = r.render → r' = r) ∧
      ∀ v r, shape v = .ok r ↔ ∃ raw, v = .text raw ∧ parse raw = .ok r := by
  refine ⟨isSpelled_iff, parse_of_not_isSpelled, fun r h => ?_, fun v r => shape_eq_ok_iff⟩
  refine ⟨(parse?_eq_some_iff.mp (parse_eq_ok_iff.mp h)).1, clean_of_parse h,
    isZero_of_parse? (parse_eq_ok_iff.mp h), parse_render h,
    shape_eq_ok_iff.mpr ⟨r.render, rfl, parse_render h⟩, read_render_toJson h,
    parse_iff_sameSegments h, ?_⟩
  intro raw' r' h' hrender
  have hagain := parse_render h'
  rw [hrender, parse_render h] at hagain
  exact (Except.ok.inj hagain).symm

/-- A space of no width is no white space, and between slashes there has to be more than that. -/
theorem parse_of_segments_padded :
    let raw := "\u3000HTTPRoute /\tTeam A/\u200bweb\u0085"
    let r : Reference := ⟨"HTTPRoute", "Team A", "\u200bweb"⟩
    parse raw = .ok r ∧ parse r.render = .ok r ∧ SameSegments raw "HTTPRoute/Team A\n/\u200bweb" ∧
      ¬IsSpelled "HTTPRoute/ /web" ∧
      parse "HTTPRoute/ /web" = .error ⟨"HTTPRoute/ /web"⟩ := by
  intro raw r
  have hr : parse raw = .ok r := by decide
  have hblank : ¬IsSpelled "HTTPRoute/ /web" := by
    rintro ⟨-, h⟩
    exact Text.trim_ne_empty_iff.mpr (h " " (by decide)) (by decide)
  obtain ⟨-, -, hread, -⟩ := parse_of_segments raw
  obtain ⟨-, -, -, hagain, -, -, hsame, -⟩ := hread r hr
  exact ⟨hr, hagain, (hsame _).mp (by decide), hblank,
    (parse_of_segments "HTTPRoute/ /web").2.1 hblank⟩

end Namebook.Reference
