import Namebook.Check
import Namebook.Proofs.Text.Normal

/-!
# What a check depends on

A check consults one lookup, which its type decides. It is a function of the answer of this lookup,
and no error shows in it: all failures are the same. Only for addresses does every expected target
count, for an alias the first one does, and for any other type none.
-/

namespace Namebook

namespace Dns

/-- The text names the type, in letters of either case and with any white space around it. -/
def Question.IsSpelled (q : Question) (text : String) : Prop :=
  Text.asciiLower (Text.trimChars text.toList) = Text.asciiLower q.word.toList

instance (q : Question) (text : String) : Decidable (q.IsSpelled text) :=
  inferInstanceAs (Decidable (_ = _))

theorem Question.isSpelled_iff {q : Question} {text : String} :
    q.IsSpelled text ↔ Text.normalizeType text = q.word := by
  have hword : q.word.toList = Text.asciiUpper q.word.toList := by cases q <;> decide
  rw [IsSpelled, ← Text.asciiUpper_eq_iff, ← hword, Text.normalizeType, ← String.toList_inj,
    String.toList_ofList]

/-- Whether the address is of the version that a question asks for. -/
def Question.isFor : Question → Address.Ip → Bool
  | .a, .v4 _ => true
  | .aaaa, .v6 _ => true
  | _, _ => false

/-- The lookups of both succeed for the same names, and with the same answers. -/
def Resolver.SameAnswers (resolver other : Resolver) : Prop :=
  ∀ name, (other.host name).toOption = (resolver.host name).toOption ∧
    (other.canonical name).toOption = (resolver.canonical name).toOption

end Dns

open Dns (Question Resolver)

namespace Check

variable {resolver : Resolver} {name type : String} {expected : List String}

/-! ## Names without a dot at the end -/

/-- What is left of a name without white space around it and one dot at its end, if it has any. -/
def IsStem (name : String) (stem : List Char) : Prop :=
  Text.trimChars name.toList = stem ++ ['.'] ∨
    Text.trimChars name.toList = stem ∧ stem.getLast? ≠ some '.'

theorem isStem_iff {stem : List Char} : IsStem name stem ↔ stem = dotless name := by
  unfold IsStem dotless
  generalize Text.trimChars name.toList = cs
  dsimp only
  by_cases hdot : cs.getLast? = some '.'
  · obtain ⟨front, rfl⟩ := List.getLast?_eq_some_iff.mp hdot
    rw [if_pos hdot, List.dropLast_concat, List.append_cancel_right_eq]
    constructor
    · rintro (h | ⟨rfl, hnot⟩)
      · exact h.symm
      · exact absurd hdot hnot
    · exact fun h => .inl h.symm
  · rw [if_neg hdot]
    constructor
    · rintro (rfl | ⟨h, -⟩)
      · exact absurd List.getLast?_concat hdot
      · exact h.symm
    · rintro rfl
      exact .inr ⟨rfl, hdot⟩

/-- Two names that are the same apart from white space, a dot at the end and the case of letters. -/
def SameName (a b : String) : Prop :=
  ∃ x y, IsStem a x ∧ IsStem b y ∧ Text.asciiLower x = Text.asciiLower y

theorem sameCanonical_iff {a b : String} : sameCanonical a b = true ↔ SameName a b := by
  rw [sameCanonical, beq_iff_eq]
  constructor
  · exact fun h => ⟨dotless a, dotless b, isStem_iff.mpr rfl, isStem_iff.mpr rfl, h⟩
  · rintro ⟨x, y, hx, hy, h⟩
    rwa [isStem_iff.mp hx, isStem_iff.mp hy] at h

/-! ## The ways to check -/

/-- The type is one for which any address will do. -/
def IsLoose (type : String) : Prop := ∀ q : Question, ¬q.IsSpelled type

theorem check_of_address {q : Question} (hq : q.IsSpelled type) (hne : q ≠ .cname) :
    check resolver name type expected = addresses resolver name expected q.isFor := by
  have hword : Text.normalizeType type = q.word := Question.isSpelled_iff.mp hq
  rw [check, hword]
  cases q with
  | a =>
    have hfamily : Question.a.isFor = Address.Ip.isV4 := by
      funext ip
      cases ip <;> rfl
    rw [hfamily]
    rfl
  | aaaa =>
    have hfamily : Question.aaaa.isFor = fun ip => !ip.isV4 := by
      funext ip
      cases ip <;> rfl
    rw [hfamily]
    rfl
  | cname => exact absurd rfl hne

theorem check_of_cname (h : Question.cname.IsSpelled type) :
    check resolver name type expected = canonical resolver name expected := by
  rw [check, Question.isSpelled_iff.mp h]
  rfl

theorem check_of_isLoose (h : IsLoose type) :
    check resolver name type expected = existence resolver name := by
  have hword (q : Question) : Text.normalizeType type ≠ q.word := fun he =>
    h q (Question.isSpelled_iff.mpr he)
  rw [check, if_neg (hword .a), if_neg (hword .aaaa), if_neg (hword .cname)]

theorem not_isSpelled_of_ne {q other : Question} (h : q.IsSpelled type) (hne : q ≠ other) :
    ¬other.IsSpelled type := by
  intro hother
  rw [Question.isSpelled_iff] at h hother
  have hwords : q.word = other.word := h.symm.trans hother
  revert hne hwords
  cases q <;> cases other <;> decide

/-! ## The answer that is consulted -/

/-- The answer of the one lookup that a check of the type makes: the canonical name for an alias,
the addresses for any other type. -/
def consulted (resolver : Resolver) (name type : String) : Option (List String) :=
  if Question.cname.IsSpelled type then (resolver.canonical name).toOption.map fun found => [found]
  else (resolver.host name).toOption

theorem consulted_of_cname (h : Question.cname.IsSpelled type) :
    consulted resolver name type = (resolver.canonical name).toOption.map fun found => [found] :=
  if_pos h

theorem consulted_of_not_cname (h : ¬Question.cname.IsSpelled type) :
    consulted resolver name type = (resolver.host name).toOption := if_neg h

/-- A check judges the answer of its lookup, and has nothing to judge where the lookup fails. -/
def IsJudged (type : String) (expected : List String) (judge : List String → CheckResult) : Prop :=
  ∀ (resolver : Resolver) (name : String),
    check resolver name type expected = (consulted resolver name type).elim notAvailable judge

theorem isJudged_addresses {q : Question} (hq : q.IsSpelled type) (hne : q ≠ .cname) :
    IsJudged type expected fun found =>
      let resolved := found.filter (inFamily q.isFor)
      ⟨if sameTargets resolved expected then .sync else .notSync, resolved⟩ := by
  intro resolver name
  rw [check_of_address hq hne, consulted_of_not_cname (not_isSpelled_of_ne hq hne), addresses]
  cases resolver.host name <;> rfl

theorem isJudged_canonical (h : Question.cname.IsSpelled type) :
    IsJudged type expected fun found =>
      ⟨if expected.head?.any fun target => found.any (sameCanonical target) then .sync
        else .notSync, found⟩ := by
  intro resolver name
  rw [check_of_cname h, consulted_of_cname h, canonical]
  cases resolver.canonical name with
  | error e => rfl
  | ok found => simp [Except.toOption]

theorem isJudged_existence (h : IsLoose type) :
    IsJudged type expected fun found => if found.isEmpty then notAvailable else ⟨.sync, found⟩ := by
  intro resolver name
  rw [check_of_isLoose h, consulted_of_not_cname (h .cname), existence]
  cases resolver.host name <;> rfl

theorem ite_ne_notAvailable (p : Prop) [Decidable p] :
    (if p then SyncStatus.sync else .notSync) ≠ .notAvailable := by
  by_cases h : p <;> simp [h]

theorem ite_eq_sync_iff {p : Prop} [Decidable p] :
    (if p then SyncStatus.sync else .notSync) = .sync ↔ p := by
  by_cases h : p <;> simp [h]

theorem ite_eq_notSync_iff {p : Prop} [Decidable p] :
    (if p then SyncStatus.sync else .notSync) = .notSync ↔ ¬p := by
  by_cases h : p <;> simp [h]

/-- An answer is taken for a failure only if it is empty and any address would have done. -/
theorem exists_judge (type : String) (expected : List String) :
    ∃ judge, IsJudged type expected judge ∧ (IsLoose type → judge [] = notAvailable) ∧
      ∀ found, (judge found).status = .notAvailable → IsLoose type ∧ found = [] := by
  by_cases hloose : IsLoose type
  · refine ⟨_, isJudged_existence hloose, fun _ => rfl, fun found h => ⟨hloose, ?_⟩⟩
    cases found with
    | nil => rfl
    | cons target found => simp at h
  · have hspelled : ∃ q : Question, q.IsSpelled type := by simpa [IsLoose] using hloose
    obtain ⟨q, hq⟩ := hspelled
    by_cases hcname : q = .cname
    · subst q
      exact ⟨_, isJudged_canonical hq, fun h => absurd h hloose,
        fun found h => absurd h (ite_ne_notAvailable _)⟩
    · exact ⟨_, isJudged_addresses hq hcname, fun h => absurd h hloose,
        fun found h => absurd h (ite_ne_notAvailable _)⟩

theorem eq_notAvailable_of_status
    (h : (check resolver name type expected).status = .notAvailable) :
    check resolver name type expected = notAvailable := by
  obtain ⟨judge, hjudge, hempty, hfailed⟩ := exists_judge type expected
  rw [hjudge] at h ⊢
  cases ha : consulted resolver name type with
  | none => rfl
  | some found =>
    rw [ha] at h
    obtain ⟨hloose, rfl⟩ := hfailed found h
    exact hempty hloose

theorem status_eq_notAvailable_iff :
    (check resolver name type expected).status = .notAvailable ↔
      consulted resolver name type = none ∨
        IsLoose type ∧ consulted resolver name type = some [] := by
  obtain ⟨judge, hjudge, hempty, hfailed⟩ := exists_judge type expected
  rw [hjudge]
  cases consulted resolver name type with
  | none => simp [notAvailable]
  | some found =>
    simp only [Option.elim_some, reduceCtorEq, Option.some.injEq, false_or]
    constructor
    · exact hfailed found
    · rintro ⟨hloose, rfl⟩
      rw [hempty hloose]
      rfl

/-- A check depends on the answer of one lookup and on nothing else of a resolver. -/
theorem check_congr {other : Resolver}
    (h : consulted other name type = consulted resolver name type) :
    check other name type expected = check resolver name type expected := by
  obtain ⟨judge, hjudge, -⟩ := exists_judge type expected
  rw [hjudge, hjudge, h]

theorem consulted_of_sameAnswers {other : Resolver} (h : resolver.SameAnswers other)
    (name type : String) : consulted other name type = consulted resolver name type := by
  rw [consulted, consulted, (h name).1, (h name).2]

theorem status_canonical {found : String} (h : resolver.canonical name = .ok found) :
    (canonical resolver name expected).status = .sync ↔
      ∃ first rest, expected = first :: rest ∧ SameName first found := by
  rw [canonical, h, ite_eq_sync_iff]
  cases expected with
  | nil => simp
  | cons first rest => simp [← sameCanonical_iff]

/-- What a check answers. There is nothing to answer exactly if the one lookup that it consults
fails, or finds no address where any would have done, and then no target is given. How a lookup
fails makes no difference, nor does anything that is not consulted. For an alias the canonical name
is given as it was found, and the first of the expected targets decides alone. Where any address
will do, all that were found are given, and no expected target counts. -/
theorem check_of_consulted (resolver : Resolver) (name type : String) (expected : List String) :
    let result := check resolver name type expected
    let answer := consulted resolver name type
    (result.status = .notAvailable ↔
        answer = none ∨ IsLoose type ∧ answer = some []) ∧
      (result.status = .notAvailable → result.resolved = []) ∧
      (∀ other : Resolver, resolver.SameAnswers other →
        check other name type expected = result) ∧
      (∀ other : Resolver, consulted other name type = answer →
        check other name type expected = result) ∧
      (∀ found, Question.cname.IsSpelled type → resolver.canonical name = .ok found →
        result.resolved = [found] ∧
          (result.status = .sync ↔
            ∃ first rest, expected = first :: rest ∧ SameName first found)) ∧
      (∀ others : List String, Question.cname.IsSpelled type → others.head? = expected.head? →
        check resolver name type others = result) ∧
      (∀ found, IsLoose type → resolver.host name = .ok found → found ≠ [] →
        result = ⟨.sync, found⟩) ∧
      ∀ others : List String, IsLoose type → check resolver name type others = result := by
  intro result answer
  refine ⟨status_eq_notAvailable_iff, ?silent,
    fun other h => check_congr (consulted_of_sameAnswers h name type), fun other => check_congr,
    ?named, ?first, ?any, ?loose⟩
  case silent =>
    intro h
    have hresult : result = notAvailable := eq_notAvailable_of_status h
    rw [hresult]
    rfl
  case named =>
    intro found hcname hfound
    have hcanonical : result = canonical resolver name expected := check_of_cname hcname
    rw [hcanonical]
    refine ⟨?_, status_canonical hfound⟩
    rw [canonical, hfound]
  case first =>
    intro others hcname hhead
    rw [check_of_cname hcname, canonical, hhead]
    exact (check_of_cname hcname).symm
  case any =>
    intro found hloose hfound hne
    have hexistence : result = existence resolver name := check_of_isLoose hloose
    rw [hexistence, existence, hfound]
    simp [hne]
  case loose =>
    intro others hloose
    rw [check_of_isLoose hloose]
    exact (check_of_isLoose hloose).symm

/-- An alias is found where every lookup of an address is broken off. -/
theorem check_of_consulted_alias :
    let resolver : Resolver := .ofTables [] [("www.example.com", "Real.Example.com.")]
    let other : Resolver :=
      { resolver with host := fun name => .error (.interrupted name "stopped") }
    let expected := [" real.example.com", "b.example.com"]
    resolver.SameAnswers other ∧ Question.cname.IsSpelled " cname" ∧
      SameName " real.example.com" "Real.Example.com." ∧
      check other "www.example.com" " cname" expected = ⟨.sync, ["Real.Example.com."]⟩ := by
  intro resolver other expected
  have hanswers : resolver.SameAnswers other := fun name => ⟨rfl, rfl⟩
  have hcname : Question.cname.IsSpelled " cname" := by decide
  have hname : SameName " real.example.com" "Real.Example.com." :=
    sameCanonical_iff.mp (by decide)
  obtain ⟨-, -, hsame, -, hfound, -⟩ :=
    check_of_consulted resolver "www.example.com" " cname" expected
  obtain ⟨hresolved, hsync⟩ := hfound "Real.Example.com." hcname rfl
  refine ⟨hanswers, hcname, hname, ?_⟩
  rw [hsame other hanswers, ← hresolved, ← hsync.mpr ⟨_, _, rfl, hname⟩]

end Check

end Namebook
