import Namebook.Proofs.Address.Number

/-!
# Groups of an address

A group is read again if no digit and no point comes behind it, and the groups of a text are those
that were written there as long as no other group comes after the last. What may be left out of a
text is a run of zeros: the scan for the longest one never leaves the zeros, whichever run it ends
up with.
-/

namespace Namebook.Address

variable {rest : List Char}

/-! ## One group -/

theorem hexValue?_digitChar : ∀ d < 16, Text.hexValue? d.digitChar = some d := by decide

/-- The text does not go on with a group or a point. -/
def EndsGroup (cs : List Char) : Prop :=
  ∀ c, cs.head? = some c → Text.hexValue? c = none ∧ c ≠ '.'

theorem endsGroup_cons {c : Char} : EndsGroup (c :: rest) ↔ Text.hexValue? c = none ∧ c ≠ '.' := by
  simp [EndsGroup]

theorem EndsGroup.stops (h : EndsGroup rest) : Stops Text.hexValue? rest := fun c hc => (h c hc).1

theorem digitValue?_of_hexValue? {c : Char} (h : Text.hexValue? c = none) :
    Text.digitValue? c = none := by
  have hrange : ¬(48 ≤ c.toNat ∧ c.toNat ≤ 57) := by
    intro hdigit
    rw [Text.hexValue?, if_pos hdigit] at h
    exact nomatch h
  exact if_neg hrange

theorem Stops.digits (h : Stops Text.hexValue? rest) : Stops Text.digitValue? rest :=
  fun c hc => digitValue?_of_hexValue? (h c hc)

theorem group?_toDigits (g : UInt16) (h : Stops Text.hexValue? rest) :
    group? (Nat.toDigits 16 g.toNat ++ rest) = some (g, rest) := by
  have hlength : (Nat.toDigits 16 g.toNat).length ≤ 4 :=
    (Nat.length_toDigits_le_iff (by decide) (by decide)).mpr g.toNat_lt
  have hnumber : number? 16 Text.hexValue? (some 4) 65536 (Nat.toDigits 16 g.toNat ++ rest) =
      some (g.toNat, rest) :=
    number?_toDigits (by decide) hexValue?_digitChar h g.toNat_lt (by simpa using hlength)
  rw [group?, hnumber, Option.map_some]
  dsimp only
  rw [UInt16.ofNat_toNat]

theorem group?_of_stops {cs : List Char} (h : Stops Text.hexValue? cs) : group? cs = none := by
  rw [group?, number?_of_stops h]
  rfl

/-- A group is no beginning of an address of version 4. -/
theorem ip4?_group (g : UInt16) (h : EndsGroup rest) :
    ip4? (Nat.toDigits 16 g.toNat ++ rest) = none := by
  apply ip4?_eq_none
  rw [List.dropWhile_append]
  cases hleft : (Nat.toDigits 16 g.toNat).dropWhile fun c => (Text.digitValue? c).isSome with
  | nil =>
    -- All digits of the group are decimal, so the point would have to come after it.
    rw [if_pos List.isEmpty_nil]
    intro hpoint
    cases rest with
    | nil => exact nomatch hpoint
    | cons c rest =>
      obtain ⟨hc, hne⟩ := endsGroup_cons.mp h
      rw [List.dropWhile_cons_of_neg (by simp [digitValue?_of_hexValue? hc]),
        List.head?_cons] at hpoint
      exact hne (Option.some.inj hpoint)
  | cons c left =>
    rw [if_neg (by simp), List.cons_append, List.head?_cons, ne_eq, Option.some.injEq]
    have hmem : c ∈ Nat.toDigits 16 g.toNat :=
      (List.dropWhile_suffix _).mem (hleft ▸ List.mem_cons_self)
    obtain ⟨d, -, rfl⟩ := exists_digitChar_of_mem (by decide) hmem
    exact Nat.digitChar_ne '.' (by decide)

/-! ## Several groups -/

/-- Every group after a colon. -/
def colons (gs : List UInt16) : List Char := gs.flatMap fun g => ':' :: Nat.toDigits 16 g.toNat

theorem colons_cons (g : UInt16) (gs : List UInt16) :
    colons (g :: gs) = ':' :: (Nat.toDigits 16 g.toNat ++ colons gs) := rfl

theorem renderGroups_cons (g : UInt16) (gs : List UInt16) :
    renderGroups (g :: gs) = Nat.toDigits 16 g.toNat ++ colons gs := by
  induction gs generalizing g with
  | nil => simp [renderGroups, colons]
  | cons g' gs ih =>
    rw [renderGroups, ih, colons_cons]
    exact List.cons_ne_nil g' gs

theorem endsGroup_colons (gs : List UInt16) (h : EndsGroup rest) :
    EndsGroup (colons gs ++ rest) := by
  cases gs with
  | nil => exact h
  | cons g gs => exact endsGroup_cons.mpr (by decide)

/-- What stands where a group may come. -/
def place? (first : Bool) (cs : List Char) : Option (List Char) :=
  if first then some cs else Text.after? ':' cs

theorem takeGroups_group {first : Bool} {room : Nat} {cs : List Char} (g : UInt16)
    (hplace : place? first cs = some (Nat.toDigits 16 g.toNat ++ rest)) (h : EndsGroup rest) :
    takeGroups first (room + 1) cs =
      (g :: (takeGroups false room rest).1, (takeGroups false room rest).2) := by
  rw [place?] at hplace
  simp only [takeGroups, hplace, bind, Option.bind_some, ip4?_group g h, ite_self,
    group?_toDigits g h.stops]

theorem takeGroups_stop {first : Bool} {cs : List Char} (room : Nat)
    (h : ∀ ds, place? first cs = some ds → Stops Text.hexValue? ds) :
    takeGroups first room cs = ([], false, cs) := by
  cases room with
  | zero => rfl
  | succ room =>
    simp only [place?] at h
    simp only [takeGroups]
    cases hplace : if first then some cs else Text.after? ':' cs with
    | none => simp [bind]
    | some ds =>
      have hstops : Stops Text.hexValue? ds := h ds hplace
      simp [bind, ip4?_of_stops hstops.digits, group?_of_stops hstops]

theorem takeGroups_colons (gs : List UInt16) {room : Nat} (hroom : gs.length ≤ room)
    (h : EndsGroup rest) (hstop : ∀ ds, Text.after? ':' rest = some ds → Stops Text.hexValue? ds) :
    takeGroups false room (colons gs ++ rest) = (gs, false, rest) := by
  induction gs generalizing room with
  | nil => exact takeGroups_stop room hstop
  | cons g gs ih =>
    obtain ⟨room, rfl⟩ := Nat.exists_eq_add_one.mpr (Nat.lt_of_lt_of_le (Nat.succ_pos _) hroom)
    have hplace : place? false (colons (g :: gs) ++ rest) =
        some (Nat.toDigits 16 g.toNat ++ (colons gs ++ rest)) := by
      rw [colons_cons, List.cons_append, List.append_assoc]
      exact after?_self ':' _
    rw [takeGroups_group g hplace (endsGroup_colons gs h), ih (Nat.le_of_succ_le_succ hroom)]

theorem takeGroups_renderGroups (gs : List UInt16) {room : Nat} (hroom : gs.length ≤ room)
    (h : EndsGroup rest) (hstop : ∀ ds, Text.after? ':' rest = some ds → Stops Text.hexValue? ds) :
    takeGroups true room (renderGroups gs ++ rest) = (gs, false, rest) := by
  cases gs with
  | nil =>
    refine takeGroups_stop room fun ds hds => ?_
    obtain rfl : renderGroups [] ++ rest = ds := Option.some.inj hds
    exact h.stops
  | cons g gs =>
    obtain ⟨room, rfl⟩ := Nat.exists_eq_add_one.mpr (Nat.lt_of_lt_of_le (Nat.succ_pos _) hroom)
    have hplace : place? true (renderGroups (g :: gs) ++ rest) =
        some (Nat.toDigits 16 g.toNat ++ (colons gs ++ rest)) := by
      rw [renderGroups_cons, List.append_assoc]
      rfl
    rw [takeGroups_group g hplace (endsGroup_colons gs h),
      takeGroups_colons gs (Nat.le_of_succ_le_succ hroom) h hstop]

/-! ## Groups that are left out -/

/-- The groups of the run are zeros. -/
def Run.IsZero (r : Run) (gs : List UInt16) : Prop :=
  ∃ before after, gs = before ++ List.replicate r.size 0 ++ after ∧ before.length = r.start

/-- The zeros that the groups end in are the run. -/
def Run.EndsIn (r : Run) (gs : List UInt16) : Prop :=
  ∃ before, gs = before ++ List.replicate r.size 0 ∧ (r.size ≠ 0 → before.length = r.start)

theorem Run.IsZero.append {r : Run} {gs : List UInt16} (h : r.IsZero gs) (more : List UInt16) :
    r.IsZero (gs ++ more) := by
  obtain ⟨before, after, rfl, hstart⟩ := h
  exact ⟨before, after ++ more, by simp, hstart⟩

theorem Run.EndsIn.isZero {r : Run} {gs : List UInt16} (h : r.EndsIn gs) (hsize : r.size ≠ 0) :
    r.IsZero gs := by
  obtain ⟨before, hgs, hstart⟩ := h
  exact ⟨before, [], by rw [List.append_nil]; exact hgs, hstart hsize⟩

/-- A zero more makes the run longer, or starts one. -/
theorem Run.EndsIn.concat_zero {r : Run} {passed : List UInt16} (h : r.EndsIn passed) :
    Run.EndsIn ⟨if r.size = 0 then passed.length else r.start, r.size + 1⟩ (passed ++ [0]) := by
  obtain ⟨before, rfl, hstart⟩ := h
  refine ⟨before, by rw [List.append_assoc, List.replicate_succ'], fun _ => ?_⟩
  by_cases hsize : r.size = 0
  · simp [hsize]
  · rw [if_neg hsize, hstart hsize]

/-- The scan remembers a run of zeros among the groups that it has passed, and goes on with the one
that they end in. -/
theorem longestZeros_isZero {longest current : Run} {passed gs : List UInt16}
    (hlongest : longest.IsZero passed) (hcurrent : current.EndsIn passed) :
    (longestZeros longest current passed.length gs).IsZero (passed ++ gs) := by
  induction gs generalizing longest current passed with
  | nil => exact hlongest.append []
  | cons g gs ih =>
    have hlength : passed.length + 1 = (passed ++ [g]).length := by simp
    rw [longestZeros, List.append_cons, hlength]
    by_cases hg : g = 0
    · subst hg
      have hnext := hcurrent.concat_zero
      rw [if_pos rfl]
      apply ih _ hnext
      dsimp only
      split
      · exact hnext.isZero (Nat.succ_ne_zero _)
      · exact hlongest.append [0]
    · rw [if_neg hg]
      exact ih (hlongest.append [g]) ⟨passed ++ [g], by simp, nofun⟩

theorem isZero_longestZeros (gs : List UInt16) :
    (longestZeros ⟨0, 0⟩ ⟨0, 0⟩ 0 gs).IsZero gs := by
  have hlongest : Run.IsZero ⟨0, 0⟩ [] := ⟨[], [], rfl, rfl⟩
  have hcurrent : Run.EndsIn ⟨0, 0⟩ [] := ⟨[], rfl, nofun⟩
  exact longestZeros_isZero hlongest hcurrent

end Namebook.Address
