import Namebook.Proofs.Address.Groups
import Namebook.Proofs.Text.Blank

/-!
# Addresses read again

Every address is read again from its text. For version 6 the groups that are left out are zeros,
however many they are and wherever they stand, and the reader puts as many back as the others leave
room for. A text of version 6 is never taken for one of version 4, as no point comes behind its
first digits.
-/

namespace Namebook.Address

variable {rest : List Char}

/-! ## Version 6 -/

/-- The text does not go on with anything that is read as a part of an address. -/
def EndsAddress (cs : List Char) : Prop :=
  ∀ c, cs.head? = some c → Text.hexValue? c = none ∧ c ≠ '.' ∧ c ≠ ':'

theorem EndsAddress.endsGroup (h : EndsAddress rest) : EndsGroup rest :=
  fun c hc => ⟨(h c hc).1, (h c hc).2.1⟩

theorem EndsAddress.after?_colon (h : EndsAddress rest) : Text.after? ':' rest = none := by
  cases rest with
  | nil => rfl
  | cons c rest => exact if_neg (h c rfl).2.2

theorem ofGroups?_groups (ip : Ip6) : Ip6.ofGroups? ip.groups = some ip := dif_pos ip.length_groups

/-- A text that begins with all eight groups. -/
theorem ip6?_full (ip : Ip6) (h : EndsAddress rest) :
    ip6? (renderGroups ip.groups ++ rest) = some (ip, rest) := by
  have hgroups := takeGroups_renderGroups ip.groups (Nat.le_of_eq ip.length_groups) h.endsGroup
    (by rw [h.after?_colon]; exact nofun)
  rw [ip6?, hgroups]
  dsimp only
  rw [if_pos ip.length_groups, ofGroups?_groups]
  rfl

/-- What is read behind a double colon. -/
theorem ip6?_double (ip : Ip6) {before after : List UInt16} {size : Nat} {cs : List Char}
    {dotted : Bool} (hsize : 0 < size)
    (hgroups : ip.groups = before ++ List.replicate size 0 ++ after)
    (hafter : takeGroups true (7 - before.length) cs = (after, dotted, rest)) :
    ip6? (renderGroups before ++ ':' :: ':' :: cs) = some (ip, rest) := by
  have hlength := ip.length_groups
  simp only [hgroups, List.length_append, List.length_replicate] at hlength
  have hdouble : EndsGroup (':' :: ':' :: cs) := endsGroup_cons.mpr (by decide)
  have hbefore := takeGroups_renderGroups before (by omega : before.length ≤ 8) hdouble
    (by
      rw [after?_self]
      rintro ds ⟨⟩
      exact stops_cons.mpr (by decide))
  have hzeros : 8 - before.length - after.length = size := by omega
  rw [ip6?, hbefore]
  dsimp only
  rw [if_neg (by omega), if_neg (by decide), after?_self]
  simp only [bind, Option.bind_some, after?_self, hafter, hzeros, ← hgroups, ofGroups?_groups,
    Option.map_some]

theorem takeGroups_ip4 {first : Bool} (room : Nat) {cs : List Char} {ip : Ip4}
    (hplace : place? first cs = some (ip.render ++ rest)) (h : Stops Text.digitValue? rest) :
    takeGroups first (room + 2) cs = (ip.groups, true, rest) := by
  rw [place?] at hplace
  rw [takeGroups, hplace]
  simp only [bind, Option.bind_some, ip4?_render ip h, Nat.add_eq_zero_iff, Nat.one_ne_zero,
    and_false, if_false]

/-- The group before an address of version 4 that stands for two groups. -/
theorem takeGroups_mapped (ip : Ip4) (h : Stops Text.digitValue? rest) :
    takeGroups true 7 ("ffff:".toList ++ (ip.render ++ rest)) =
      (0xFFFF :: ip.groups, true, rest) := by
  have hcolon : EndsGroup (':' :: (ip.render ++ rest)) := endsGroup_cons.mpr (by decide)
  have hplace : place? true ("ffff:".toList ++ (ip.render ++ rest)) =
      some (Nat.toDigits 16 (0xFFFF : UInt16).toNat ++ ':' :: (ip.render ++ rest)) := rfl
  have hip : takeGroups false 6 (':' :: (ip.render ++ rest)) = (ip.groups, true, rest) :=
    takeGroups_ip4 4 (after?_self ':' (ip.render ++ rest)) h
  rw [takeGroups_group 0xFFFF hplace hcolon, hip]

theorem pair16_bytes (x : UInt16) : pair16 (x >>> 8).toUInt8 x.toUInt8 = x := by
  have hx : x.toNat < 65536 := x.toNat_lt
  have hnat : (x >>> 8).toUInt8.toNat * 256 + x.toUInt8.toNat = x.toNat := by
    simp only [UInt16.toNat_toUInt8, UInt16.toNat_shiftRight]
    change x.toNat >>> 8 % 256 * 256 + x.toNat % 256 = x.toNat
    rw [Nat.shiftRight_eq_div_pow]
    omega
  rw [pair16, hnat, UInt16.ofNat_toNat]

theorem groups_of_mapped? {ip : Ip6} {v4 : Ip4} (h : ip.mapped? = some v4) :
    ip.groups = [] ++ List.replicate 5 0 ++ 0xFFFF :: v4.groups := by
  unfold Ip6.mapped? at h
  split at h
  · rename_i x y hgroups
    obtain rfl := Option.some.inj h
    rw [hgroups, Ip4.groups, pair16_bytes, pair16_bytes]
    rfl
  · exact nomatch h

theorem ip6?_render (ip : Ip6) (h : EndsAddress rest) :
    ip6? (ip.render ++ rest) = some (ip, rest) := by
  unfold Ip6.render
  split
  · rename_i v4 hmapped
    have htext : "::ffff:".toList ++ v4.render ++ rest =
        renderGroups [] ++ ':' :: ':' :: ("ffff:".toList ++ (v4.render ++ rest)) := by
      rw [List.append_assoc]
      rfl
    rw [htext]
    exact ip6?_double ip (by decide) (groups_of_mapped? hmapped)
      (takeGroups_mapped v4 h.endsGroup.stops.digits)
  · dsimp only
    split
    · rename_i hsize
      obtain ⟨before, after, hgroups, hstart⟩ := isZero_longestZeros ip.groups
      generalize longestZeros ⟨0, 0⟩ ⟨0, 0⟩ 0 ip.groups = zeros at hsize hgroups hstart ⊢
      have hlength := ip.length_groups
      simp only [hgroups, List.length_append, List.length_replicate] at hlength
      have htake : ip.groups.take zeros.start = before := by
        rw [hgroups, ← hstart, List.append_assoc, List.take_left]
      have hdrop : ip.groups.drop (zeros.start + zeros.size) = after := by
        rw [hgroups, ← hstart]
        exact List.drop_left' (by simp)
      have hafter := takeGroups_renderGroups after (by omega : after.length ≤ 7 - before.length)
        h.endsGroup (by rw [h.after?_colon]; exact nofun)
      rw [htake, hdrop, List.append_assoc, List.cons_append, List.cons_append]
      exact ip6?_double ip (Nat.lt_of_succ_lt hsize) hgroups hafter
    · exact ip6?_full ip h

theorem ip4?_renderGroups (gs : List UInt16) (h : EndsGroup rest) :
    ip4? (renderGroups gs ++ rest) = none := by
  cases gs with
  | nil => exact ip4?_of_stops h.stops.digits
  | cons g gs =>
    rw [renderGroups_cons, List.append_assoc]
    exact ip4?_group g (endsGroup_colons gs h)

theorem ip4?_render6 (ip : Ip6) (h : EndsAddress rest) : ip4? (ip.render ++ rest) = none := by
  unfold Ip6.render
  split
  · exact ip4?_of_stops (stops_cons.mpr (by decide))
  · dsimp only
    split
    · rw [List.append_assoc]
      exact ip4?_renderGroups _ (endsGroup_cons.mpr (by decide))
    · exact ip4?_renderGroups ip.groups h.endsGroup

/-! ## Either version -/

theorem ip?_render (ip : Ip) (h : EndsAddress rest) :
    ip? (ip.renderChars ++ rest) = some (ip, rest) := by
  cases ip with
  | v4 ip => rw [ip?, Ip.renderChars, ip4?_render ip h.endsGroup.stops.digits]
  | v6 ip =>
    rw [ip?, Ip.renderChars, ip4?_render6 ip h, ip6?_render ip h]
    rfl

theorem Ip.parse?_render (ip : Ip) : Ip.parse? ip.render = some ip := by
  have hread : ip? ip.renderChars = some (ip, []) := by
    have hends : EndsAddress [] := by simp [EndsAddress]
    have hall := ip?_render ip hends
    rwa [List.append_nil] at hall
  rw [Ip.parse?, Ip.render, String.toList_ofList, Ip.parseChars?, hread, whole?]

/-! ## White space -/

theorem isBlank_digitChar : ∀ d < 16, Text.isBlank d.digitChar = false := by decide

theorem noBlank_toDigits {base n : Nat} (hbase : 1 < base) (hle : base ≤ 16) :
    ∀ c ∈ Nat.toDigits base n, Text.isBlank c = false := by
  intro c hc
  obtain ⟨d, hd, rfl⟩ := exists_digitChar_of_mem hbase hc
  exact isBlank_digitChar d (Nat.lt_of_lt_of_le hd hle)

theorem noBlank_digits (n : Nat) : ∀ c ∈ Text.digits n, Text.isBlank c = false :=
  noBlank_toDigits (by decide) (by decide)

theorem noBlank_render4 (ip : Ip4) : ∀ c ∈ ip.render, Text.isBlank c = false := by
  have hpoint : Text.isBlank '.' = false := by decide
  simp only [Ip4.render, List.forall_mem_append, List.forall_mem_cons, hpoint, true_and]
  exact ⟨⟨⟨noBlank_digits _, noBlank_digits _⟩, noBlank_digits _⟩, noBlank_digits _⟩

theorem noBlank_renderGroups (gs : List UInt16) :
    ∀ c ∈ renderGroups gs, Text.isBlank c = false := by
  have hcolon : Text.isBlank ':' = false := by decide
  have hgroup (g : UInt16) : ∀ c ∈ Nat.toDigits 16 g.toNat, Text.isBlank c = false :=
    noBlank_toDigits (by decide) (by decide)
  cases gs with
  | nil => simp [renderGroups]
  | cons g gs =>
    rw [renderGroups_cons, List.forall_mem_append]
    refine ⟨hgroup g, fun c hc => ?_⟩
    obtain ⟨g', -, hc⟩ := List.mem_flatMap.mp hc
    rcases List.mem_cons.mp hc with rfl | hc
    · exact hcolon
    · exact hgroup g' c hc

theorem noBlank_render6 (ip : Ip6) : ∀ c ∈ ip.render, Text.isBlank c = false := by
  unfold Ip6.render
  split
  · have hmapped : "::ffff:".toList.all (!Text.isBlank ·) = true := by decide
    rw [List.forall_mem_append]
    exact ⟨by simpa using hmapped, noBlank_render4 _⟩
  · dsimp only
    split
    · simp only [List.forall_mem_append, List.forall_mem_cons]
      exact ⟨noBlank_renderGroups _, by decide, by decide, noBlank_renderGroups _⟩
    · exact noBlank_renderGroups _

theorem Ip.noBlank_render (ip : Ip) : ∀ c ∈ ip.renderChars, Text.isBlank c = false := by
  cases ip with
  | v4 ip => exact noBlank_render4 ip
  | v6 ip => exact noBlank_render6 ip

end Namebook.Address
