import Namebook.Address.Socket
import Namebook.Proofs.Address.Ip

/-!
# Addresses with a port

An address with a port is read again from its text, if it has no scope. No text is read both with a
port and without one: an address of version 4 is taken as far as it goes, and the colon that comes
before a port is left then; an address of version 6 has no brackets of its own.
-/

namespace Namebook.Address.Socket

variable {s : String}

theorem port?_digits (port : UInt16) : port? (Text.digits port.toNat) = some (port, []) := by
  have hnumber : decimal? 65536 (Text.digits port.toNat) = some (port.toNat, []) := by
    rw [decimal?, ← List.append_nil (Text.digits port.toNat)]
    exact number?_toDigits (by decide) digitValue?_digitChar (stops_nil _) port.toNat_lt rfl
  rw [port?, hnumber, Option.map_some]
  dsimp only
  rw [UInt16.ofNat_toNat]

theorem v4?_render (ip : Ip4) (port : UInt16) :
    v4? (ip.render ++ ':' :: Text.digits port.toNat) = some (⟨.v4 ip, 0, port⟩, []) := by
  have hstops : Stops Text.digitValue? (':' :: Text.digits port.toNat) :=
    stops_cons.mpr (by decide)
  simp only [v4?, ip4?_render ip hstops, after?_self, port?_digits, bind, Option.bind_some]

theorem v6?_render (ip : Ip6) (port : UInt16) :
    v6? ('[' :: (ip.render ++ ']' :: ':' :: Text.digits port.toNat)) =
      some (⟨.v6 ip, 0, port⟩, []) := by
  have hends : EndsAddress (']' :: ':' :: Text.digits port.toNat) := by
    rintro c ⟨⟩
    decide
  have hscope : takeScope (']' :: ':' :: Text.digits port.toNat) =
      (0, ']' :: ':' :: Text.digits port.toNat) := rfl
  simp only [v6?, after?_self, ip6?_render ip hends, hscope, port?_digits, bind, Option.bind_some]

theorem v4?_of_stops {cs : List Char} (h : Stops Text.digitValue? cs) : v4? cs = none := by
  rw [v4?, ip4?_of_stops h]
  rfl

theorem toList_render4 (ip : Ip4) (port : UInt16) :
    (render ⟨.v4 ip, 0, port⟩).toList = ip.render ++ ':' :: Text.digits port.toNat := by
  rw [render, String.toList_ofList]
  rfl

theorem toList_render6 (ip : Ip6) (port : UInt16) :
    (render ⟨.v6 ip, 0, port⟩).toList =
      '[' :: (ip.render ++ ']' :: ':' :: Text.digits port.toNat) := by
  rw [render, String.toList_ofList]
  simp [renderChars]

theorem parse?_render {a : Socket} (h : a.scope = 0) : parse? a.render = some a := by
  obtain ⟨ip, scope, port⟩ := a
  obtain rfl : scope = 0 := h
  rw [parse?, parseChars?]
  cases ip with
  | v4 ip =>
    rw [toList_render4, v4?_render]
    rfl
  | v6 ip =>
    rw [toList_render6, v4?_of_stops (stops_cons.mpr (by decide)), v6?_render]
    rfl

theorem noBlank_render {a : Socket} (h : a.scope = 0) :
    ∀ c ∈ a.render.toList, Text.isBlank c = false := by
  obtain ⟨ip, scope, port⟩ := a
  obtain rfl : scope = 0 := h
  have hport := noBlank_digits port.toNat
  have hcolon : Text.isBlank ':' = false := by decide
  cases ip with
  | v4 ip =>
    rw [toList_render4, List.forall_mem_append, List.forall_mem_cons]
    exact ⟨noBlank_render4 ip, hcolon, hport⟩
  | v6 ip =>
    rw [toList_render6, List.forall_mem_cons, List.forall_mem_append, List.forall_mem_cons,
      List.forall_mem_cons]
    exact ⟨by decide, noBlank_render6 ip, by decide, hcolon, hport⟩

/-! ## With a port or without one -/

theorem after?_eq_some_iff {c : Char} {cs ds : List Char} :
    Text.after? c cs = some ds ↔ cs = c :: ds := by
  cases cs with
  | nil => simp [Text.after?]
  | cons d cs =>
    by_cases hd : d = c <;> simp [Text.after?, hd]

/-- What an address of version 4 with a port leaves is no empty text without the port. -/
theorem exists_colon_of_v4? {cs rest : List Char} {a : Socket} (h : v4? cs = some (a, rest)) :
    ∃ ip left, ip4? cs = some (ip, ':' :: left) := by
  obtain ⟨⟨ip, left⟩, hip, h⟩ := Option.bind_eq_some_iff.mp h
  obtain ⟨⟨port, _⟩, hport, -⟩ := Option.bind_eq_some_iff.mp h
  obtain ⟨behind, hcolon, -⟩ := Option.bind_eq_some_iff.mp hport
  obtain rfl := after?_eq_some_iff.mp hcolon
  exact ⟨ip, behind, hip⟩

theorem exists_bracket_of_v6? {cs rest : List Char} {a : Socket} (h : v6? cs = some (a, rest)) :
    ∃ left, cs = '[' :: left := by
  obtain ⟨_, hip, -⟩ := Option.bind_eq_some_iff.mp h
  obtain ⟨left, hbracket, -⟩ := Option.bind_eq_some_iff.mp hip
  exact ⟨left, after?_eq_some_iff.mp hbracket⟩

theorem ip?_bracket (left : List Char) : ip? ('[' :: left) = none := by
  have hstops : Stops Text.hexValue? ('[' :: left) := stops_cons.mpr (by decide)
  have hgroups : takeGroups true 8 ('[' :: left) = ([], false, '[' :: left) :=
    takeGroups_stop 8 fun ds hds => Option.some.inj hds ▸ hstops
  rw [ip?, ip4?_of_stops hstops.digits, ip6?, hgroups]
  rfl

theorem ip_parse?_eq_none {a : Socket} (h : parse? s = some a) : Ip.parse? s = none := by
  rw [parse?, parseChars?] at h
  rw [Ip.parse?, Ip.parseChars?]
  cases hv4 : v4? s.toList with
  | some found =>
    obtain ⟨ip, left, hip⟩ := exists_colon_of_v4? hv4
    rw [ip?, hip]
    rfl
  | none =>
    rw [hv4] at h
    cases hv6 : v6? s.toList with
    | none => simp [hv6, whole?] at h
    | some found =>
      obtain ⟨left, hleft⟩ := exists_bracket_of_v6? hv6
      rw [hleft, ip?_bracket]
      rfl

end Namebook.Address.Socket
