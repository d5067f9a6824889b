import Namebook.Proofs.Address.Socket
import Namebook.Settings

/-!
# The name server of the settings

The text of a server is an address with a port or one without, and never both. So it is read in one
way: as the address that was written, whatever white space is around it, and at the port of name
servers if none was given. Any other text is a problem, and the last one that is looked for.
-/

namespace Namebook.Settings

open Address

variable {s : Settings} {text raw padded : String}

/-! ## The text of a server -/

theorem server?_eq_some_iff {server : Socket} :
    server? text = some server ↔
      Socket.parse? text = some server ∨ ∃ ip, Ip.parse? text = some ip ∧ server = ⟨ip, 0, 53⟩ := by
  rw [server?, Option.or_eq_some_iff, Option.map_eq_some_iff]
  constructor
  · rintro (hsocket | ⟨-, ip, hip, rfl⟩)
    · exact .inl hsocket
    · exact .inr ⟨ip, hip, rfl⟩
  · rintro (hsocket | ⟨ip, hip, rfl⟩)
    · exact .inl hsocket
    · refine .inr ⟨?_, ip, hip, rfl⟩
      -- A text that is read without a port is not read with one.
      rw [Option.eq_none_iff_forall_ne_some]
      intro a ha
      exact nomatch hip.symm.trans (Socket.ip_parse?_eq_none ha)

theorem server?_eq_none_iff :
    server? text = none ↔ Socket.parse? text = none ∧ Ip.parse? text = none := by
  rw [server?, Option.or_eq_none_iff, Option.map_eq_none_iff]

theorem server_of_text (hset : s.nameserver = some raw) (hne : Text.trim raw ≠ "") :
    s.server = match server? (Text.trim raw) with
      | some server => .ok (some server)
      | none => .error (.badNameserver (Text.trim raw)) := by
  have hraw : Text.nonBlank? raw = some (Text.trim raw) :=
    Text.nonBlank?_eq_some_iff.mpr ⟨rfl, hne⟩
  cases hread : server? (Text.trim raw) <;> simp [server, hset, hraw, hread]

theorem server_eq_ok_of_read {server : Socket} (hset : s.nameserver = some raw)
    (hread : server? (Text.trim raw) = some server) : s.server = .ok (some server) := by
  have hne : Text.trim raw ≠ "" := by
    intro hblank
    rw [hblank] at hread
    exact nomatch hread
  rw [server_of_text hset hne, hread]

/-- White space around a text without any does not count. -/
theorem trim_padded (h : Text.IsPadded padded text)
    (hblank : ∀ c ∈ text.toList, Text.isBlank c = false) : Text.trim padded = text := by
  rw [Text.trim_of_isPadded h, Text.trim, Text.trimChars_of_noBlank hblank, String.ofList_toList]

theorem server_of_socket {a : Socket} (hset : s.nameserver = some padded) (hscope : a.scope = 0)
    (h : Text.IsPadded padded a.render) : s.server = .ok (some a) := by
  apply server_eq_ok_of_read hset
  rw [trim_padded h (Socket.noBlank_render hscope), server?_eq_some_iff]
  exact .inl (Socket.parse?_render hscope)

theorem server_of_ip {ip : Ip} (hset : s.nameserver = some padded)
    (h : Text.IsPadded padded ip.render) : s.server = .ok (some ⟨ip, 0, 53⟩) := by
  have hblank : ∀ c ∈ ip.render.toList, Text.isBlank c = false := by
    rw [Ip.render, String.toList_ofList]
    exact ip.noBlank_render
  apply server_eq_ok_of_read hset
  rw [trim_padded h hblank, server?_eq_some_iff]
  exact .inr ⟨ip, Ip.parse?_render ip, rfl⟩

theorem server_eq_error_iff {problem : Problem} :
    s.server = .error problem ↔ ∃ raw, s.nameserver = some raw ∧ Text.trim raw ≠ "" ∧
      Socket.parse? (Text.trim raw) = none ∧ Ip.parse? (Text.trim raw) = none ∧
        problem = .badNameserver (Text.trim raw) := by
  constructor
  · intro h
    cases hset : s.nameserver with
    | none => simp [server, hset] at h
    | some raw =>
      by_cases hne : Text.trim raw = ""
      · simp [server, hset, Text.nonBlank?, hne] at h
      · rw [server_of_text hset hne] at h
        cases hread : server? (Text.trim raw) with
        | some found => simp [hread] at h
        | none =>
          rw [hread] at h
          obtain ⟨hsocket, hip⟩ := server?_eq_none_iff.mp hread
          exact ⟨raw, rfl, hne, hsocket, hip, (Except.error.inj h).symm⟩
  · rintro ⟨raw, hset, hne, hsocket, hip, rfl⟩
    rw [server_of_text hset hne, server?_eq_none_iff.mpr ⟨hsocket, hip⟩]

/-! ## All problems -/

theorem validate_eq_error_iff {problem : Problem} :
    s.validate = .error problem ↔
      s.refreshInterval = 0 ∧ problem = .zeroInterval ∨
        s.refreshInterval ≠ 0 ∧ s.grouping = .error problem ∨
        s.refreshInterval ≠ 0 ∧ (∃ g, s.grouping = .ok g) ∧ s.server = .error problem := by
  rw [validate]
  by_cases hzero : s.refreshInterval = 0
  · simp [hzero, bind, Except.bind, eq_comm]
  · cases hgrouping : s.grouping with
    | error problem' => simp [hzero, bind, Except.bind]
    | ok g =>
      cases hserver : s.server with
      | error problem' => simp [hzero, bind, Except.bind]
      | ok found => simp [hzero, bind, Except.bind, pure, Except.pure]

theorem validate_eq_ok_iff :
    s.validate = .ok () ↔
      s.refreshInterval ≠ 0 ∧ (∃ g, s.grouping = .ok g) ∧ ∃ server, s.server = .ok server := by
  rw [validate]
  by_cases hzero : s.refreshInterval = 0
  · simp [hzero, bind, Except.bind]
  · cases hgrouping : s.grouping with
    | error problem => simp [hzero, bind, Except.bind]
    | ok g =>
      cases hserver : s.server with
      | error problem => simp [hzero, bind, Except.bind]
      | ok found => simp [hzero, bind, Except.bind, pure, Except.pure]

/-- An address with a port is read as itself, if it has no scope, and a bare one as itself with the
port of name servers, whatever white space is around their texts. No text can be read both ways, so
what is read is the one address that it is a text of, and what is not read is a problem, trimmed but
whole. Of the problems of the settings that of the server comes last, after those of the interval
and of the groups. -/
theorem server_of_option (s : Settings) :
    (∀ padded a, s.nameserver = some padded → a.scope = 0 → Text.IsPadded padded a.render →
        s.server = .ok (some a)) ∧
      (∀ padded ip, s.nameserver = some padded → Text.IsPadded padded ip.render →
        s.server = .ok (some ⟨ip, 0, 53⟩)) ∧
      (∀ text a ip, ¬(Socket.parse? text = some a ∧ Ip.parse? text = some ip)) ∧
      (∀ raw, s.nameserver = some raw → Text.trim raw ≠ "" →
        (∀ server, s.server = .ok (some server) ↔ Socket.parse? (Text.trim raw) = some server ∨
          ∃ ip, Ip.parse? (Text.trim raw) = some ip ∧ server = ⟨ip, 0, 53⟩) ∧
        (Socket.parse? (Text.trim raw) = none → Ip.parse? (Text.trim raw) = none →
          s.server = .error (.badNameserver (Text.trim raw)))) ∧
      (∀ problem, s.validate = .error problem ↔
        s.refreshInterval = 0 ∧ problem = .zeroInterval ∨
          s.refreshInterval ≠ 0 ∧ s.grouping = .error problem ∨
          s.refreshInterval ≠ 0 ∧ (∃ g, s.grouping = .ok g) ∧ s.server = .error problem) ∧
      (s.validate = .ok () ↔ s.refreshInterval ≠ 0 ∧ (∃ g, s.grouping = .ok g) ∧
        ∃ server, s.server = .ok server) := by
  refine ⟨fun padded a => server_of_socket, fun padded ip => server_of_ip, ?_,
    fun raw hset hne => ?_, fun problem => validate_eq_error_iff, validate_eq_ok_iff⟩
  · rintro text a ip ⟨hsocket, hip⟩
    exact nomatch hip.symm.trans (Socket.ip_parse?_eq_none hsocket)
  · constructor
    · intro found
      rw [← server?_eq_some_iff, server_of_text hset hne]
      cases server? (Text.trim raw) <;> simp
    · intro hsocket hip
      exact server_eq_error_iff.mpr ⟨raw, hset, hne, hsocket, hip, rfl⟩

/-- Brackets without a port are neither text. -/
theorem server_of_option_version6 :
    let withServer (text : String) : Settings :=
      ⟨defaultListen, 30, none, some text, 5, "", none, [], 64⟩
    let ip : Ip := .v6 ⟨[0x2001, 0xDB8, 0, 0, 0, 0, 0, 0x53], rfl⟩
    (withServer "\u3000[2001:db8::53]:5353\n").server = .ok (some ⟨ip, 0, 5353⟩) ∧
      (withServer "\t2001:db8::53").server = .ok (some ⟨ip, 0, 53⟩) ∧
      (withServer "[2001:db8::53] ").validate = .error (.badNameserver "[2001:db8::53]") := by
  intro withServer ip
  obtain ⟨hsocket, -⟩ := server_of_option (withServer "\u3000[2001:db8::53]:5353\n")
  obtain ⟨-, hip, -⟩ := server_of_option (withServer "\t2001:db8::53")
  obtain ⟨-, -, -, hraw, hproblem, -⟩ := server_of_option (withServer "[2001:db8::53] ")
  have hwide : ∀ c ∈ ['\u3000'], Text.isBlank c = true := List.forall_mem_singleton.mpr (by decide)
  have hfeed : ∀ c ∈ ['\n'], Text.isBlank c = true := List.forall_mem_singleton.mpr (by decide)
  have htab : ∀ c ∈ ['\t'], Text.isBlank c = true := List.forall_mem_singleton.mpr (by decide)
  refine ⟨hsocket _ ⟨ip, 0, 5353⟩ rfl rfl ⟨['\u3000'], ['\n'], hwide, hfeed, by decide⟩,
    hip _ ip rfl ⟨['\t'], [], htab, List.forall_mem_nil _, by decide⟩, ?_⟩
  obtain ⟨-, hneither⟩ := hraw _ rfl (by decide)
  exact (hproblem _).mpr (.inr (.inr ⟨by decide, ⟨_, rfl⟩, hneither (by decide) (by decide)⟩))

end Namebook.Settings
