import Namebook.Dns.Nameserver
import Namebook.Proofs.Text.Split
import Namebook.Proofs.Text.Words

/-!
# Which server a configuration names

A line names a server if its first word is the keyword and its second one an address, and the first
line that does decides. A carriage return at the end of a line is white space like any other, so the
line feeds alone cut the text: of two texts with a line feed between them the first one decides if
it names a server, and the second one if not. Lines that name none can stand anywhere.
-/

namespace Namebook.Dns

/-- The first two words of the line are the keyword and the text of the address. -/
def Names (line : List Char) (ip : Address.Ip) : Prop :=
  ∃ address rest later, Text.FirstWord line "nameserver".toList rest ∧
    Text.FirstWord rest address later ∧ Address.Ip.parseChars? address = some ip

/-! ## One line -/

theorem lineServer?_eq_some_iff {line : List Char} {server : Address.Socket} :
    lineServer? line = some server ↔ ∃ ip, Names line ip ∧ server = ⟨ip, 0, 53⟩ := by
  have hwords : lineServer? line = some server ↔ ∃ address later,
      Text.words line = "nameserver".toList :: address :: later ∧
        (Address.Ip.parseChars? address).map serverAt = some server := by
    unfold lineServer?
    generalize "nameserver".toList = expected
    split
    · rename_i keyword address later hline
      simp [hline]
    · rename_i hshort
      simp only [reduceCtorEq, false_iff, not_exists, not_and]
      exact fun address later hline => absurd hline (hshort _ _ _)
  simp only [hwords, Text.words_eq_cons_iff, Option.map_eq_some_iff]
  constructor
  · rintro ⟨address, _, ⟨rest, hfirst, later, hsecond, -⟩, ip, hip, rfl⟩
    exact ⟨ip, ⟨address, rest, later, hfirst, hsecond, hip⟩, rfl⟩
  · rintro ⟨ip, ⟨address, rest, later, hfirst, hsecond, hip⟩, rfl⟩
    exact ⟨address, _, ⟨rest, hfirst, later, hsecond, rfl⟩, ip, hip, rfl⟩

theorem lineServer?_eq_none_iff {line : List Char} :
    lineServer? line = none ↔ ∀ ip, ¬Names line ip := by
  rw [Option.eq_none_iff_forall_ne_some]
  simp only [ne_eq, lineServer?_eq_some_iff, not_exists, not_and]
  constructor
  · exact fun h ip hnames => h _ ip hnames rfl
  · exact fun h _ ip hnames => absurd hnames (h ip)

theorem lineServer?_dropReturn (line : List Char) :
    lineServer? (Text.dropReturn line) = lineServer? line := by
  by_cases hlast : line.getLast? = some '\r'
  · obtain ⟨short, rfl⟩ := List.getLast?_eq_some_iff.mp hlast
    have hwords : Text.words (short ++ ['\r']) = Text.words short := by
      rw [Text.words_append_blank (by decide)]
      exact List.append_nil _
    rw [Text.dropReturn_concat, lineServer?, lineServer?, hwords]
  · rw [Text.dropReturn_of_last hlast]

/-! ## All lines -/

/-- Neither the ends of lines nor an empty last line say anything of a server. -/
theorem configuredServer?_eq (s : String) :
    configuredServer? s = (s.toList.splitOn '\n').findSome? lineServer? := by
  obtain ⟨ps, p, hps⟩ := List.eq_nil_or_concat' (s.toList.splitOn '\n') |>.resolve_left
    (List.splitOn_ne_nil '\n' s.toList)
  have hlast : ([p].filter fun line => !line.isEmpty).findSome? lineServer? = lineServer? p := by
    cases p with
    | nil => rfl
    | cons c cs => simp
  have hreturn : lineServer? ∘ Text.dropReturn = lineServer? := funext lineServer?_dropReturn
  rw [configuredServer?, Text.lines, Text.pieces_eq_splitOn, hps]
  simp [List.findSome?_append, List.findSome?_map, hreturn, hlast]

theorem configuredServer?_append (s t : String) :
    configuredServer? (s ++ "\n" ++ t) = (configuredServer? s).or (configuredServer? t) := by
  have hlist : (s ++ "\n" ++ t).toList = s.toList ++ '\n' :: t.toList := by simp
  rw [configuredServer?_eq, hlist, List.splitOn_append_cons_self, List.findSome?_append,
    configuredServer?_eq, configuredServer?_eq]

theorem configuredServer?_intercalate (texts : List String) :
    configuredServer? ("\n".intercalate texts) = texts.findSome? configuredServer? := by
  induction texts with
  | nil => rfl
  | cons s texts ih =>
    cases texts with
    | nil => simp
    | cons t texts =>
      rw [String.intercalate_cons_cons, configuredServer?_append, ih]
      generalize t :: texts = later
      rw [List.findSome?_cons]
      cases configuredServer? s <;> rfl

theorem configuredServer?_eq_none_iff {s : String} :
    configuredServer? s = none ↔ ∀ line ∈ Text.lines s.toList, ∀ ip, ¬Names line ip := by
  simp only [configuredServer?, List.findSome?_eq_none_iff, lineServer?_eq_none_iff]

theorem configuredServer?_eq_some_iff {s : String} {server : Address.Socket} :
    configuredServer? s = some server ↔ ∃ before line after ip,
      Text.lines s.toList = before ++ line :: after ∧ (∀ l ∈ before, ∀ ip, ¬Names l ip) ∧
        Names line ip ∧ server = ⟨ip, 0, 53⟩ := by
  simp only [configuredServer?, List.findSome?_eq_some_iff, lineServer?_eq_some_iff,
    lineServer?_eq_none_iff]
  constructor
  · rintro ⟨before, line, after, he, ⟨ip, hnames, hserver⟩, hbefore⟩
    exact ⟨before, line, after, ip, he, hbefore, hnames, hserver⟩
  · rintro ⟨before, line, after, ip, he, hbefore, hnames, hserver⟩
    exact ⟨before, line, after, he, ⟨ip, hnames, hserver⟩, hbefore⟩

/-- Texts that name no server change nothing, and no text does behind one that names a server. -/
theorem configuredServer?_insert {before inserted after : List String}
    (h : (∀ text ∈ inserted, configuredServer? text = none) ∨
      ∃ text ∈ before, configuredServer? text ≠ none) :
    configuredServer? ("\n".intercalate (before ++ inserted ++ after)) =
      configuredServer? ("\n".intercalate (before ++ after)) := by
  simp only [configuredServer?_intercalate, List.findSome?_append]
  rcases h with hinserted | ⟨text, htext, hnames⟩
  · rw [List.findSome?_eq_none_iff.mpr hinserted, Option.or_none]
  · have hbefore : before.findSome? configuredServer? ≠ none := fun hnone =>
      hnames (List.findSome?_eq_none_iff.mp hnone text htext)
    obtain ⟨server, hserver⟩ := Option.ne_none_iff_exists'.mp hbefore
    simp [hserver]

/-- The server of a text is the address that its first line with one names, at the port of name
servers, and without such a line there is none. A text before another decides if it has such a line.
Wherever a text is cut at line feeds, lines that name no server can be put in, and after a line that
names one any lines. -/
theorem configuredServer?_of_lines (s : String) :
    (∀ ls, Text.IsLines s.toList ls ↔ ls = Text.lines s.toList) ∧
      (∀ server, configuredServer? s = some server ↔ ∃ before line after ip,
        Text.lines s.toList = before ++ line :: after ∧ (∀ l ∈ before, ∀ ip, ¬Names l ip) ∧
          Names line ip ∧ server = ⟨ip, 0, 53⟩) ∧
      (configuredServer? s = none ↔ ∀ line ∈ Text.lines s.toList, ∀ ip, ¬Names line ip) ∧
      (∀ t, configuredServer? (s ++ "\n" ++ t) =
        (configuredServer? s).or (configuredServer? t)) ∧
      ∀ before inserted after, s = "\n".intercalate (before ++ after) →
        ((∀ text ∈ inserted, ∀ line ∈ Text.lines text.toList, ∀ ip, ¬Names line ip) ∨
          ∃ text ∈ before, ∃ line ∈ Text.lines text.toList, ∃ ip, Names line ip) →
        configuredServer? ("\n".intercalate (before ++ inserted ++ after)) =
          configuredServer? s := by
  refine ⟨fun ls => Text.isLines_iff, fun server => configuredServer?_eq_some_iff,
    configuredServer?_eq_none_iff, configuredServer?_append s, ?_⟩
  rintro before inserted after rfl h
  apply configuredServer?_insert
  simp only [ne_eq, configuredServer?_eq_none_iff]
  refine h.imp_right fun ⟨text, htext, line, hline, ip, hnames⟩ => ⟨text, htext, fun hnone => ?_⟩
  exact hnone line hline ip hnames

/-- The scope makes the first address a malformed one, and the keyword is nothing else in
capitals. -/
theorem configuredServer?_of_lines_scoped :
    let first := "nameserver fe80::1%eth0\r"
    let second := "\tnameserver\u00a010.0.0.1 # local"
    let inserted := ["; none\rnameserver ::1", "nameserver", "Nameserver ::1\n"]
    (∀ text ∈ inserted, ∀ line ∈ Text.lines text.toList, ∀ ip, ¬Names line ip) ∧
      configuredServer? ("\n".intercalate [first, second]) =
        some ⟨.v4 ⟨10, 0, 0, 1⟩, 0, 53⟩ ∧
      configuredServer? ("\n".intercalate ([first] ++ inserted ++ [second])) =
        some ⟨.v4 ⟨10, 0, 0, 1⟩, 0, 53⟩ := by
  intro first second inserted
  have hserver : configuredServer? ("\n".intercalate [first, second]) =
      some ⟨.v4 ⟨10, 0, 0, 1⟩, 0, 53⟩ := by decide +kernel
  have hinserted : ∀ text ∈ inserted, ∀ line ∈ Text.lines text.toList, ∀ ip, ¬Names line ip := by
    simp only [← configuredServer?_eq_none_iff]
    decide +kernel
  obtain ⟨-, -, -, -, hinsert⟩ := configuredServer?_of_lines ("\n".intercalate [first, second])
  exact ⟨hinserted, hserver, (hinsert [first] inserted [second] rfl (.inl hinserted)).trans hserver⟩

end Namebook.Dns
