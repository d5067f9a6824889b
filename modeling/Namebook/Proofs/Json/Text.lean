import Namebook.Json.Reader
import Namebook.Json.Writer
import Namebook.Proofs.Text.Decimal

/-!
# JSON that is written and read again

Every text comes back through its quotes and escapes, and every integer of 64 bits through its
digits. So a value that is made of these comes back from its text, whole and with nothing after it.
-/

namespace Namebook.Json

/-! ## Texts -/

theorem readText_unit {a b c d : Char} {unit : Nat} (h : hexUnit? a b c d = some unit)
    (hunit : unit < 0xD800) (read : List Char) (paired : Bool) (cs : List Char) :
    readText read paired ('\\' :: 'u' :: a :: b :: c :: d :: cs) =
      readText (Char.ofNat unit :: read) paired cs := by
  have hhigh : isHigh unit = false := by simp [isHigh]; omega
  have hlow : isLow unit = false := by simp [isLow]; omega
  rw [readText.eq_def]
  split <;> grind

theorem hexUnit?_small : ∀ n < 0x20,
    hexUnit? '0' '0' (Text.lowerHexDigit (n / 16)) (Text.lowerHexDigit (n % 16)) = some n := by
  decide

theorem readText_plain {c : Char} (hquote : c ≠ '"') (hslash : c ≠ '\\') (hc : ¬c.toNat < 0x20)
    (read : List Char) (paired : Bool) (cs : List Char) :
    readText read paired (c :: cs) = readText (c :: read) paired cs := by
  rw [readText.eq_def]
  split <;> grind

theorem readText_short {n c : Char} (h : shortEscape? n = some c) (hu : n ≠ 'u')
    (read : List Char) (paired : Bool) (cs : List Char) :
    readText read paired ('\\' :: n :: cs) = readText (c :: read) paired cs := by
  rw [readText.eq_def]
  split <;> grind

theorem readText_escape (c : Char) (read : List Char) (paired : Bool) (cs : List Char) :
    readText read paired (escape c ++ cs) = readText (c :: read) paired cs := by
  by_cases hquote : c = '"'
  · subst c
    exact readText_short (n := '"') rfl (by decide) read paired cs
  by_cases hslash : c = '\\'
  · subst c
    exact readText_short (n := '\\') rfl (by decide) read paired cs
  by_cases hline : c = '\n'
  · subst c
    exact readText_short (n := 'n') rfl (by decide) read paired cs
  by_cases hreturn : c = '\r'
  · subst c
    exact readText_short (n := 'r') rfl (by decide) read paired cs
  by_cases htab : c = '\t'
  · subst c
    exact readText_short (n := 't') rfl (by decide) read paired cs
  by_cases hback : c.toNat = 8
  · have hc : c = Char.ofNat 8 := by rw [← hback, Char.ofNat_toNat]
    subst c
    exact readText_short (n := 'b') rfl (by decide) read paired cs
  by_cases hfeed : c.toNat = 12
  · have hc : c = Char.ofNat 12 := by rw [← hfeed, Char.ofNat_toNat]
    subst c
    exact readText_short (n := 'f') rfl (by decide) read paired cs
  by_cases hcontrol : c.toNat < 0x20
  · have hunit := hexUnit?_small c.toNat hcontrol
    simp [escape, hquote, hslash, hline, hreturn, htab, hback, hfeed, hcontrol,
      readText_unit hunit (by omega)]
  · simp [escape, hquote, hslash, hline, hreturn, htab, hback, hfeed, hcontrol, readText_plain]

theorem readText_quoted (cs : List Char) (read : List Char) (rest : List Char) :
    readText read true (cs.flatMap escape ++ '"' :: rest) =
      some (some (String.ofList (read.reverse ++ cs)), rest) := by
  induction cs generalizing read with
  | nil => simp [readText]
  | cons c cs ih =>
    rw [List.flatMap_cons, List.append_assoc, readText_escape, ih]
    simp

theorem readText_text (s : String) (rest : List Char) :
    readText [] true (s.toList.flatMap escape ++ '"' :: rest) = some (some s, rest) := by
  rw [readText_quoted]
  simp

/-! ## Numbers -/

/-- Text that no number goes on with. -/
def EndsNumber (cs : List Char) : Prop :=
  ∀ c ∈ cs.head?, c.isDigit = false ∧ c ≠ '.' ∧ c ≠ 'e' ∧ c ≠ 'E'

theorem digitsOf_append {ds rest : List Char} (hds : ∀ c ∈ ds, c.isDigit = true)
    (h : EndsNumber rest) : digitsOf (ds ++ rest) = (ds, rest) := by
  have htake : rest.takeWhile Char.isDigit = [] := by
    cases rest with
    | nil => rfl
    | cons c rest => simp [(h c rfl).1]
  have hdrop : rest.dropWhile Char.isDigit = rest := by
    cases rest with
    | nil => rfl
    | cons c rest => simp [(h c rfl).1]
  rw [digitsOf, List.takeWhile_append_of_pos hds, List.dropWhile_append_of_pos hds, htake, hdrop,
    List.append_nil]

theorem wholePart?_digits (n : Nat) {rest : List Char} (h : EndsNumber rest) :
    wholePart? (Text.digits n ++ rest) = some (Text.digits n, rest) := by
  by_cases hn : n = 0
  · have hhead : (rest.head?.map Char.isDigit).getD false = false := by
      cases rest with
      | nil => rfl
      | cons c rest => exact (h c rfl).1
    subst hn
    change wholePart? ('0' :: rest) = some (['0'], rest)
    simp [wholePart?, hhead]
  · have hdigits := digitsOf_append (fun c => Text.isDigit_of_mem_digits (n := n)) h
    obtain ⟨c, ds, hds, -, hzero⟩ := Text.exists_first_digit n
    have hc : c ≠ '0' := hzero hn
    rw [hds, List.cons_append] at hdigits ⊢
    unfold wholePart?
    split <;> simp_all

theorem fraction?_of_endsNumber {cs : List Char} (h : EndsNumber cs) :
    fraction? cs = some ([], cs) := by
  cases cs with
  | nil => rfl
  | cons c cs =>
    have hpoint := (h c rfl).2.1
    unfold fraction?
    split <;> simp_all

theorem exponent?_of_endsNumber {cs : List Char} (h : EndsNumber cs) :
    exponent? cs = some (none, cs) := by
  cases cs with
  | nil => rfl
  | cons c cs =>
    have hsign := (h c rfl).2.2
    simp [exponent?, hsign]

theorem natOf_digits (n : Nat) : Numeral.natOf (Text.digits n) = n :=
  Nat.ofDigitChars_ten_toDigits

theorem value_of_int? {x : Numeral} {n : Int} (h : x.int? = some n) : x.value = .int n := by
  unfold Numeral.value
  rw [h]

theorem readNumber?_digits {n : Nat} (hn : n < UInt64.size) {rest : List Char}
    (h : EndsNumber rest) : readNumber? (Text.digits n ++ rest) = some (.int n, rest) := by
  have hsign : (Text.digits n ++ rest).head? ≠ some '-' := by
    obtain ⟨c, ds, hds, hdigit, -⟩ := Text.exists_first_digit n
    rw [hds, List.cons_append, List.head?_cons]
    rintro ⟨⟩
    exact absurd hdigit (by decide)
  have hint : (Numeral.mk false (Text.digits n) [] none).int? = some (n : Int) := by
    simpa [Numeral.int?, Numeral.isInteger, natOf_digits] using hn
  simp only [readNumber?, hsign, if_false, decide_false, wholePart?_digits n h, Option.bind_eq_bind,
    Option.bind_some, fraction?_of_endsNumber h, exponent?_of_endsNumber h, value_of_int? hint]

theorem readNumber?_minus {n : Nat} (hpos : 0 < n) (hn : n ≤ UInt64.size / 2) {rest : List Char}
    (h : EndsNumber rest) :
    readNumber? ('-' :: (Text.digits n ++ rest)) = some (.int (-n), rest) := by
  have hint : (Numeral.mk true (Text.digits n) [] none).int? = some (-n : Int) := by
    simpa [Numeral.int?, Numeral.isInteger, natOf_digits] using ⟨hpos, hn⟩
  simp only [readNumber?, List.head?_cons, List.tail_cons, if_true, decide_true,
    wholePart?_digits n h, Option.bind_eq_bind, Option.bind_some, fraction?_of_endsNumber h,
    exponent?_of_endsNumber h, value_of_int? hint]

/-- The integers that are read as such. -/
def IsWord (n : Int) : Prop := -(UInt64.size / 2 : Nat) ≤ n ∧ n < UInt64.size

theorem toList_toString_natCast (n : Nat) : (toString (n : Int)).toList = Text.digits n := by
  change (toString (Int.ofNat n)).toList = _
  rw [Int.toString_eq_repr, Int.repr, Nat.repr, String.toList_ofList, Text.digits]

theorem toList_toString_negSucc (n : Nat) :
    (toString (Int.negSucc n)).toList = '-' :: Text.digits (n + 1) := by
  rw [Int.toString_eq_repr, Int.repr, String.toList_append]
  exact congrArg ('-' :: ·) String.toList_ofList

theorem readNumber?_toString {n : Int} (hn : IsWord n) {rest : List Char}
    (h : EndsNumber rest) : readNumber? ((toString n).toList ++ rest) = some (.int n, rest) := by
  cases n with
  | ofNat k =>
    change readNumber? ((toString (k : Int)).toList ++ rest) = _
    rw [toList_toString_natCast]
    exact readNumber?_digits (Int.ofNat_lt.mp hn.2) h
  | negSucc k =>
    have hlow : k + 1 ≤ UInt64.size / 2 := by
      have := hn.1
      omega
    rw [toList_toString_negSucc]
    exact readNumber?_minus (Nat.succ_pos k) hlow h

/-! ## Values and their texts -/

mutual

/-- A value that its text has all of: nothing that is no JSON, and no number but integers. -/
def IsPlain : Json → Prop
  | .null | .bool _ | .text _ => True
  | .int n => IsWord n
  | .list items => ArePlain items
  | .record fields => ArePlainFields fields
  | _ => False

def ArePlain : List Json → Prop
  | [] => True
  | v :: vs => v.IsPlain ∧ ArePlain vs

def ArePlainFields : List (String × Json) → Prop
  | [] => True
  | (_, v) :: vs => v.IsPlain ∧ ArePlainFields vs

end

def textOfItems (items : List Json) : List Char := (",".intercalate (renderItems items)).toList

def textOfField (name : String) (v : Json) : List Char :=
  '"' :: (name.toList.flatMap escape ++ '"' :: ':' :: v.render.toList)

def textOfFields (fields : List (String × Json)) : List Char :=
  (",".intercalate (renderFields fields)).toList

theorem toList_quoted (s : String) :
    (quoted s).toList = '"' :: (s.toList.flatMap escape ++ ['"']) := by
  simp [quoted]

theorem textOfItems_singleton (v : Json) : textOfItems [v] = v.render.toList := by
  simp [textOfItems, renderItems]

theorem textOfItems_cons_cons (v w : Json) (vs : List Json) :
    textOfItems (v :: w :: vs) = v.render.toList ++ ',' :: textOfItems (w :: vs) := by
  simp [textOfItems, renderItems]

theorem textOfFields_singleton (name : String) (v : Json) :
    textOfFields [(name, v)] = textOfField name v := by
  simp [textOfFields, renderFields, textOfField, toList_quoted]

theorem textOfFields_cons_cons (name : String) (v : Json) (field : String × Json)
    (fields : List (String × Json)) :
    textOfFields ((name, v) :: field :: fields) =
      textOfField name v ++ ',' :: textOfFields (field :: fields) := by
  simp [textOfFields, renderFields, textOfField, toList_quoted]

theorem toList_render_list (items : List Json) :
    (render (.list items)).toList = '[' :: (textOfItems items ++ [']']) := by
  simp [render, textOfItems]

theorem toList_render_record (fields : List (String × Json)) :
    (render (.record fields)).toList = '{' :: (textOfFields fields ++ ['}']) := by
  simp [render, textOfFields]

/-- A character that a value may begin with. -/
def isLead (c : Char) : Bool := c ∉ [' ', '\n', '\t', '\r', ']']

theorem skipSpace_of_isLead {c : Char} (h : isLead c = true) (cs : List Char) :
    skipSpace (c :: cs) = c :: cs := by
  simp [isLead] at h
  simp [skipSpace, h]

theorem isLead_of_isDigit {c : Char} (h : c.isDigit = true) : isLead c = true := by
  apply decide_eq_true
  intro hmem
  simp at hmem
  rcases hmem with rfl | rfl | rfl | rfl | rfl <;> exact absurd h (by decide)

theorem exists_lead (v : Json) (h : v.IsPlain) :
    ∃ c cs, v.render.toList = c :: cs ∧ isLead c = true := by
  cases v with
  | null => exact ⟨'n', ['u', 'l', 'l'], rfl, rfl⟩
  | bool b =>
    cases b with
    | true => exact ⟨'t', ['r', 'u', 'e'], rfl, rfl⟩
    | false => exact ⟨'f', ['a', 'l', 's', 'e'], rfl, rfl⟩
  | int n =>
    cases n with
    | ofNat k =>
      obtain ⟨c, ds, hds, hdigit, -⟩ := Text.exists_first_digit k
      exact ⟨c, ds, (toList_toString_natCast k).trans hds, isLead_of_isDigit hdigit⟩
    | negSucc k => exact ⟨'-', _, toList_toString_negSucc k, rfl⟩
  | text s => exact ⟨'"', _, toList_quoted s, rfl⟩
  | list items => exact ⟨'[', _, toList_render_list items, rfl⟩
  | record fields => exact ⟨'{', _, toList_render_record fields, rfl⟩
  | _ => exact h.elim

theorem exists_lead_items {v : Json} (h : v.IsPlain) (vs : List Json) :
    ∃ c cs, textOfItems (v :: vs) = c :: cs ∧ isLead c = true := by
  obtain ⟨c, cs, htext, hlead⟩ := exists_lead v h
  cases vs with
  | nil => exact ⟨c, cs, (textOfItems_singleton v).trans htext, hlead⟩
  | cons w vs =>
    rw [textOfItems_cons_cons, htext]
    exact ⟨c, _, rfl, hlead⟩

theorem exists_quote_fields (field : String × Json) (fields : List (String × Json)) :
    ∃ cs, textOfFields (field :: fields) = '"' :: cs := by
  cases fields with
  | nil => exact ⟨_, textOfFields_singleton field.1 field.2⟩
  | cons next fields => exact ⟨_, textOfFields_cons_cons field.1 field.2 next fields⟩

/-! ## Reading the text of a value -/

theorem endsNumber_cons {c : Char} (h : c ∈ [',', ']', '}']) (cs : List Char) :
    EndsNumber (c :: cs) := by
  rintro _ ⟨⟩
  simp at h
  rcases h with rfl | rfl | rfl <;> decide

theorem readValue_bracket (fuel : Nat) (cs : List Char) :
    readValue (fuel + 1) ('[' :: cs) =
      match skipSpace cs with
      | ']' :: cs => (.list [], some cs)
      | cs =>
        let (items, rest) := readItems fuel cs
        (.list items, rest) := rfl

theorem readValue_brace (fuel : Nat) (cs : List Char) :
    readValue (fuel + 1) ('{' :: cs) =
      match skipSpace cs with
      | '}' :: cs => (.record [], some cs)
      | cs =>
        let (fields, rest) := readFields fuel cs
        (.record fields, rest) := rfl

theorem readValue_quote (fuel : Nat) (cs : List Char) :
    readValue (fuel + 1) ('"' :: cs) =
      match readText [] true cs with
      | some (some s, cs) => (.text s, some cs)
      | some (none, cs) => (.void, some cs)
      | none => (.cut, none) := rfl

/-- A value is read from its text as it is, with fuel for two steps at each character. -/
def Restores (v : Json) : Prop :=
  ∀ fuel rest, 2 * v.render.toList.length < fuel → EndsNumber rest →
    readValue fuel (v.render.toList ++ rest) = (v, some rest)

def RestoresItems (items : List Json) : Prop :=
  ∀ fuel rest, 2 * (textOfItems items).length + 1 < fuel →
    readItems fuel (textOfItems items ++ ']' :: rest) = (items, some rest)

def RestoresFields (fields : List (String × Json)) : Prop :=
  ∀ fuel rest, 2 * (textOfFields fields).length + 1 < fuel →
    readFields fuel (textOfFields fields ++ '}' :: rest) = (fields, some rest)

/-! There always is fuel for a step. -/

theorem restores_of_step {v : Json}
    (h : ∀ fuel rest, 2 * v.render.toList.length ≤ fuel → EndsNumber rest →
      readValue (fuel + 1) (v.render.toList ++ rest) = (v, some rest)) : Restores v := by
  intro fuel rest hfuel hrest
  cases fuel with
  | zero => exact absurd hfuel (Nat.not_lt_zero _)
  | succ fuel => exact h fuel rest (Nat.le_of_lt_succ hfuel) hrest

theorem restoresItems_of_step {items : List Json}
    (h : ∀ fuel rest, 2 * (textOfItems items).length + 1 ≤ fuel →
      readItems (fuel + 1) (textOfItems items ++ ']' :: rest) = (items, some rest)) :
    RestoresItems items := by
  intro fuel rest hfuel
  cases fuel with
  | zero => exact absurd hfuel (Nat.not_lt_zero _)
  | succ fuel => exact h fuel rest (Nat.le_of_lt_succ hfuel)

theorem restoresFields_of_step {fields : List (String × Json)}
    (h : ∀ fuel rest, 2 * (textOfFields fields).length + 1 ≤ fuel →
      readFields (fuel + 1) (textOfFields fields ++ '}' :: rest) = (fields, some rest)) :
    RestoresFields fields := by
  intro fuel rest hfuel
  cases fuel with
  | zero => exact absurd hfuel (Nat.not_lt_zero _)
  | succ fuel => exact h fuel rest (Nat.le_of_lt_succ hfuel)

theorem restores_word {v : Json} {word : List Char} (htext : v.render.toList = word)
    (hread : ∀ fuel rest, readValue (fuel + 1) (word ++ rest) = (v, some rest)) : Restores v := by
  apply restores_of_step
  intro fuel rest _ _
  rw [htext, hread]

/-- What begins with a digit or a minus sign is read as a number. -/
theorem readValue_number {c : Char} (hc : c.isDigit = true ∨ c = '-') {cs rest : List Char}
    {n : Json} (h : readNumber? (c :: cs) = some (n, rest)) (fuel : Nat) :
    readValue (fuel + 1) (c :: cs) = (n, some rest) := by
  have hlead : isLead c = true := by
    rcases hc with hdigit | rfl
    · exact isLead_of_isDigit hdigit
    · rfl
  have hword : c ∉ ['n', 't', 'f', '"', '[', '\x7b'] := by
    intro hmem
    simp at hmem
    rcases hmem with rfl | rfl | rfl | rfl | rfl | rfl <;> exact absurd hc (by decide)
  simp at hword
  rw [readValue, skipSpace_of_isLead hlead]
  split <;> simp_all

theorem restores_int {n : Int} (hn : IsWord n) : Restores (.int n) := by
  apply restores_of_step
  intro fuel rest _ hrest
  have hread := readNumber?_toString hn hrest
  rw [render]
  cases n with
  | ofNat k =>
    obtain ⟨c, ds, hds, hdigit, -⟩ := Text.exists_first_digit k
    change readNumber? ((toString (k : Int)).toList ++ rest) = _ at hread
    change readValue _ ((toString (k : Int)).toList ++ rest) = _
    rw [toList_toString_natCast, hds, List.cons_append] at hread ⊢
    exact readValue_number (.inl hdigit) hread fuel
  | negSucc k =>
    rw [toList_toString_negSucc, List.cons_append] at hread ⊢
    exact readValue_number (.inr rfl) hread fuel

theorem restores_text (s : String) : Restores (.text s) := by
  apply restores_of_step
  intro fuel rest hfuel hrest
  rw [render, toList_quoted, List.cons_append, List.append_assoc, List.singleton_append,
    readValue_quote, readText_text]

theorem restores_list {items : List Json} (hplain : ArePlain items)
    (h : items ≠ [] → RestoresItems items) : Restores (.list items) := by
  apply restores_of_step
  intro fuel rest hfuel hrest
  rw [toList_render_list] at hfuel ⊢
  cases items with
  | nil => rfl
  | cons v vs =>
    have hitems := h (by simp) fuel rest (by simp at hfuel; omega)
    obtain ⟨c, cs, htext, hlead⟩ := exists_lead_items hplain.1 vs
    have hbracket : c ≠ ']' := by
      rintro rfl
      exact absurd hlead (by decide)
    rw [List.cons_append, List.append_assoc, List.singleton_append, readValue_bracket]
    rw [htext, List.cons_append] at hitems ⊢
    rw [skipSpace_of_isLead hlead]
    split
    · simp_all
    · rw [hitems]

theorem restores_record {fields : List (String × Json)}
    (h : fields ≠ [] → RestoresFields fields) : Restores (.record fields) := by
  apply restores_of_step
  intro fuel rest hfuel hrest
  rw [toList_render_record] at hfuel ⊢
  cases fields with
  | nil => rfl
  | cons field fields =>
    have hfields := h (by simp) fuel rest (by simp at hfuel; omega)
    obtain ⟨cs, htext⟩ := exists_quote_fields field fields
    rw [List.cons_append, List.append_assoc, List.singleton_append, readValue_brace]
    rw [htext, List.cons_append] at hfields ⊢
    rw [skipSpace_of_isLead (by rfl)]
    simp [hfields]

theorem restoresItems_singleton {v : Json} (h : Restores v) : RestoresItems [v] := by
  apply restoresItems_of_step
  intro fuel rest hfuel
  rw [textOfItems_singleton] at hfuel ⊢
  have hv := h fuel (']' :: rest) (by omega) (endsNumber_cons (by simp) rest)
  rw [readItems, hv]
  rfl

theorem restoresItems_cons {v w : Json} {vs : List Json} (h : Restores v)
    (hrest : RestoresItems (w :: vs)) : RestoresItems (v :: w :: vs) := by
  apply restoresItems_of_step
  intro fuel rest hfuel
  rw [textOfItems_cons_cons] at hfuel ⊢
  simp at hfuel
  have hv := h fuel (',' :: (textOfItems (w :: vs) ++ ']' :: rest)) (by omega)
    (endsNumber_cons (by simp) _)
  have hvs := hrest fuel rest (by omega)
  rw [List.append_assoc, List.cons_append, readItems, hv]
  simp [skipSpace, hvs]

theorem restoresFields_singleton {v : Json} (h : Restores v) (name : String) :
    RestoresFields [(name, v)] := by
  apply restoresFields_of_step
  intro fuel rest hfuel
  rw [textOfFields_singleton] at hfuel ⊢
  simp [textOfField] at hfuel
  have hv := h fuel ('}' :: rest) (by omega) (endsNumber_cons (by simp) rest)
  simp [textOfField, readFields, skipSpace, readText_text, fieldOf, hv]

theorem restoresFields_cons {v : Json} (h : Restores v) (name : String) {field : String × Json}
    {fields : List (String × Json)} (hrest : RestoresFields (field :: fields)) :
    RestoresFields ((name, v) :: field :: fields) := by
  apply restoresFields_of_step
  intro fuel rest hfuel
  rw [textOfFields_cons_cons] at hfuel ⊢
  simp [textOfField] at hfuel
  have hv := h fuel (',' :: (textOfFields (field :: fields) ++ '}' :: rest)) (by omega)
    (endsNumber_cons (by simp) _)
  have hvs := hrest fuel rest (by omega)
  simp [textOfField, readFields, skipSpace, readText_text, fieldOf, hv, hvs]

mutual

theorem restores_of_isPlain : ∀ v : Json, v.IsPlain → Restores v
  | .null, _ => restores_word rfl fun _ _ => rfl
  | .bool true, _ => restores_word rfl fun _ _ => rfl
  | .bool false, _ => restores_word rfl fun _ _ => rfl
  | .int _, h => restores_int h
  | .text s, _ => restores_text s
  | .list items, h => restores_list h fun hne => restoresItems_of_arePlain items hne h
  | .record fields, h => restores_record fun hne => restoresFields_of_arePlain fields hne h

theorem restoresItems_of_arePlain :
    ∀ items : List Json, items ≠ [] → ArePlain items → RestoresItems items
  | [], hne, _ => absurd rfl hne
  | [v], _, h => restoresItems_singleton (restores_of_isPlain v h.1)
  | v :: w :: vs, _, h =>
    restoresItems_cons (restores_of_isPlain v h.1)
      (restoresItems_of_arePlain (w :: vs) (List.cons_ne_nil w vs) h.2)

theorem restoresFields_of_arePlain :
    ∀ fields : List (String × Json), fields ≠ [] → ArePlainFields fields → RestoresFields fields
  | [], hne, _ => absurd rfl hne
  | [(name, v)], _, h => restoresFields_singleton (restores_of_isPlain v h.1) name
  | (name, v) :: field :: fields, _, h =>
    restoresFields_cons (restores_of_isPlain v h.1) name
      (restoresFields_of_arePlain (field :: fields) (List.cons_ne_nil field fields) h.2)

end

/-- What is written of a plain value is the text of a document with that value. -/
theorem read_render {v : Json} (h : v.IsPlain) : read v.render = ⟨v, true⟩ := by
  have hread := restores_of_isPlain v h (2 * v.render.toList.length + 2) [] (by omega) nofun
  rw [List.append_nil] at hread
  simp [read, hread, skipSpace]

end Namebook.Json
