import Cardwright.Proofs.Record.Lexeme
import Cardwright.Proofs.Text.Case
import Cardwright.Record.Reader
import Mathlib.Data.List.Forall2

/-!
# Values are read back

A reader *takes* a text to a value (`Takes`) if it takes just this text off the front, whatever
comes behind it that values end at.  The rules for `Takes` follow the notation: one for each kind of
simple value, and one for each way of putting values together, with the readers of the parts as
hypotheses.  Sequences have a step (`sequence?_step`) and a run (`sequence?_commas`).

A whole text that is taken to a value is read as that value (`Node.read?_of_takes`).
-/

namespace Cardwright.Record

open Text (Stops IsDigits)

variable {α : Type} {rest : Text}

/-! ### Taking a text off -/

/-- A text that begins with a character that is no blank, no slash and no closing parenthesis. -/
def Opens (text : Text) : Prop :=
  ∃ c t, text = c :: t ∧ isSpace c = false ∧ c ≠ '/' ∧ c ≠ ')'

/-- A reader takes a text to a value, whatever comes behind the text. -/
structure Takes (reader : Reader α) (text : Text) (x : α) : Prop where
  opens : Opens text
  reads : ∀ rest, Closes rest → reader (text ++ rest) = some (x, rest)

theorem Opens.append {text : Text} (h : Opens text) (t : Text) : Opens (text ++ t) := by
  obtain ⟨c, u, rfl, hc⟩ := h
  exact ⟨c, u ++ t, rfl, hc⟩

theorem Opens.skipBlanks {text : Text} (h : Opens text) (t : Text) :
    skipBlanks (text ++ t) = some (text ++ t) := by
  obtain ⟨c, u, rfl, hspace, hslash, -⟩ := h
  exact skipBlanks_of_stops (by simp [Stops, hspace, hslash])

theorem opens_of_isNameStart {c : Char} (h : isNameStart c = true) (t : Text) :
    Opens (c :: t) := by
  have hspace : ∀ d, isSpace d = true → isNameStart d = false := by
    intro d hd
    simp only [isSpace, Bool.or_eq_true, beq_iff_eq] at hd
    rcases hd with ((rfl | rfl) | rfl) | rfl <;> decide
  refine ⟨c, t, rfl, ?_, ?_, ?_⟩
  · by_contra hc
    rw [hspace c (by simpa using hc)] at h
    cases h
  · rintro rfl
    cases h
  · rintro rfl
    cases h

theorem IsName.opens {name : Text} (h : IsName name) (t : Text) : Opens (name ++ t) := by
  obtain ⟨c, u, rfl, hc⟩ := h.exists_cons
  exact opens_of_isNameStart hc (u ++ t)

/-! ### Sequences -/

theorem comma?_comma {t : Text} (h : skipBlanks t = some t) :
    comma? (',' :: t) = some (true, t) := by
  have hcomma : skipBlanks (',' :: t) = some (',' :: t) := (closes_comma t).skipBlanks
  simp [comma?, hcomma, h]

theorem comma?_parenthesis (t : Text) : comma? (')' :: t) = some (false, ')' :: t) := by
  have hclose : skipBlanks (')' :: t) = some (')' :: t) := (closes_parenthesis t).skipBlanks
  simp [comma?, hclose]

theorem sequence?_close {member : Reader α} (separated : Bool) (t : Text) :
    sequence? ')' member separated (')' :: t) = some ([], t) := by
  have hclose : skipBlanks (')' :: t) = some (')' :: t) := (closes_parenthesis t).skipBlanks
  rw [sequence?]
  simp [hclose]

/-- **The step**: a member is taken off with what separates it from the next one. -/
theorem sequence?_step {member : Reader α} {text : Text} {x : α} (h : Takes member text x)
    {behind rest : Text} {more : Bool} (hbehind : Closes behind)
    (hcomma : comma? behind = some (more, rest)) (hrest : rest.length ≤ behind.length) :
    sequence? ')' member true (text ++ behind) =
      (sequence? ')' member more rest).map fun (xs, rest) => (x :: xs, rest) := by
  have hskip := h.opens.skipBlanks behind
  have hreads := h.reads behind hbehind
  obtain ⟨c, t, rfl, -, -, hc⟩ := h.opens
  -- The reader goes on only if less is left than it began with.
  have hshort : rest.length < (c :: t ++ behind).length := by
    simp only [List.length_append, List.length_cons]
    omega
  rw [sequence?, hskip]
  simp only [List.cons_append] at hreads hshort ⊢
  simp only [Option.bind_eq_bind, Option.bind_some, if_neg hc, if_true, hreads, hcomma]
  rw [if_pos hshort]
  exact (Option.map_eq_bind ..).symm

theorem commas_cons_cons (text next : Text) (texts : List Text) :
    Node.commas (text :: next :: texts) = text ++ ',' :: Node.commas (next :: texts) := by
  simp [Node.commas, List.intercalate_cons_cons]

theorem commas_singleton (text : Text) : Node.commas [text] = text := by simp [Node.commas]

theorem exists_commas_cons (text : Text) (texts : List Text) :
    ∃ behind, Node.commas (text :: texts) = text ++ behind := by
  cases texts with
  | nil => exact ⟨[], by rw [commas_singleton, List.append_nil]⟩
  | cons next texts => exact ⟨_, commas_cons_cons text next texts⟩

/-- **The run**: members that are taken off one by one are taken off as a sequence. -/
theorem sequence?_commas {member : Reader α} {texts : List Text} {xs : List α}
    (h : List.Forall₂ (Takes member) texts xs) (rest : Text) :
    sequence? ')' member true (Node.commas texts ++ ')' :: rest) = some (xs, rest) := by
  induction h with
  | nil => exact sequence?_close true rest
  | @cons text x texts xs hx hxs ih =>
    cases hxs with
    | nil =>
      rw [commas_singleton, sequence?_step hx (closes_parenthesis rest) (comma?_parenthesis rest)
        (Nat.le_refl _), sequence?_close]
      rfl
    | @cons next y texts xs hy hys =>
      have hskip : skipBlanks (Node.commas (next :: texts) ++ ')' :: rest) =
          some (Node.commas (next :: texts) ++ ')' :: rest) := by
        obtain ⟨behind, hcommas⟩ := exists_commas_cons next texts
        rw [hcommas]
        exact (hy.opens.append behind).skipBlanks _
      rw [commas_cons_cons, List.append_assoc, List.cons_append,
        sequence?_step hx (closes_comma _) (comma?_comma hskip) (by simp), ih]
      rfl

/-! ### Fields -/

theorem stops_colon (t : Text) : Stops isNameChar (':' :: t) := by
  rintro c ⟨⟩
  decide

theorem skipBlanks_colon (t : Text) : skipBlanks (':' :: t) = some (':' :: t) :=
  skipBlanks_of_stops (by rintro c ⟨⟩; decide)

/-- A name, a colon and the text of a value are taken off as a field. -/
theorem takes_field {value : Text → Reader Node} {name text : Text} {node : Node}
    (hname : IsName name) (h : Takes (value name) text node) :
    Takes (field? value) (name ++ ':' :: text) (name, node) := by
  refine ⟨hname.opens _, fun rest hrest => ?_⟩
  have hbehind := h.opens.skipBlanks rest
  rw [List.append_assoc, List.cons_append, field?, name?_append hname (stops_colon _)]
  simp only [Option.bind_eq_bind, Option.bind_some, colon?, skipBlanks_colon, hbehind,
    h.reads rest hrest]
  rfl

theorem renderFields_eq_map (entries : List (Text × Node)) :
    Node.renderFields entries = entries.map fun e => e.1 ++ ':' :: e.2.render := by
  induction entries with
  | nil => rfl
  | cons e entries ih => rw [Node.renderFields, Node.renderField, ih, List.map_cons]

/-- Fields begin with the first name and a colon. -/
theorem exists_renderFields_eq (first : Text) (node : Node) (more : List (Text × Node))
    (rest : Text) : ∃ behind,
      Node.commas (Node.renderFields ((first, node) :: more)) ++ ')' :: rest =
        first ++ ':' :: behind := by
  obtain ⟨tail, hcommas⟩ := exists_commas_cons (first ++ ':' :: node.render)
    (Node.renderFields more)
  rw [Node.renderFields, Node.renderField, hcommas]
  exact ⟨node.render ++ tail ++ ')' :: rest, by simp⟩

/-- The members of a structure are taken off as fields if they have names. -/
theorem structure?_fields {member : Layout → Reader Node} {layout : Layout}
    {entries : List (Text × Node)} (hne : entries ≠ [])
    (h : ∀ e ∈ entries, IsName e.1 ∧ Takes (member (layout.field e.1)) e.2.render e.2)
    (name rest : Text) :
    structure? member layout name (Node.commas (Node.renderFields entries) ++ ')' :: rest) =
      some (.fields name entries, rest) := by
  have hfields : List.Forall₂ (Takes (field? fun name => member (layout.field name)))
      (Node.renderFields entries) entries := by
    rw [renderFields_eq_map, List.forall₂_map_left_iff, List.forall₂_same]
    exact fun e he => takes_field (h e he).1 (h e he).2
  have hsequence := sequence?_commas hfields rest
  obtain ⟨⟨first, node⟩, more, rfl⟩ := List.exists_cons_of_ne_nil hne
  have hfirst := (h _ List.mem_cons_self).1
  obtain ⟨behind, hbegin⟩ := exists_renderFields_eq first node more rest
  have hbegins := (hfirst.opens (':' :: behind)).skipBlanks []
  rw [List.append_nil] at hbegins
  rw [hbegin] at hsequence ⊢
  simp only [structure?, hbegins, name?_append hfirst (stops_colon behind),
    skipBlanks_colon behind, Option.bind_eq_bind, Option.bind_some]
  rw [if_pos (by decide), hsequence]
  rfl

/-! ### Simple values -/

section Plain

variable {implicitSome : Bool} {parts : Parts} {layout : Layout}

/-- Words begin as names do. -/
theorem afterWord?_of_not_isNameStart {c : Char} (hc : isNameStart c = false) {word : Text}
    (hword : word.head?.any isNameStart = true) (t : Text) : afterWord? word (c :: t) = none := by
  cases word with
  | nil => cases hword
  | cons s word =>
    have hne : s ≠ c := by
      rintro rfl
      rw [List.head?_cons, Option.any_some, hc] at hword
      cases hword
    rw [afterWord?, afterStart?_of_ne hne]
    rfl

/-- What begins with no name is told by its first character. -/
theorem plain?_of_not_isNameStart {c : Char} (hc : isNameStart c = false) {t : Text}
    (hunit : Text.afterStart? "()" (c :: t) = none) :
    plain? implicitSome parts layout (c :: t) = punctuated? parts layout (c :: t) := by
  have hword : word? (c :: t) = none := by
    refine List.findSome?_eq_none_iff.2 fun word hword => Option.map_eq_none_iff.2 ?_
    refine afterWord?_of_not_isNameStart hc ?_ t
    revert word
    decide
  have hsome : afterWord? "Some" (c :: t) = none := afterWord?_of_not_isNameStart hc (by decide) t
  simp only [plain?, hword, hunit, hsome, name?_eq_none hc]

theorem takes_string (value : Text) :
    Takes (plain? implicitSome parts layout) (Text.quote true value) (.string value) := by
  refine ⟨⟨'"', _, rfl, by decide, by decide, by decide⟩, fun rest _ => ?_⟩
  have hquoted := quoted?_escapes value rest
  rw [Text.quote, List.cons_append, List.cons_append, List.append_assoc, List.singleton_append,
    plain?_of_not_isNameStart (by decide) (afterStart?_of_ne (by decide) _ _), punctuated?,
    if_neg (by decide), if_pos (by decide), string?, hquoted]
  rfl

theorem isNameStart_of_isDigit {c : Char} (h : c.isDigit = true) : isNameStart c = false := by
  have hrange := Text.toNat_of_isDigit h
  have halpha : c.isAlpha = false := by
    by_contra halpha
    rw [Bool.not_eq_false] at halpha
    have hletter := Text.toNat_of_isAlpha halpha
    omega
  have hunderscore : c ≠ '_' := by
    rintro rfl
    exact absurd h (by decide)
  simp [isNameStart, halpha, hunderscore]

/-- A lexeme that begins with a digit or a minus sign and is taken off as a number. -/
theorem takes_number {c : Char} {t : Text} (hc : c.isDigit = true ∨ c = '-')
    (h : ∀ rest, Closes rest → number? (c :: t ++ rest) = some (c :: t, rest)) :
    Takes (plain? implicitSome parts layout) (c :: t) (.number (c :: t)) := by
  have hne : ∀ d : Char, d.isDigit = false → d ≠ '-' → c ≠ d := by
    rintro d hdigit hminus rfl
    rcases hc with hc | hc
    · rw [hdigit] at hc
      cases hc
    · exact hminus hc
  have hstart : isNameStart c = false := by
    rcases hc with hc | rfl
    · exact isNameStart_of_isDigit hc
    · decide
  have hsign : (c.isDigit || c == '+' || c == '-') = true := by
    rcases hc with hc | rfl
    · rw [hc]
      rfl
    · decide
  have hspace : isSpace c = false := by
    simp [isSpace, hne ' ', hne '\n', hne '\t', hne '\r']
  refine ⟨⟨c, t, rfl, hspace, hne '/' (by decide) (by decide), hne ')' (by decide) (by decide)⟩,
    fun rest hrest => ?_⟩
  have hnumber := h rest hrest
  rw [List.cons_append] at hnumber ⊢
  rw [plain?_of_not_isNameStart hstart
      (afterStart?_of_ne (hne '(' (by decide) (by decide)).symm _ _), punctuated?]
  simp only [hne '(' (by decide) (by decide), hne '[' (by decide) (by decide),
    hne '{' (by decide) (by decide), hne '"' (by decide) (by decide),
    hne 'r' (by decide) (by decide), hne '\x27' (by decide) (by decide), or_self, if_false, hsign,
    if_true, hnumber, Option.map_some]

theorem takes_decimal {n : Nat} (h : n < UInt64.size) :
    Takes (plain? implicitSome parts layout) (Text.decimal n) (.number (Text.decimal n)) := by
  obtain ⟨c, t, hdecimal, hc, -⟩ := (Text.isDigits_decimal n).exists_cons
  have hnumber : ∀ rest, Closes rest → number? (Text.decimal n ++ rest) = some (_, rest) :=
    fun _ => number?_decimal h
  rw [hdecimal] at hnumber ⊢
  exact takes_number (.inl hc) hnumber

theorem takes_point {whole places : Text} (hw : IsDigits whole) (hp : IsDigits places)
    (negative : Bool) :
    Takes (plain? implicitSome parts layout) (Binary32.signed negative (whole ++ '.' :: places))
      (.number (Binary32.signed negative (whole ++ '.' :: places))) := by
  have hnumber := fun (rest : Text) (hrest : Closes rest) => number?_point hw hp negative hrest
  obtain ⟨c, t, rfl, hc, -⟩ := hw.exists_cons
  cases negative with
  | false => exact takes_number (.inl hc) hnumber
  | true => exact takes_number (.inr rfl) hnumber

/-- A name that is no word of the notation stands for itself. -/
theorem takes_symbol {name : Text} (h : IsName name)
    (hword : name ∉ (["true", "false", "None", "inf", "NaN", "Some"] : List Text)) :
    Takes (plain? implicitSome parts layout) name (.symbol name) := by
  have hopens := h.opens []
  rw [List.append_nil] at hopens
  refine ⟨hopens, fun rest hrest => ?_⟩
  have hstops : Stops isNameChar rest := hrest.stops (by decide) (by decide)
  have hwords : ∀ word ∈ (["true", "false", "None", "inf", "NaN", "Some"] : List Text),
      afterWord? word (name ++ rest) = none := by
    intro word hmem
    have hchars : ∀ word ∈ (["true", "false", "None", "inf", "NaN", "Some"] : List Text),
        word.all isNameChar = true := by decide
    refine afterWord?_of_ne (List.all_eq_true.1 (hchars word hmem)) h.forall_mem ?_ hstops
    rintro rfl
    exact hword hmem
  -- The words are looked for one by one, before the text is read as a name.
  have hnone : word? (name ++ rest) = none := by
    refine List.findSome?_eq_none_iff.2 fun word hmem =>
      Option.map_eq_none_iff.2 (hwords word.1 ?_)
    revert word
    decide
  have hunit : Text.afterStart? "()" (name ++ rest) = none := by
    obtain ⟨c, t, rfl, hc⟩ := h.exists_cons
    refine afterStart?_of_ne ?_ _ _
    rintro rfl
    cases hc
  have hsome : afterWord? "Some" (name ++ rest) = none := hwords "Some" (by decide)
  simp only [plain?, hnone, hunit, hsome, name?_append h hstops, named?, hrest.skipBlanks,
    Option.bind_eq_bind, Option.bind_some]
  split
  · next heq => exact absurd (hrest '(' rfl) (by decide)
  · rfl

/-! ### Values with parts -/

theorem takes_absent {value : Reader Node} :
    Takes (optional? implicitSome value) "None".toList .absent := by
  refine ⟨⟨'N', _, rfl, by decide, by decide, by decide⟩, fun rest _ => ?_⟩
  have hnone : Text.afterStart? "None".toList ("None".toList ++ rest) = some rest :=
    Text.afterStart?_eq_some_iff.2 rfl
  rw [optional?, hnone]

theorem takes_present {value : Reader Node} {text : Text} {node : Node}
    (h : Takes value text node) :
    Takes (optional? implicitSome value) ("Some(".toList ++ text ++ ")".toList)
      (.present node) := by
  refine ⟨⟨'S', _, rfl, by decide, by decide, by decide⟩, fun rest _ => ?_⟩
  have htext : "Some(".toList ++ text ++ ")".toList ++ rest =
      "Some".toList ++ '(' :: (text ++ ')' :: rest) := by simp
  have hnone : Text.afterStart? "None".toList ("Some".toList ++ '(' :: (text ++ ')' :: rest)) =
      none := afterStart?_of_ne (by decide) _ _
  have hsome : Text.afterStart? "Some".toList ("Some".toList ++ '(' :: (text ++ ')' :: rest)) =
      some ('(' :: (text ++ ')' :: rest)) := Text.afterStart?_eq_some_iff.2 rfl
  have hskip : skipBlanks ('(' :: (text ++ ')' :: rest)) = some ('(' :: (text ++ ')' :: rest)) :=
    skipBlanks_of_stops (by rintro c ⟨⟩; decide)
  have hbehind := h.opens.skipBlanks (')' :: rest)
  have hreads := h.reads (')' :: rest) (closes_parenthesis rest)
  rw [htext, optional?, hnone]
  simp only [hsome, present?, hskip, hbehind, hreads, comma?_parenthesis, Option.bind_eq_bind,
    Option.bind_some]
  rfl

/-- A structure is taken off if its fields are. -/
theorem takes_fields {entries : List (Text × Node)} (hopens : parts.opens = true)
    (hne : entries ≠ [])
    (h : ∀ e ∈ entries, IsName e.1 ∧ Takes (parts.member (layout.field e.1)) e.2.render e.2) :
    Takes (plain? implicitSome parts layout) (Node.render (.fields [] entries))
      (.fields [] entries) := by
  have hrender : Node.render (.fields [] entries) =
      '(' :: (Node.commas (Node.renderFields entries) ++ [')']) := rfl
  rw [hrender]
  refine ⟨⟨'(', _, rfl, by decide, by decide, by decide⟩, fun rest _ => ?_⟩
  have hcompound : compound? parts.member layout
      ('(' :: (Node.commas (Node.renderFields entries) ++ ')' :: rest)) =
        some (.fields [] entries, rest) := structure?_fields hne h [] rest
  have hunit : Text.afterStart? "()"
      ('(' :: (Node.commas (Node.renderFields entries) ++ ')' :: rest)) = none := by
    obtain ⟨⟨first, node⟩, more, rfl⟩ := List.exists_cons_of_ne_nil hne
    obtain ⟨behind, hbegin⟩ := exists_renderFields_eq first node more rest
    obtain ⟨c, t, hfirst, hc⟩ := (h _ List.mem_cons_self).1.exists_cons
    have hclose : ')' ≠ c := by
      rintro rfl
      cases hc
    rw [hbegin, show first = c :: t from hfirst]
    exact afterStart?_of_ne hclose _ _
  rw [List.cons_append, List.append_assoc, List.singleton_append,
    plain?_of_not_isNameStart (by decide) hunit, punctuated?, if_pos (by decide), if_pos hopens,
    hcompound]

end Plain

/-- A value of no particular layout is read by its looks, at any level. -/
theorem takes_value {implicitSome : Bool} {text : Text} {node : Node}
    (h : ∀ parts, Takes (plain? implicitSome parts .anything) text node) (levels : Nat) :
    Takes (value? implicitSome levels .anything) text node := by
  match levels with
  | 0 => exact h _
  | 1 => exact h _
  | levels + 2 => exact h _

/-! ### Documents -/

/-- **A whole text that is taken to a value is read as it.** -/
theorem Node.read?_of_takes {layout : Layout} {text : Text} {node : Node}
    (h : Takes (value? false levelLimit layout) text node) (hhash : text.head? ≠ some '#') :
    Node.read? layout text = some node := by
  have hskip := h.opens.skipBlanks []
  have hreads := h.reads [] closes_nil
  rw [List.append_nil] at hskip hreads
  have hextensions : allExtensions? text = some ([], text) := by
    rw [allExtensions?, hskip]
    simp only [Option.bind_eq_bind, Option.bind_some]
    split
    · exact absurd rfl hhash
    · rfl
  have hend : skipBlanks [] = some [] := closes_nil.skipBlanks
  have hbare : ([] : List Text).contains "implicit_some".toList = false := rfl
  simp only [Node.read?, hextensions, Option.bind_eq_bind, Option.bind_some, hbare, hreads, hend]
  rfl

end Cardwright.Record
