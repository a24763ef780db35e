import Cardwright.Proofs.Number.Decimal
import Cardwright.Record.Lexeme
import Cardwright.Text.Quoted

/-!
# Lexemes are read back

Names, numbers and quoted text are taken off the front of a text as they were written, whatever
comes behind them, as long as they end there: a name in front of anything that goes on with no
character of names (`name?_append`), a number in front of a comma or a closing parenthesis
(`number?_decimal`, `number?_point`), and quoted text in front of anything at all
(`quoted?_escapes`).
-/

namespace Cardwright.Record

open Text (Stops IsDigits)

variable {rest : Text}

/-! ### Where values end -/

/-- A text that a value in front of it ends at: it is over, or it goes on with a comma or a closing
parenthesis. -/
def Closes (t : Text) : Prop := ∀ c ∈ t.head?, c = ',' ∨ c = ')'

theorem closes_nil : Closes [] := by simp [Closes]

theorem closes_comma (t : Text) : Closes (',' :: t) := by simp [Closes]

theorem closes_parenthesis (t : Text) : Closes (')' :: t) := by simp [Closes]

theorem Closes.stops (h : Closes rest) {p : Char → Bool} (hcomma : p ',' = false)
    (hclose : p ')' = false) : Stops p rest := by
  intro c hc
  rcases h c hc with rfl | rfl
  · exact hcomma
  · exact hclose

/-- Nothing is skipped where no blank and no comment begins. -/
theorem skipBlanks_of_stops (h : Stops (fun c => isSpace c || c == '/') rest) :
    skipBlanks rest = some rest := by
  cases rest with
  | nil => rw [skipBlanks]
  | cons c t =>
    have hc := h c rfl
    rw [Bool.or_eq_false_iff, beq_eq_false_iff_ne] at hc
    unfold skipBlanks
    rw [if_neg (by simp [hc.1]), if_neg hc.2]

theorem Closes.skipBlanks (h : Closes rest) : skipBlanks rest = some rest :=
  skipBlanks_of_stops (h.stops (by decide) (by decide))

/-! ### Names -/

/-- A text that is read as a name. A single `r` is none at the end of a text. -/
def IsName (name : Text) : Prop :=
  name.head?.any isNameStart = true ∧ name.all isNameChar = true ∧ name ≠ ['r']

instance (name : Text) : Decidable (IsName name) :=
  inferInstanceAs (Decidable (_ ∧ _ ∧ _))

theorem IsName.exists_cons {name : Text} (h : IsName name) :
    ∃ c t, name = c :: t ∧ isNameStart c = true := by
  cases name with
  | nil => cases h.1
  | cons c t => exact ⟨c, t, rfl, by simpa using h.1⟩

theorem IsName.forall_mem {name : Text} (h : IsName name) : ∀ c ∈ name, isNameChar c = true :=
  List.all_eq_true.1 h.2.1

/-- **A name is taken off as far as it goes.** -/
theorem name?_append {name : Text} (h : IsName name) (hrest : Stops isNameChar rest) :
    name? (name ++ rest) = some (name, rest) := by
  obtain ⟨htake, hdrop⟩ := Text.takeWhile_append_stops h.forall_mem hrest
  have hchars := h.forall_mem
  obtain ⟨c, t, rfl, hc⟩ := h.exists_cons
  -- What follows an `r` is part of the name, and so no mark of a raw name or a raw string.
  have hsecond : ∀ d u, c = 'r' → t ++ rest = d :: u → isNameChar d = true := by
    rintro d u rfl heq
    cases t with
    | nil => exact absurd rfl h.2.2
    | cons e t =>
      cases heq
      exact hchars d (by simp)
  rw [List.cons_append] at htake hdrop ⊢
  unfold name?
  split
  · next u heq =>
    obtain ⟨hr, heq⟩ := List.cons.inj heq
    exact absurd (hsecond '#' u hr heq) (by decide)
  · next heq =>
    obtain ⟨hr, heq⟩ := List.cons.inj heq
    exact absurd (by rw [hr, (List.append_eq_nil_iff.1 heq).1]) h.2.2
  · next u heq =>
    obtain ⟨hr, heq⟩ := List.cons.inj heq
    exact absurd (hsecond '"' u hr heq) (by decide)
  · next heq =>
    cases heq
    rw [if_pos hc, htake, hdrop]
  · next heq => cases heq

/-- A name does not begin with a character that no name begins with. -/
theorem name?_eq_none {c : Char} (hc : isNameStart c = false) (t : Text) :
    name? (c :: t) = none := by
  have hr : c ≠ 'r' := by
    rintro rfl
    cases hc
  unfold name?
  split
  · next heq => exact absurd (List.cons.inj heq).1 hr
  · next heq => exact absurd (List.cons.inj heq).1 hr
  · next heq => exact absurd (List.cons.inj heq).1 hr
  · next heq =>
    cases heq
    rw [if_neg (by simp [hc])]
  · rfl

theorem afterStart?_of_ne {s c : Char} (h : s ≠ c) (start t : Text) :
    Text.afterStart? (s :: start) (c :: t) = none := by
  rw [Text.afterStart?, if_neg h]

/-- Of the words that end where a name ends, there is only the name itself. -/
theorem afterWord?_of_ne {word name : Text} (hword : ∀ c ∈ word, isNameChar c = true)
    (hname : ∀ c ∈ name, isNameChar c = true) (hne : word ≠ name)
    (hrest : Stops isNameChar rest) : afterWord? word (name ++ rest) = none := by
  refine Option.filter_eq_none_iff.2 fun u hu => ?_
  intro hends
  have hsplit := Text.afterStart?_eq_some_iff.1 hu
  have hstops : Stops isNameChar u := by
    intro c hc
    simpa [Option.mem_def.1 hc] using hends
  have hrun := (Text.takeWhile_append_stops hname hrest).1
  rw [hsplit, (Text.takeWhile_append_stops hword hstops).1] at hrun
  exact hne hrun

/-! ### Numbers -/

theorem isWholeChar_of_isDigit {c : Char} (h : c.isDigit = true) : isWholeChar c = true := by
  have hrange := Text.toNat_of_isDigit h
  have hsmall : c.toNat - 48 < 16 := by omega
  simp [isWholeChar, Decimal.digit?, h, hsmall]

theorem isDecimalChar_of_isDigit {c : Char} (h : c.isDigit = true) : isDecimalChar c = true := by
  simp [isDecimalChar, h]

theorem underscore_not_mem_decimal (n : Nat) : '_' ∉ Text.decimal n := by
  intro hmem
  exact absurd ((Text.isDigits_decimal n).2 '_' hmem) (by decide)

/-- The second character behind a number is a digit of it or ends it, so it is no mark of a base. -/
theorem second_of_decimal {n : Nat} (hrest : Closes rest) {c d : Char} {t : Text}
    (h : Text.decimal n ++ rest = c :: d :: t) : d.isDigit = true ∨ d = ',' ∨ d = ')' := by
  obtain ⟨e, u, hdecimal, -, hu⟩ := (Text.isDigits_decimal n).exists_cons
  rw [hdecimal, List.cons_append] at h
  have htail : u ++ rest = d :: t := (List.cons.inj h).2
  cases u with
  | nil =>
    rw [List.nil_append] at htail
    exact .inr (hrest d (by rw [htail]; rfl))
  | cons e' u =>
    cases htail
    exact .inl (hu d List.mem_cons_self)

/-- Digits are a whole number, with no mark of a base. -/
theorem wholeNumber?_decimal (n : Nat) (hrest : Closes rest) :
    wholeNumber? (Text.decimal n ++ rest) = some (n, rest) := by
  have hwhole : Stops isWholeChar rest := hrest.stops (by decide) (by decide)
  obtain ⟨htake, hdrop⟩ := Text.takeWhile_append_stops
    (fun d hd => isWholeChar_of_isDigit ((Text.isDigits_decimal n).2 d hd)) hwhole
  have hhead : (Text.decimal n).head? ≠ some '_' := by
    intro heq
    exact underscore_not_mem_decimal n (List.mem_of_mem_head? heq)
  have hfilter : (Text.decimal n).filter (· ≠ '_') = Text.decimal n := by
    refine List.filter_eq_self.2 fun d hd => decide_eq_true ?_
    rintro rfl
    exact underscore_not_mem_decimal n hd
  have hnumber := Decimal.natOfDigits?_decimal n
  unfold wholeNumber?
  split
  next base digits heq =>
  split at heq
  · next hmark => exact absurd (second_of_decimal hrest hmark) (by decide)
  · next hmark => exact absurd (second_of_decimal hrest hmark) (by decide)
  · next hmark => exact absurd (second_of_decimal hrest hmark) (by decide)
  · obtain ⟨rfl, rfl⟩ := Prod.mk.inj heq
    simp only [htake, hdrop, hfilter, hnumber, if_neg hhead, Option.map_some]

/-- A number of eight bits is read back from its digits. -/
theorem byteOfLexeme?_decimal (b : UInt8) : byteOfLexeme? (Text.decimal b.toNat) = some b := by
  have hwhole := wholeNumber?_decimal b.toNat closes_nil
  rw [List.append_nil] at hwhole
  rw [byteOfLexeme?, hwhole]
  simp [b.toNat_lt]

/-- **Digits that fit into 64 bits are taken off as a number.** -/
theorem number?_decimal {n : Nat} (h : n < UInt64.size) (hrest : Closes rest) :
    number? (Text.decimal n ++ rest) = some (Text.decimal n, rest) := by
  have hdigits := Text.isDigits_decimal n
  have hsign : Decimal.sign (Text.decimal n ++ rest) = (false, Text.decimal n ++ rest) :=
    Decimal.sign_signed hdigits false rest
  have hwhole := (Text.takeWhile_append_stops
    (fun d hd => isWholeChar_of_isDigit (hdigits.2 d hd))
    (hrest.stops (p := isWholeChar) (by decide) (by decide))).1
  have hdecimal := (Text.takeWhile_append_stops
    (fun d hd => isDecimalChar_of_isDigit (hdigits.2 d hd))
    (hrest.stops (p := isDecimalChar) (by decide) (by decide))).1
  have hlexeme : wholeLexeme? (Text.decimal n ++ rest) = some (Text.decimal n, rest) := by
    simp [wholeLexeme?, hsign, wholeNumber?_decimal n hrest, h]
  simp only [number?, hsign, hwhole, hdecimal, Nat.lt_irrefl, if_false, hlexeme]

/-- A number that begins with a digit, behind its sign, is no name of infinity or `NaN`. -/
theorem afterWord?_signed {word whole : Text}
    (hword : word ∈ (["inf", "+inf", "-inf", "NaN", "+NaN", "-NaN"] : List Text))
    (hwhole : IsDigits whole) (negative : Bool) (t : Text) :
    afterWord? word (Binary32.signed negative (whole ++ t)) = none := by
  obtain ⟨c, u, rfl, hc, -⟩ := hwhole.exists_cons
  rw [afterWord?, Option.filter_eq_none_iff]
  intro v hv
  have hsplit := Text.afterStart?_eq_some_iff.1 hv
  simp only [List.mem_cons, List.not_mem_nil, or_false] at hword
  rcases hword with rfl | rfl | rfl | rfl | rfl | rfl <;> cases negative <;>
    simp [Binary32.signed] at hsplit <;>
    exact absurd hc (by simp [hsplit.1])

theorem signed_append (negative : Bool) (t u : Text) :
    Binary32.signed negative t ++ u = Binary32.signed negative (t ++ u) := by
  cases negative <;> rfl

/-- Digits with a point are characters of numerals, behind a sign as well. -/
theorem isDecimalChar_of_mem_point {whole places : Text} (hw : IsDigits whole)
    (hp : IsDigits places) (negative : Bool) {c : Char}
    (hc : c ∈ Binary32.signed negative (whole ++ '.' :: places)) : isDecimalChar c = true := by
  have hpoint : ∀ c ∈ whole ++ '.' :: places, isDecimalChar c = true := by
    intro c hc
    simp only [List.mem_append, List.mem_cons] at hc
    rcases hc with hc | rfl | hc
    · exact isDecimalChar_of_isDigit (hw.2 c hc)
    · decide
    · exact isDecimalChar_of_isDigit (hp.2 c hc)
  cases negative with
  | false => exact hpoint c hc
  | true =>
    rcases List.mem_cons.1 hc with rfl | hc
    · decide
    · exact hpoint c hc

/-- Digits with a point are taken off as a decimal numeral. -/
theorem decimalLexeme?_point {whole places : Text} (hw : IsDigits whole) (hp : IsDigits places)
    (negative : Bool) (hrest : Closes rest) :
    decimalLexeme? (Binary32.signed negative (whole ++ '.' :: places) ++ rest) =
      some (Binary32.signed negative (whole ++ '.' :: places), rest) := by
  have hnames : ∀ name ∈ (["inf", "+inf", "-inf", "NaN", "+NaN", "-NaN"] : List Text),
      (afterWord? name (Binary32.signed negative (whole ++ '.' :: places) ++ rest)).map
        (name, ·) = none := by
    intro name hname
    rw [signed_append, List.append_assoc, afterWord?_signed hname hw]
    rfl
  obtain ⟨hlexeme, hbehind⟩ := Text.takeWhile_append_stops
    (fun c hc => isDecimalChar_of_mem_point hw hp negative hc)
    (hrest.stops (p := isDecimalChar) (by decide) (by decide))
  obtain ⟨d, hd⟩ := Decimal.exists_ofText?_point hw hp negative
  rw [decimalLexeme?, List.findSome?_eq_none_iff.2 hnames]
  simp only [hlexeme, hbehind, hd, Option.isSome_some, if_true]

/-- **Digits with a point are taken off as a number.** -/
theorem number?_point {whole places : Text} (hw : IsDigits whole) (hp : IsDigits places)
    (negative : Bool) (hrest : Closes rest) :
    number? (Binary32.signed negative (whole ++ '.' :: places) ++ rest) =
      some (Binary32.signed negative (whole ++ '.' :: places), rest) := by
  have hsign : Decimal.sign (Binary32.signed negative (whole ++ '.' :: places) ++ rest) =
      (negative, whole ++ '.' :: places ++ rest) := by
    rw [signed_append, List.append_assoc, Decimal.sign_signed hw]
  -- A whole number would end at the point, a numeral goes on.
  have hpoint : Stops isWholeChar ('.' :: places ++ rest) := by
    rintro c ⟨⟩
    decide
  have hshort : (whole ++ '.' :: places ++ rest).takeWhile isWholeChar = whole := by
    rw [List.append_assoc]
    exact (Text.takeWhile_append_stops (fun c hc => isWholeChar_of_isDigit (hw.2 c hc)) hpoint).1
  have hlong : (whole ++ '.' :: places ++ rest).takeWhile isDecimalChar = whole ++ '.' :: places :=
    (Text.takeWhile_append_stops (fun c hc => isDecimalChar_of_mem_point hw hp false hc)
      (hrest.stops (p := isDecimalChar) (by decide) (by decide))).1
  have hlength : whole.length < (whole ++ '.' :: places).length := by simp
  rw [number?, hsign]
  simp only [hshort, hlong]
  rw [if_pos hlength, decimalLexeme?_point hw hp negative hrest]

/-! ### Quoted text -/

theorem mem_toDigits {base n : Nat} (h : 1 < base) {c : Char} (hc : c ∈ Nat.toDigits base n) :
    ∃ d < base, c = d.digitChar := by
  induction n using Nat.strongRecOn with
  | ind n ih =>
    rw [Nat.toDigits_eq_if h] at hc
    split at hc
    · next hsmall => exact ⟨n, hsmall, List.mem_singleton.1 hc⟩
    · next hlarge =>
      rcases List.mem_append.1 hc with hc | hc
      · exact ih (n / base) (Nat.div_lt_self (by omega) h) hc
      · exact ⟨n % base, Nat.mod_lt n (by omega), List.mem_singleton.1 hc⟩

theorem charOfNat?_toNat (c : Char) : charOfNat? c.toNat = some c := by
  have hvalid : c.toNat.isValidChar := c.valid
  rw [charOfNat?, if_pos hvalid, Char.ofNat_toNat]

/-- The number of a character in braces is read as the character. -/
theorem codePointEscape?_hexadecimal (c : Char) (t : Text) :
    codePointEscape? ('{' :: Text.hexadecimal c.toNat ++ '}' :: t) = some (c, t) := by
  have hbraces : ∀ d < 16, Nat.digitChar d ≠ '}' := by decide
  have hdigits : ∀ d ∈ Text.hexadecimal c.toNat, decide (d ≠ '}') = true := by
    intro d hd
    obtain ⟨k, hk, rfl⟩ := mem_toDigits (by decide) hd
    exact decide_eq_true (hbraces k hk)
  have hend : Stops (fun d => decide (d ≠ '}')) ('}' :: t) := by simp [Stops]
  obtain ⟨htake, hdrop⟩ := Text.takeWhile_append_stops hdigits hend
  -- The last code point is `10FFFF`, so six digits are always enough.
  have hlength : (Text.hexadecimal c.toNat).length ≤ 6 := by
    have hsmall : c.toNat < 16 ^ 6 := by
      have hvalid : c.toNat < 0xD800 ∨ 0xDFFF < c.toNat ∧ c.toNat < 0x110000 := c.valid
      omega
    exact (Nat.length_toDigits_le_iff (by decide) (by decide)).2 hsmall
  have hnumber : Decimal.natOfDigits? 16 (Text.hexadecimal c.toNat) = some c.toNat :=
    Decimal.natOfDigits?_toDigits (by decide) (by decide) c.toNat
  simp only [codePointEscape?, List.cons_append, htake, hdrop, hnumber, if_pos hlength,
    Option.bind_some, charOfNat?_toNat, Option.map_some]

/-- **The written form of a character is read as the character**, and the text goes on behind it. -/
theorem quoted?_escapeChar (c : Char) (t : Text) :
    quoted? (Text.escapeChar true c ++ t) = (quoted? t).map fun (s, rest) => (c :: s, rest) := by
  -- All escapes are read alike, from behind the backslash on; only the text of each differs.
  have hescape : ∀ {u : Text}, escape? (u ++ t) = some (c, t) →
      quoted? ('\\' :: (u ++ t)) = (quoted? t).map fun (s, rest) => (c :: s, rest) := by
    intro u hu
    rw [quoted?, if_neg (by decide), if_pos rfl]
    split
    · next heq =>
      rw [hu] at heq
      cases heq
      rfl
    · next heq =>
      rw [hu] at heq
      cases heq
  unfold Text.escapeChar
  split
  · next hc => exact hescape (u := ['0']) (by rw [hc]; rfl)
  split
  · next hc => exact hescape (u := ['t']) (by rw [hc]; rfl)
  split
  · next hc => exact hescape (u := ['r']) (by rw [hc]; rfl)
  split
  · next hc => exact hescape (u := ['n']) (by rw [hc]; rfl)
  split
  · next hc =>
    refine hescape (u := [c]) ?_
    rcases hc with rfl | rfl | ⟨rfl, -⟩ <;> rfl
  next hplain =>
  split
  · rw [not_or, not_or] at hplain
    rw [List.singleton_append, quoted?, if_neg hplain.2.1, if_neg hplain.1]
  · refine hescape (u := 'u' :: '{' :: Text.hexadecimal c.toNat ++ ['}']) ?_
    have hcode := codePointEscape?_hexadecimal c t
    rw [List.append_assoc]
    exact hcode

/-- **Quoted text is read back**, up to its closing quote. -/
theorem quoted?_escapes (s rest : Text) :
    quoted? (s.flatMap (Text.escapeChar true) ++ '"' :: rest) = some (s, rest) := by
  induction s with
  | nil =>
    show quoted? ('"' :: rest) = some ([], rest)
    rw [quoted?, if_pos rfl]
  | cons c s ih =>
    rw [List.flatMap_cons, List.append_assoc, quoted?_escapeChar, ih]
    rfl

end Cardwright.Record
