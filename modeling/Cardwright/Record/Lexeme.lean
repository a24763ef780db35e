import Cardwright.Number.Decimal

/-!
# Record notation: lexemes

The smallest parts of the notation: blanks and comments, names, numbers, and quoted text. Everything
here takes its part off the front of a text and leaves the rest; `none` says that the text is not
well-formed, or does not begin with the part asked for.

Main statements: `length_skipBlanks_le` and `length_lt_of_escape?` (what is left is no longer, or
shorter, than what was read).
-/

namespace Cardwright.Record

/-- A reader takes a value off the front of a text. -/
abbrev Reader (α : Type) := Text → Option (α × Text)

/-! ### Blanks and comments -/

/-- The blanks of the notation. -/
def isSpace (c : Char) : Bool := c == ' ' || c == '\n' || c == '\t' || c == '\r'

/-- Skip to the end of a comment that is nested `level` deep. -/
def skipComment : (level : Nat) → Text → Option Text
  | 0, t => some t
  | _ + 1, [] => none
  | n + 1, '/' :: '*' :: t => skipComment (n + 2) t
  | n + 1, '*' :: '/' :: t => skipComment n t
  | n + 1, _ :: t => skipComment (n + 1) t

theorem length_skipComment_le {level : Nat} {t rest : Text} (h : skipComment level t = some rest) :
    rest.length ≤ t.length := by
  fun_induction skipComment level t with
  | case1 t => exact Nat.le_of_eq (congrArg List.length (Option.some.inj h)).symm
  | case2 => cases h
  | case3 n t ih | case4 n t ih | case5 n _ t _ _ ih =>
    exact Nat.le_trans (ih h) (by simp only [List.length_cons]; omega)

/-- Skip blanks and comments. A line comment ends before its line break; block comments nest, and
one that is not closed makes the text ill-formed, as does a slash that begins no comment. -/
def skipBlanks : Text → Option Text
  | [] => some []
  | c :: t =>
    if isSpace c then skipBlanks t
    else if c = '/' then
      match t with
      | '/' :: line => skipBlanks (line.dropWhile (· ≠ '\n'))
      | '*' :: block =>
        match _h : skipComment 1 block with
        | some rest => skipBlanks rest
        | none => none
      | _ => none
    else some (c :: t)
termination_by t => t.length
decreasing_by
  · simp
  · have := List.Sublist.length_le (List.dropWhile_sublist (l := line) (· ≠ '\n'))
    simp only [List.length_cons]
    omega
  · have := length_skipComment_le _h
    simp only [List.length_cons]
    omega

/-- Skipping leaves no more than there was. -/
theorem length_skipBlanks_le {t rest : Text} (h : skipBlanks t = some rest) :
    rest.length ≤ t.length := by
  fun_induction skipBlanks t with
  | case1 => cases h; exact Nat.le_refl _
  | case2 c t _ ih => exact Nat.le_trans (ih h) (by simp)
  | case3 line _ ih =>
    have := List.Sublist.length_le (List.dropWhile_sublist (l := line) (· ≠ '\n'))
    exact Nat.le_trans (ih h) (by simp only [List.length_cons]; omega)
  | case4 block rest' hc _ ih =>
    have := length_skipComment_le hc
    exact Nat.le_trans (ih h) (by simp only [List.length_cons]; omega)
  | case5 => cases h
  | case6 => cases h
  | case7 => cases h; exact Nat.le_refl _

/-! ### Names -/

/-- The characters that a name can begin with. -/
def isNameStart (c : Char) : Bool := c.isAlpha || c == '_'

/-- The characters that a name can go on with. -/
def isNameChar (c : Char) : Bool := c.isAlphanum || c == '_'

/-- The characters that a raw name can consist of. -/
def isRawNameChar (c : Char) : Bool := isNameChar c || c == '.' || c == '+' || c == '-'

/-- Take off a name. A raw name is marked by `r#`; the start of a raw string is not a name, and
neither is an `r` at the very end. -/
def name? : Reader Text
  | 'r' :: '#' :: t =>
    match t with
    | c :: _ =>
      if isRawNameChar c then some (t.takeWhile isRawNameChar, t.dropWhile isRawNameChar) else none
    | [] => none
  | ['r'] => none
  | 'r' :: '"' :: _ => none
  | c :: t =>
    if isNameStart c then some ((c :: t).takeWhile isNameChar, (c :: t).dropWhile isNameChar)
    else none
  | [] => none

/-- The text behind a given word, if the word is there and ends there. -/
def afterWord? (word t : Text) : Option Text :=
  (Text.afterStart? word t).filter fun rest => !(rest.head?.any isNameChar)

/-! ### Numbers -/

/-- The characters of whole numbers in any base. -/
def isWholeChar (c : Char) : Bool := (Decimal.digit? 16 c).isSome || c == '_'

/-- The characters of decimal numerals. -/
def isDecimalChar (c : Char) : Bool :=
  c.isDigit || c == 'e' || c == 'E' || c == '.' || c == '+' || c == '-' || c == '_'

/-- Take off a whole number without sign: decimal, or in base 16, 2 or 8 behind `0x`, `0b` or `0o`.
Underscores may stand between the digits. -/
def wholeNumber? (t : Text) : Option (Nat × Text) :=
  let (base, digits) := match t with
    | '0' :: 'x' :: t => (16, t)
    | '0' :: 'b' :: t => (2, t)
    | '0' :: 'o' :: t => (8, t)
    | t => (10, t)
  let lexeme := digits.takeWhile isWholeChar
  if lexeme.head? = some '_' then none
  else (Decimal.natOfDigits? base (lexeme.filter (· ≠ '_'))).map (·, digits.dropWhile isWholeChar)

/-- Take off the lexeme of a whole number with an optional sign, if it fits into 64 bits. -/
def wholeLexeme? (t : Text) : Option (Text × Text) := do
  let (negative, digits) := Decimal.sign t
  let (n, rest) ← wholeNumber? digits
  let half := UInt64.size / 2
  let limit :=
    if digits.length = t.length then UInt64.size else if negative then half + 1 else half
  if n < limit then pure (t.take (t.length - rest.length), rest) else none

/-- Take off the lexeme of a decimal numeral, or a name of infinity or `NaN`. -/
def decimalLexeme? (t : Text) : Option (Text × Text) :=
  let names : List Text := ["inf", "+inf", "-inf", "NaN", "+NaN", "-NaN"]
  match names.findSome? fun name => (afterWord? name t).map (name, ·) with
  | some found => some found
  | none =>
    let lexeme := t.takeWhile isDecimalChar
    if (Decimal.ofText? lexeme).isSome then some (lexeme, t.dropWhile isDecimalChar) else none

/-- Take off the lexeme of a number. What goes on longer as a decimal numeral is read as one, and so
is what turns out to be no whole number. -/
def number? (t : Text) : Option (Text × Text) :=
  let (_, digits) := Decimal.sign t
  if (digits.takeWhile isWholeChar).length < (digits.takeWhile isDecimalChar).length then
    decimalLexeme? t
  else
    match wholeLexeme? t with
    | some found => some found
    | none => decimalLexeme? t

/-- Read a lexeme as an unsigned number of eight bits. -/
def byteOfLexeme? (lexeme : Text) : Option UInt8 :=
  match wholeNumber? lexeme with
  | some (n, []) => if n < 256 then some (UInt8.ofNat n) else none
  | _ => none

/-! ### Quoted text -/

/-- The character with a code point, if there is one. -/
def charOfNat? (n : Nat) : Option Char := if n.isValidChar then some (Char.ofNat n) else none

/-- The character that a one-letter escape stands for. -/
def shortEscape? (c : Char) : Option Char :=
  [('\x27', '\x27'), ('"', '"'), ('\\', '\\'), ('n', '\n'), ('r', '\r'), ('t', '\t'),
    ('0', '\x00')].lookup c

/-- Take off a character given by two hexadecimal digits. -/
def byteEscape? : Reader Char
  | high :: low :: rest => (Decimal.natOfDigits? 16 [high, low]).map fun n => (Char.ofNat n, rest)
  | _ => none

/-- Take off a character given by up to six hexadecimal digits in braces. -/
def codePointEscape? : Reader Char
  | '{' :: t =>
    let digits := t.takeWhile (· ≠ '}')
    match t.dropWhile (· ≠ '}') with
    | _ :: rest =>
      if digits.length ≤ 6 then
        ((Decimal.natOfDigits? 16 digits).bind charOfNat?).map fun c => (c, rest)
      else none
    | [] => none
  | _ => none

/-- Take off an escaped character, from behind its backslash. -/
def escape? : Reader Char
  | [] => none
  | c :: t =>
    match shortEscape? c with
    | some d => some (d, t)
    | none => if c = 'x' then byteEscape? t else if c = 'u' then codePointEscape? t else none

theorem length_le_of_byteEscape? {t rest : Text} {c : Char} (h : byteEscape? t = some (c, rest)) :
    rest.length ≤ t.length := by
  unfold byteEscape? at h
  split at h
  · obtain ⟨_, _, e⟩ := Option.map_eq_some_iff.1 h
    cases e
    simp only [List.length_cons]
    omega
  · cases h

theorem length_le_of_codePointEscape? {t rest : Text} {c : Char}
    (h : codePointEscape? t = some (c, rest)) : rest.length ≤ t.length := by
  unfold codePointEscape? at h
  split at h
  · next t' =>
    have shorter := List.Sublist.length_le (List.dropWhile_sublist (l := t') (· ≠ '}'))
    split at h
    · next hd =>
      dsimp only at h
      split at h
      · obtain ⟨_, _, e⟩ := Option.map_eq_some_iff.1 h
        cases e
        rw [hd] at shorter
        simp only [List.length_cons] at *
        omega
      · cases h
    · cases h
  · cases h

/-- An escaped character takes at least one character up. -/
theorem length_lt_of_escape? {t rest : Text} {c : Char} (h : escape? t = some (c, rest)) :
    rest.length < t.length := by
  cases t with
  | nil => cases h
  | cons a t =>
    rw [List.length_cons, Nat.lt_succ_iff]
    unfold escape? at h
    split at h
    · next hnil => cases hnil
    · next hcons =>
      cases hcons
      split at h
      · cases h
        exact Nat.le_refl _
      · split at h
        · exact length_le_of_byteEscape? h
        · split at h
          · exact length_le_of_codePointEscape? h
          · cases h

/-- Take off quoted text, from behind its opening quote. -/
def quoted? : Reader Text
  | [] => none
  | c :: t =>
    if c = '"' then some ([], t)
    else if c = '\\' then
      match _h : escape? t with
      | some (c, rest) => (quoted? rest).map fun (s, rest) => (c :: s, rest)
      | none => none
    else (quoted? t).map fun (s, rest) => (c :: s, rest)
termination_by t => t.length
decreasing_by
  · have := length_lt_of_escape? _h
    simp only [List.length_cons]
    omega
  · simp

/-- Take off raw text, up to the closing delimiter. -/
def rawUpTo? (delimiter : Text) : Reader Text
  | [] => none
  | c :: t =>
    match Text.afterStart? delimiter (c :: t) with
    | some rest => some ([], rest)
    | none => (rawUpTo? delimiter t).map fun (s, rest) => (c :: s, rest)

/-- Take off a string: quoted, or raw as in `r"…"` and `r#"…"#`. -/
def string? : Reader Text
  | '"' :: t => quoted? t
  | 'r' :: t =>
    let hashes := t.takeWhile (· == '#')
    match t.dropWhile (· == '#') with
    | '"' :: t => rawUpTo? ('"' :: hashes) t
    | _ => none
  | _ => none

/-- Take off a character between apostrophes. -/
def character? : Reader Char
  | '\x27' :: '\\' :: t =>
    match escape? t with
    | some (c, '\x27' :: rest) => some (c, rest)
    | _ => none
  | '\x27' :: c :: '\x27' :: rest => if c = '\x27' then none else some (c, rest)
  | _ => none

end Cardwright.Record
