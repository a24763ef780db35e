import Cardwright.Text.VisibleTable

/-!
# Quoted text

Text in double quotes, one line long and free of invisible characters: quotes and backslashes are
escaped, the common controls have short names, and a character that cannot be seen on its own is
written by its code point, `\u{301}`. The two written forms of the library differ in one decision,
whether an apostrophe is escaped as well.

Main statement: `escapeChar_of_plain` (a visible character that is no delimiter stands for itself).
-/

namespace Cardwright.Text

/-- Whether a character can stand for itself in quoted text: it shows, and it does not merge with
the character before it. -/
def isVisible (c : Char) : Bool :=
  if c.toNat < 128 then 0x20 ≤ c.toNat && c.toNat ≠ 0x7F
  else
    !CaseTable.within VisibleTable.extending c.toNat
      && !CaseTable.within VisibleTable.hidden c.toNat

/-- The hexadecimal digits of a number, in lower case. -/
def hexadecimal (n : Nat) : Text := Nat.toDigits 16 n

/-- The written form of one character, an apostrophe being escaped if `apostrophe` says so. -/
def escapeChar (apostrophe : Bool) (c : Char) : Text :=
  if c = '\x00' then ['\\', '0']
  else if c = '\t' then ['\\', 't']
  else if c = '\r' then ['\\', 'r']
  else if c = '\n' then ['\\', 'n']
  else if c = '\\' ∨ c = '"' ∨ (c = '\x27' ∧ apostrophe = true) then ['\\', c]
  else if isVisible c then [c]
  else '\\' :: 'u' :: '{' :: hexadecimal c.toNat ++ ['}']

/-- A text between double quotes, every character in its written form. -/
def quote (apostrophe : Bool) (t : Text) : Text := '"' :: t.flatMap (escapeChar apostrophe) ++ ['"']

/-- A visible character that is no delimiter stands for itself. -/
theorem escapeChar_of_plain {c : Char} (apostrophe : Bool) (visible : isVisible c = true)
    (plain : c ≠ '\\' ∧ c ≠ '"' ∧ c ≠ '\x27') : escapeChar apostrophe c = [c] := by
  have control : ∀ d : Char, isVisible d = false → c ≠ d := fun d hd h => by simp [h, hd] at visible
  simp [escapeChar, plain, visible, control '\x00' (by decide), control '\t' (by decide),
    control '\r' (by decide), control '\n' (by decide)]

end Cardwright.Text
