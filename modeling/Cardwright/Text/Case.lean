import Cardwright.Text.CaseTable

/-!
# Letter case

The full Unicode case mappings. One character may become several (`ß` is raised to `SS`), and a
sigma at the end of a word is lowered to its final form.

Main statements: `upper_of_ascii` and `lower_of_ascii` (on ASCII the mappings are the ones of the
core library).
-/

namespace Cardwright.Text

/-- The image of a code point under the first run that holds it, else the code point itself. -/
private def mapRuns (runs : List CaseTable.Run) (n : Nat) : Char :=
  Char.ofNat ((runs.findSome? (·.map? n)).getD n)

/-- The upper case of one character. -/
def upper (c : Char) : Text :=
  if c.toNat < 128 then [c.toUpper]
  else
    match CaseTable.upperSeveral.lookup c.toNat with
    | some several => several.map Char.ofNat
    | none => [mapRuns CaseTable.upperRuns c.toNat]

/-- The lower case of one character, on its own. Only the dotted capital `İ` becomes two. -/
def lower (c : Char) : Text :=
  if c.toNat < 128 then [c.toLower]
  else if c = 'İ' then ['i', '\u0307']
  else [mapRuns CaseTable.lowerRuns c.toNat]

/-- Whether the first character that does not take part in case questions is cased. -/
def casedAhead (t : Text) : Bool :=
  match t.dropWhile (CaseTable.within CaseTable.caseIgnorable ·.toNat) with
  | [] => false
  | c :: _ => CaseTable.within CaseTable.cased c.toNat

/-- Lower a text that stands behind `before`, which is given in reverse. A capital sigma that closes
a word takes the final form. -/
def lowerAfter (before : Text) : Text → Text
  | [] => []
  | c :: t =>
    (if c = 'Σ' then (if casedAhead before && !casedAhead t then ['ς'] else ['σ']) else lower c)
      ++ lowerAfter (c :: before) t

/-- The lower case of a whole text. -/
def lowerAll (t : Text) : Text := lowerAfter [] t

/-- Raise the first character. -/
def capitalize : Text → Text
  | [] => []
  | c :: t => upper c ++ t

/-- Lower the first character. -/
def uncapitalize : Text → Text
  | [] => []
  | c :: t => lower c ++ t

/-- On ASCII, raising a character is the core library's mapping. -/
theorem upper_of_ascii {c : Char} (h : c.toNat < 128) : upper c = [c.toUpper] := by
  simp [upper, h]

/-- On ASCII, lowering a character is the core library's mapping. -/
theorem lower_of_ascii {c : Char} (h : c.toNat < 128) : lower c = [c.toLower] := by
  simp [lower, h]

end Cardwright.Text
