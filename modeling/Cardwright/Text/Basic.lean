/-!
# Text

Every rule of this library reads text from the left, one character at a time, so text is the list of
its characters. This module holds the type, the searches that the rules are built on (what follows a
given start, whether one text occurs in another, and the replacement of every occurrence),
alphabetical order, and the decimal text of numbers.

Main statements: `afterStart?_eq_some_iff` (the remainder is what is left of an append) and
`occurs_iff` (the search finds exactly the infixes).
-/

namespace Cardwright

/-- A text, character by character. -/
abbrev Text := List Char

instance : Coe String Text := ⟨String.toList⟩

namespace Text

/-! ### Searching -/

/-- What follows `start` at the front of a text, if the text begins with it. -/
def afterStart? : Text → Text → Option Text
  | [], t => some t
  | s :: start, c :: t => if s = c then afterStart? start t else none
  | _ :: _, [] => none

/-- The remainder is exactly what completes `start` to the whole text. -/
theorem afterStart?_eq_some_iff {start t rest : Text} :
    afterStart? start t = some rest ↔ t = start ++ rest := by
  induction start generalizing t with
  | nil => simp [afterStart?, eq_comm]
  | cons s start ih =>
    cases t with
    | nil => simp [afterStart?]
    | cons c t =>
      by_cases h : s = c
      · simp [afterStart?, h, ih]
      · simp [afterStart?, h, Ne.symm h]

/-- Whether `needle` occurs somewhere in a text, as consecutive characters. -/
def occurs (needle : Text) : Text → Bool
  | [] => (afterStart? needle []).isSome
  | c :: t => (afterStart? needle (c :: t)).isSome || occurs needle t

/-- The search finds exactly the infixes. -/
theorem occurs_iff {needle t : Text} : occurs needle t = true ↔ needle <:+: t := by
  have front : ∀ u : Text, (afterStart? needle u).isSome = true ↔ needle <+: u := fun u => by
    simp only [Option.isSome_iff_exists, afterStart?_eq_some_iff]
    exact ⟨fun ⟨r, h⟩ => ⟨r, h.symm⟩, fun ⟨r, h⟩ => ⟨r, h.symm⟩⟩
  induction t with
  | nil =>
    rw [occurs, front]
    exact ⟨List.IsPrefix.isInfix, fun h => by simp_all⟩
  | cons c t ih => simp only [occurs, Bool.or_eq_true, front, ih, List.infix_cons_iff]

/-- Replace the occurrences of `needle` by `value`, from left to right, each search going on behind
the occurrence before it. An empty needle occurs nowhere. -/
def replaceAll (needle value : Text) : Text → Text
  | [] => []
  | c :: t =>
    match afterStart? needle (c :: t) with
    | some rest =>
      if rest.length ≤ t.length then value ++ replaceAll needle value rest
      else c :: replaceAll needle value t
    | none => c :: replaceAll needle value t
termination_by t => t.length
decreasing_by
  · simp only [List.length_cons]
    omega
  · simp
  · simp

/-! ### Order -/

/-- Whether two texts are in alphabetical order, character by character. -/
def inOrder : Text → Text → Bool
  | [], _ => true
  | _ :: _, [] => false
  | c :: s, d :: t => c.toNat < d.toNat || (c == d && inOrder s t)

/-! ### Numbers -/

/-- The decimal digits of a number. -/
def decimal (n : Nat) : Text := Nat.toDigits 10 n

/-- The decimal text of a whole number, with a minus sign if it is negative. -/
def signedDecimal : Int → Text
  | .ofNat n => decimal n
  | .negSucc n => '-' :: decimal (n + 1)

/-- Put blanks on the left up to a width. -/
def padLeft (width : Nat) (t : Text) : Text := List.replicate (width - t.length) ' ' ++ t

/-- Put blanks on the right up to a width. -/
def padRight (width : Nat) (t : Text) : Text := t ++ List.replicate (width - t.length) ' '

end Text

end Cardwright
