import Cardwright.Text.Basic

/-!
# ASCII letters

Keywords are compared and classified by ASCII alone: a letter outside ASCII equals only itself and
belongs to no word.

Main statement: `afterStartIgnoringCase?_eq_some_iff`.
-/

namespace Cardwright.Text

/-- Raise the ASCII letters of a text. -/
def upperAscii (t : Text) : Text := t.map Char.toUpper

/-- Lower the ASCII letters of a text. -/
def lowerAscii (t : Text) : Text := t.map Char.toLower

/-- Whether two texts are equal up to the case of ASCII letters. -/
def EqIgnoringCase (s t : Text) : Prop := lowerAscii s = lowerAscii t

instance : DecidableRel EqIgnoringCase := fun s t =>
  inferInstanceAs (Decidable (lowerAscii s = lowerAscii t))

/-- The characters that words consist of for keyword search: ASCII letters, digits, underscore. -/
def isWordChar (c : Char) : Bool := c.isAlphanum || c == '_'

/-- Whether a word ends where this text begins. -/
def atWordEnd : Text → Bool
  | [] => true
  | c :: _ => !isWordChar c

/-- What follows `start` at the front of a text, up to the case of ASCII letters. -/
def afterStartIgnoringCase? : Text → Text → Option Text
  | [], t => some t
  | s :: start, c :: t => if s.toLower = c.toLower then afterStartIgnoringCase? start t else none
  | _ :: _, [] => none

/-- The remainder is what completes some spelling of `start` to the whole text. -/
theorem afterStartIgnoringCase?_eq_some_iff {start t rest : Text} :
    afterStartIgnoringCase? start t = some rest ↔
      ∃ spelling, EqIgnoringCase start spelling ∧ t = spelling ++ rest := by
  induction start generalizing t with
  | nil => simp [afterStartIgnoringCase?, EqIgnoringCase, lowerAscii, eq_comm]
  | cons s start ih =>
    cases t with
    | nil =>
      simp only [afterStartIgnoringCase?, reduceCtorEq, false_iff, not_exists, not_and]
      rintro (_ | _) h <;> simp_all [EqIgnoringCase, lowerAscii]
    | cons c t =>
      simp only [afterStartIgnoringCase?, Option.ite_none_right_eq_some, ih]
      constructor
      · rintro ⟨h, u, hu, rfl⟩
        exact ⟨c :: u, by simp_all [EqIgnoringCase, lowerAscii], rfl⟩
      · rintro ⟨_ | ⟨d, u⟩, hu, e⟩
        · simp [EqIgnoringCase, lowerAscii] at hu
        · simp only [List.cons_append, List.cons.injEq] at e
          simp only [EqIgnoringCase, lowerAscii, List.map_cons, List.cons.injEq] at hu
          exact ⟨e.1 ▸ hu.1, u, hu.2, e.2⟩

/-- The length of a text in UTF-8 bytes. -/
def byteLength (t : Text) : Nat := t.foldr (fun c n => c.utf8Size + n) 0

end Cardwright.Text
