import Cardwright.Text.Basic

/-!
# Blanks and words

A blank is a character with the Unicode property `White_Space`. The words of a text are its longest
runs without a blank, and normalizing a text puts a single space between its words.

Main statements: `words_eq_nil_iff`, `ne_nil_of_mem_words` (a word is nonempty and holds no blank),
and `blank_of_isWhitespace` (the ASCII blanks of the core library are blanks here).
-/

namespace Cardwright.Text

/-- The 25 characters with the Unicode property `White_Space`. -/
def isBlank (c : Char) : Bool :=
  let n := c.toNat
  (9 ≤ n && n ≤ 13) || n == 0x20 || n == 0x85 || n == 0xA0 || n == 0x1680
    || (0x2000 ≤ n && n ≤ 0x200A) || n == 0x2028 || n == 0x2029 || n == 0x202F || n == 0x205F
    || n == 0x3000

/-- The blanks of the core library are among the blanks. -/
theorem blank_of_isWhitespace {c : Char} (h : c.isWhitespace = true) : isBlank c = true := by
  simp only [Char.isWhitespace, Bool.or_eq_true, decide_eq_true_eq] at h
  rcases h with ((rfl | rfl) | rfl) | rfl <;> decide

/-- Drop the blanks at the front. -/
def trimStart (t : Text) : Text := t.dropWhile isBlank

/-- Put a character in front of a list of words: into the first word if it touches it, else as a
word of its own. -/
def attach (c : Char) (touches : Bool) : List Text → List Text
  | [] => [[c]]
  | w :: ws => if touches then (c :: w) :: ws else [c] :: w :: ws

/-- The longest runs of characters that are not blank, in order. -/
def words : Text → List Text
  | [] => []
  | c :: t => if isBlank c then words t else attach c (t.head?.any (!isBlank ·)) (words t)

/-- Collapse each run of blanks to one space and drop the blanks at both ends. -/
def normalize (t : Text) : Text := [' '].intercalate (words t)

/-- A text has no words exactly if it is blank throughout. -/
theorem words_eq_nil_iff {t : Text} : words t = [] ↔ ∀ c ∈ t, isBlank c = true := by
  have attached : ∀ c b ws, attach c b ws ≠ [] := fun c b ws => by
    cases ws <;> cases b <;> simp [attach]
  induction t with
  | nil => simp [words]
  | cons c t ih => by_cases h : isBlank c = true <;> simp [words, h, ih, attached]

/-- A word is nonempty and holds no blank. -/
theorem ne_nil_of_mem_words {t w : Text} (hw : w ∈ words t) :
    w ≠ [] ∧ ∀ c ∈ w, isBlank c = false := by
  induction t generalizing w with
  | nil => simp [words] at hw
  | cons c t ih =>
    by_cases h : isBlank c = true
    · exact ih (by simpa [words, h] using hw)
    · simp only [words, h, Bool.false_eq_true, if_false] at hw
      have hc : isBlank c = false := by simpa using h
      generalize t.head?.any (!isBlank ·) = touches at hw
      generalize hs : words t = ws at hw ih
      cases ws with
      | nil => simp_all [attach]
      | cons v vs =>
        have hv := ih (w := v) (by simp)
        cases touches <;>
          simp only [attach, List.mem_cons, Bool.false_eq_true, if_true, if_false] at hw
        · rcases hw with rfl | hw
          · simp [hc]
          · exact ih (by simpa using hw)
        · rcases hw with rfl | hw
          · exact ⟨by simp, by simpa [hc] using hv.2⟩
          · exact ih (by simp [hw])

end Cardwright.Text
