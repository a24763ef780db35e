import Cardwright.Text.Basic

/-!
# Markup

Text may carry markup, `<` up to the next `>`. Splitting separates the tags from the plain text
between them, which is all that keywords are looked for in. A `<` that is never closed is plain
text.

Main statements: `tag?_eq_some_iff` (what a tag is) and `render_split` (splitting loses nothing).
-/

namespace Cardwright

/-- A piece of text with markup. -/
inductive MarkupSegment
  | plain (text : Text)
  /-- A whole tag, its brackets included. -/
  | tag (text : Text)
deriving DecidableEq, Repr

/-- The text of a segment. -/
def MarkupSegment.render : MarkupSegment → Text
  | plain text => text
  | tag text => text

namespace Markup

/-- The inside of a tag and what follows it, from behind its opening bracket. -/
def inside? : Text → Option (Text × Text)
  | [] => none
  | c :: t => if c = '>' then some ([], t) else (inside? t).map fun (a, b) => (c :: a, b)

/-- The tag that begins a text, and the text behind it. -/
def tag? : Text → Option (Text × Text)
  | '<' :: t => (inside? t).map fun (a, b) => ('<' :: a ++ ['>'], b)
  | _ => none

theorem inside?_eq_some_iff {t a b : Text} :
    inside? t = some (a, b) ↔ t = a ++ '>' :: b ∧ '>' ∉ a := by
  induction t generalizing a with
  | nil => simp [inside?]
  | cons c t ih =>
    by_cases h : c = '>'
    · subst h
      simp only [inside?, if_true, Option.some.injEq, Prod.mk.injEq]
      constructor
      · rintro ⟨rfl, rfl⟩
        simp
      · rintro ⟨e, notMem⟩
        cases a with
        | nil => simp_all
        | cons d a => simp_all
    · simp only [inside?, h, if_false, Option.map_eq_some_iff, Prod.exists, Prod.mk.injEq]
      constructor
      · rintro ⟨a', b', hab, rfl, rfl⟩
        obtain ⟨rfl, notMem⟩ := ih.1 hab
        exact ⟨rfl, by simpa [Ne.symm h] using notMem⟩
      · rintro ⟨e, notMem⟩
        cases a with
        | nil => simp_all
        | cons d a =>
          simp only [List.cons_append, List.cons.injEq] at e
          exact ⟨a, b, ih.2 ⟨e.2, fun m => notMem (List.mem_cons_of_mem _ m)⟩, by rw [e.1], rfl⟩

/-- A tag is what lies between `<` and the next `>`. -/
theorem tag?_eq_some_iff {t tag rest : Text} :
    tag? t = some (tag, rest) ↔
      ∃ a, tag = '<' :: a ++ ['>'] ∧ '>' ∉ a ∧ t = tag ++ rest := by
  unfold tag?
  split
  · next t =>
    simp only [Option.map_eq_some_iff, Prod.exists, inside?_eq_some_iff, Prod.mk.injEq]
    constructor
    · rintro ⟨a, b, ⟨rfl, h⟩, rfl, rfl⟩
      exact ⟨a, rfl, h, by simp⟩
    · rintro ⟨a, rfl, h, e⟩
      exact ⟨a, rest, ⟨by simpa using e, h⟩, rfl, rfl⟩
  · next h =>
    simp only [reduceCtorEq, false_iff, not_exists, not_and]
    rintro a rfl _ rfl
    exact h _ rfl

/-- Put a plain character in front, joining it to plain text that follows. -/
def consPlain (c : Char) : List MarkupSegment → List MarkupSegment
  | .plain text :: segments => .plain (c :: text) :: segments
  | segments => .plain [c] :: segments

/-- Split a text into its tags and the plain text between them. -/
def split : Text → List MarkupSegment
  | [] => []
  | c :: t =>
    match _h : tag? (c :: t) with
    | some (tag, rest) => .tag tag :: split rest
    | none => consPlain c (split t)
termination_by t => t.length
decreasing_by
  · obtain ⟨a, rfl, _, e⟩ := tag?_eq_some_iff.1 _h
    have := congrArg List.length e
    simp only [List.length_cons, List.length_append] at this ⊢
    omega
  · simp

/-- The text of the segments in order. -/
def render (segments : List MarkupSegment) : Text := segments.flatMap MarkupSegment.render

theorem render_consPlain (c : Char) (segments : List MarkupSegment) :
    render (consPlain c segments) = c :: render segments := by
  unfold consPlain
  split <;> simp [render, MarkupSegment.render]

/-- Splitting loses nothing: the texts of the segments make up the whole. -/
theorem render_split (t : Text) : render (split t) = t := by
  fun_induction split t with
  | case1 => rfl
  | case2 c t tag rest h ih =>
    obtain ⟨_, _, _, e⟩ := tag?_eq_some_iff.1 h
    rw [e]
    exact congrArg (tag ++ ·) ih
  | case3 c t h ih => rw [render_consPlain, ih]

end Markup

end Cardwright
