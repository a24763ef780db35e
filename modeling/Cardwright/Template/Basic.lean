import Cardwright.Text.Basic

/-!
# Templates

A template is a sentence with slots. Its text marks a slot by one of five tokens, `{Tag}`,
`{Times}`, `{Value}`, `{Duration}` and `{Percent}`; every other brace is part of the sentence.

`parse` reads the text into segments and `render` writes them back. All the functions that build
templates put segments together with `cons`, so that the literals of a result are nonempty and no
two of them are adjacent.

Main statements: `token?_eq_some_iff` (a token is read where it stands, and nowhere else),
`render_cons` and `render_parse` (reading loses nothing).
-/

namespace Cardwright

/-! ### Placeholders -/

/-- What can stand in a slot. -/
inductive Placeholder
  | tag
  | times
  | value
  | duration
  | percent
deriving DecidableEq, Repr

namespace Placeholder

/-- The order in which slots are filled. -/
def all : List Placeholder := [tag, times, value, duration, percent]

/-- The place in the order of filling. -/
def rank : Placeholder → Nat
  | tag => 0
  | times => 1
  | value => 2
  | duration => 3
  | percent => 4

/-- The name between the braces. -/
def name : Placeholder → Text
  | tag => "Tag"
  | times => "Times"
  | value => "Value"
  | duration => "Duration"
  | percent => "Percent"

/-- The placeholder with a name, which is compared exactly. -/
def ofName? (name : Text) : Option Placeholder := all.find? (·.name == name)

/-- The token of a placeholder in the text of a template. -/
def token (p : Placeholder) : Text := '{' :: p.name ++ ['}']

/-- The placeholder whose token begins a text, and the text behind it. -/
def token? (t : Text) : Option (Placeholder × Text) :=
  all.findSome? fun p => (Text.afterStart? p.token t).map (p, ·)

theorem mem_all (p : Placeholder) : p ∈ all := by cases p <;> decide

theorem token_ne_nil (p : Placeholder) : p.token ≠ [] := by simp [token]

/-- A token that is read stands at the front of the text. -/
theorem eq_of_token? {t rest : Text} {p : Placeholder} (h : token? t = some (p, rest)) :
    t = p.token ++ rest := by
  obtain ⟨q, _, hq⟩ := List.exists_of_findSome?_eq_some h
  obtain ⟨r, hr, he⟩ := Option.map_eq_some_iff.1 hq
  cases he
  exact Text.afterStart?_eq_some_iff.1 hr

/-- The tokens, character by character. -/
theorem token_chars :
    tag.token = ['{', 'T', 'a', 'g', '}'] ∧ times.token = ['{', 'T', 'i', 'm', 'e', 's', '}'] ∧
      value.token = ['{', 'V', 'a', 'l', 'u', 'e', '}'] ∧
      duration.token = ['{', 'D', 'u', 'r', 'a', 't', 'i', 'o', 'n', '}'] ∧
      percent.token = ['{', 'P', 'e', 'r', 'c', 'e', 'n', 't', '}'] := by
  decide

/-- No token is the beginning of another one. -/
theorem afterStart?_token (p q : Placeholder) (rest : Text) :
    Text.afterStart? q.token (p.token ++ rest) = if q = p then some rest else none := by
  obtain ⟨h₁, h₂, h₃, h₄, h₅⟩ := token_chars
  cases p <;> cases q <;> simp [h₁, h₂, h₃, h₄, h₅, Text.afterStart?]

/-- A token is read where it stands, and nowhere else. -/
theorem token?_eq_some_iff {t rest : Text} {p : Placeholder} :
    token? t = some (p, rest) ↔ t = p.token ++ rest := by
  refine ⟨eq_of_token?, fun h => ?_⟩
  subst h
  simp only [token?, afterStart?_token]
  cases p <;> rfl

end Placeholder

/-! ### Segments -/

/-- A piece of a template. -/
inductive Segment
  | literal (text : Text)
  | slot (placeholder : Placeholder)
deriving DecidableEq, Repr

/-- The text of a segment; an open slot is written as its token. -/
def Segment.render : Segment → Text
  | literal text => text
  | slot p => p.token

/-- A sentence with slots. -/
abbrev Template := List Segment

namespace Template

/-- The text of a template. -/
def render (t : Template) : Text := t.flatMap Segment.render

/-- The open slots in order. -/
def placeholders (t : Template) : List Placeholder :=
  t.filterMap fun
    | .slot p => some p
    | .literal _ => none

/-- Whether no slot is open. -/
def isResolved (t : Template) : Bool := (placeholders t).isEmpty

/-- Put literal text in front, joining it to a literal that follows. -/
def consLiteral (text : Text) : Template → Template
  | .literal next :: t => .literal (text ++ next) :: t
  | t => if text.isEmpty then t else .literal text :: t

/-- Put a segment in front. -/
def cons : Segment → Template → Template
  | .literal text, t => consLiteral text t
  | .slot p, t => .slot p :: t

/-- Put a whole template in front. -/
def splice (front back : Template) : Template := front.foldr cons back

/-- Read the text of a template. Only an exact token opens a slot. -/
def parse : Text → Template
  | [] => []
  | c :: t =>
    match _h : Placeholder.token? (c :: t) with
    | some (p, rest) => .slot p :: parse rest
    | none => consLiteral [c] (parse t)
termination_by t => t.length
decreasing_by
  · have := congrArg List.length (Placeholder.eq_of_token? _h)
    simp [Placeholder.token] at this
    simp only [List.length_cons]
    omega
  · simp

/-! ### Rendering what was built -/

theorem render_consLiteral (text : Text) (t : Template) :
    render (consLiteral text t) = text ++ render t := by
  unfold consLiteral
  split
  · simp [render, Segment.render]
  · by_cases h : text = [] <;> simp [h, render, Segment.render]

/-- Putting a segment in front puts its text in front. -/
@[simp] theorem render_cons (s : Segment) (t : Template) :
    render (cons s t) = s.render ++ render t := by
  cases s
  · simp [cons, render_consLiteral, Segment.render]
  · simp [cons, render]

/-- Splicing joins the texts. -/
@[simp] theorem render_splice (front back : Template) :
    render (splice front back) = render front ++ render back := by
  induction front with
  | nil => simp [splice, render]
  | cons s front ih =>
    have : splice (s :: front) back = cons s (splice front back) := rfl
    rw [this, render_cons, ih, ← List.append_assoc]
    simp [render]

/-- Reading loses nothing: writing the segments gives the text back. -/
theorem render_parse (t : Text) : render (parse t) = t := by
  fun_induction parse t with
  | case1 => rfl
  | case2 c t p rest h ih =>
    rw [Placeholder.eq_of_token? h]
    exact congrArg (p.token ++ ·) ih
  | case3 c t h ih => rw [render_consLiteral, ih]; rfl

end Template

end Cardwright
