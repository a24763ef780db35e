import Cardwright.Proofs.Template.Passes

/-!
# Where braces stand

In a text that is meant to be filled, every brace belongs to a token (`Text.BracedBy`).  For the
tokens of the five slots that is the same as having no brace in any literal (`bracedBy_iff_parse`),
a property of segments that the passes keep (`hereditary_braceFree`).  A template of such literals
without slots renders to a text without braces (`braceFree_render`).
-/

namespace Cardwright

namespace Text

/-- A text without braces. -/
def BraceFree (t : Text) : Prop := '{' ∉ t ∧ '}' ∉ t

instance : DecidablePred BraceFree := fun t => inferInstanceAs (Decidable ('{' ∉ t ∧ '}' ∉ t))

/-- Every brace of a text belongs to one of the given tokens: the text is made of those tokens and
of characters that are no braces. -/
inductive BracedBy (tokens : List Text) : Text → Prop
  | nil : BracedBy tokens []
  | char {c : Char} {t : Text} : BraceFree [c] → BracedBy tokens t → BracedBy tokens (c :: t)
  | token {k t : Text} : k ∈ tokens → BracedBy tokens t → BracedBy tokens (k ++ t)

variable {tokens : List Text}

theorem braceFree_append {a b : Text} : BraceFree (a ++ b) ↔ BraceFree a ∧ BraceFree b := by
  simp only [BraceFree, List.mem_append, not_or]
  tauto

theorem braceFree_cons {c : Char} {t : Text} : BraceFree (c :: t) ↔ BraceFree [c] ∧ BraceFree t :=
  braceFree_append (a := [c])

theorem BracedBy.append_left {a b : Text} (ha : BraceFree a) (hb : BracedBy tokens b) :
    BracedBy tokens (a ++ b) := by
  induction a with
  | nil => exact hb
  | cons c a ih =>
    obtain ⟨hc, ha⟩ := braceFree_cons.1 ha
    exact .char hc (ih ha)

theorem BraceFree.bracedBy {t : Text} (h : BraceFree t) : BracedBy tokens t := by
  simpa using BracedBy.append_left h .nil

theorem BracedBy.append {a b : Text} (ha : BracedBy tokens a) (hb : BracedBy tokens b) :
    BracedBy tokens (a ++ b) := by
  induction ha with
  | nil => exact hb
  | char hc _ ih => exact .char hc ih
  | token hk _ ih =>
    rw [List.append_assoc]
    exact .token hk ih

theorem isDigit_of_mem_decimal {c : Char} {n : Nat} (h : c ∈ decimal n) : c.isDigit = true :=
  Nat.isDigit_of_mem_toDigits (by decide) (by decide) h

theorem braceFree_decimal (n : Nat) : BraceFree (decimal n) := by
  constructor
  · intro h
    exact absurd (isDigit_of_mem_decimal h) (by decide)
  · intro h
    exact absurd (isDigit_of_mem_decimal h) (by decide)

end Text

/-- A segment with no brace in its literal text. -/
def Segment.BraceFree (s : Segment) : Prop := ∀ l : Text, s = .literal l → Text.BraceFree l

/-- The tokens of the five slots. -/
def Placeholder.tokens : List Text := all.map token

namespace Template

theorem braceFree_literal {l : Text} : Segment.BraceFree (.literal l) ↔ Text.BraceFree l := by
  simp [Segment.BraceFree]

theorem braceFree_slot (p : Placeholder) : Segment.BraceFree (.slot p) := nofun

theorem token_mem_tokens (p : Placeholder) : p.token ∈ Placeholder.tokens :=
  List.mem_map_of_mem (Placeholder.mem_all p)

instance : DecidablePred Segment.BraceFree
  | .literal _ => decidable_of_iff' _ braceFree_literal
  | .slot p => isTrue (braceFree_slot p)

/-- Neither joining literals nor dropping a word makes a brace. -/
theorem hereditary_braceFree : Hereditary Segment.BraceFree where
  append a b ha hb := by
    rw [braceFree_literal] at *
    exact Text.braceFree_append.2 ⟨ha, hb⟩
  dropAs a ha := by
    rw [braceFree_literal] at *
    exact ⟨fun h => ha.1 (mem_of_mem_dropAs h), fun h => ha.2 (mem_of_mem_dropAs h)⟩

/-- A template without braces in its literals renders to a text with braces in tokens only. -/
theorem bracedBy_render {u : Template} (hu : ∀ s ∈ u, s.BraceFree) :
    Text.BracedBy Placeholder.tokens (render u) := by
  induction u with
  | nil => exact .nil
  | cons s u ih =>
    obtain ⟨hs, htail⟩ := List.forall_mem_cons.1 hu
    cases s with
    | literal l => exact (ih htail).append_left (braceFree_literal.1 hs)
    | slot p => exact (ih htail).token (token_mem_tokens p)

/-- Braces stand in the tokens of slots only, exactly if no literal that is read has one. -/
theorem bracedBy_iff_parse {t : Text} :
    Text.BracedBy Placeholder.tokens t ↔ ∀ s ∈ parse t, s.BraceFree := by
  constructor
  · intro h
    induction h with
    | nil => simp
    | @char c t hc _ ih =>
      -- What is no brace begins no token, so it joins the literal behind it.
      have hread : parse (c :: t) = consLiteral [c] (parse t) :=
        parse_append_of_open_not_mem (a := [c]) hc.1 t
      rw [hread]
      exact hereditary_braceFree.consLiteral (braceFree_literal.2 hc) ih
    | token hk _ ih =>
      obtain ⟨p, -, rfl⟩ := List.mem_map.1 hk
      rw [parse_token_append]
      exact List.forall_mem_cons.2 ⟨braceFree_slot p, ih⟩
  · intro h
    have ht := bracedBy_render h
    rwa [render_parse] at ht

instance : DecidablePred (Text.BracedBy Placeholder.tokens) := fun _ =>
  decidable_of_iff' _ bracedBy_iff_parse

/-- What has neither slots nor braces in its literals renders to a text without braces. -/
theorem braceFree_render {u : Template} (hu : ∀ s ∈ u, s.BraceFree) (hslots : placeholders u = []) :
    Text.BraceFree (render u) := by
  induction u with
  | nil => exact ⟨by simp [render], by simp [render]⟩
  | cons s u ih =>
    obtain ⟨hs, htail⟩ := List.forall_mem_cons.1 hu
    cases s with
    | literal l => exact Text.braceFree_append.2 ⟨braceFree_literal.1 hs, ih htail hslots⟩
    | slot p => cases hslots

end Template

end Cardwright
