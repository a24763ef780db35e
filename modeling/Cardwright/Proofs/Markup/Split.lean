import Cardwright.Markup.Segment
import Mathlib.Data.List.Basic

/-!
# Splitting text into tags and plain text

`Markup.split` reads a tag where a `<` has a `>` behind it, and plain text elsewhere.  A text in
which no `<` is closed is all plain (`split_of_untagged`); any other is plain text with a tag and
another text behind it (`tag_induction`).  Where each `<` is closed, no plain text has one in it
(`separate_split`).

Segments of the second kind keep apart when they are written one after another: a tag ends at its
own bracket whatever follows, and plain text without a `<` begins none.  Reading them back may join
plain texts, but gives the same tags (`tags_split_render`), and the same text once some of the tags
are taken out (`without_split_render`).
-/

namespace Cardwright

namespace Markup

/-! ### Opening brackets -/

/-- What follows each `<` of a text has a property. -/
def BehindOpenings (P : Text → Prop) (t : Text) : Prop := ∀ a b, t = a ++ '<' :: b → P b

/-- A text without closed tags: no `<` has a `>` behind it. -/
abbrev Untagged : Text → Prop := BehindOpenings ('>' ∉ ·)

/-- A text in which every `<` is closed by a later `>`. -/
abbrev Closed : Text → Prop := BehindOpenings ('>' ∈ ·)

theorem behindOpenings_nil (P : Text → Prop) : BehindOpenings P [] := by
  intro a b h
  simp at h

theorem behindOpenings_cons {P : Text → Prop} {c : Char} {t : Text} :
    BehindOpenings P (c :: t) ↔ (c = '<' → P t) ∧ BehindOpenings P t := by
  constructor
  · intro h
    refine ⟨fun hc => h [] t (by rw [hc, List.nil_append]), fun a b heq => ?_⟩
    exact h (c :: a) b (by rw [heq, List.cons_append])
  · rintro ⟨hc, ht⟩ a b heq
    cases a with
    | nil =>
      obtain ⟨rfl, rfl⟩ := List.cons.inj heq
      exact hc rfl
    | cons d a => exact ht a b (List.cons.inj heq).2

instance decidableBehindOpenings (P : Text → Prop) [DecidablePred P] :
    DecidablePred (BehindOpenings P)
  | [] => isTrue (behindOpenings_nil P)
  | _ :: t =>
    have := decidableBehindOpenings P t
    decidable_of_iff' _ behindOpenings_cons

/-- The property holds behind a front part as well. -/
theorem BehindOpenings.of_append {P : Text → Prop} {s t : Text} (h : BehindOpenings P (s ++ t)) :
    BehindOpenings P t := by
  intro a b heq
  exact h (s ++ a) b (by rw [heq, List.append_assoc])

/-! ### Reading a tag -/

/-- A tag: `<`, a text without `>`, and `>`. -/
def IsTag (x : Text) : Prop := ∃ inner, x = '<' :: inner ++ ['>'] ∧ '>' ∉ inner

theorem inside?_eq_none_iff {t : Text} : inside? t = none ↔ '>' ∉ t := by
  induction t with
  | nil => simp [inside?]
  | cons c t ih =>
    rw [inside?]
    split_ifs with hc
    · simp [hc]
    · simp [ih, Ne.symm hc]

theorem tag?_cons_eq_none_iff {c : Char} {t : Text} :
    tag? (c :: t) = none ↔ (c = '<' → '>' ∉ t) := by
  by_cases hc : c = '<'
  · rw [hc, tag?, Option.map_eq_none_iff, inside?_eq_none_iff]
    simp
  · have hnone : tag? (c :: t) = none := by
      unfold tag?
      split
      · next heq => exact absurd (List.cons.inj heq).1 hc
      · rfl
    simp [hnone, hc]

theorem split_of_tag? {t x rest : Text} (h : tag? t = some (x, rest)) :
    split t = .tag x :: split rest := by
  cases t with
  | nil => cases h
  | cons c t =>
    rw [split]
    split
    · next heq =>
      rw [h] at heq
      cases heq
      rfl
    · next heq =>
      rw [h] at heq
      cases heq

theorem split_cons_of_tag?_eq_none {c : Char} {t : Text} (h : tag? (c :: t) = none) :
    split (c :: t) = consPlain c (split t) := by
  rw [split]
  split
  · next heq =>
    rw [h] at heq
    cases heq
  · rfl

/-- A tag in front is read as it stands. -/
theorem split_tag_append {x : Text} (hx : IsTag x) (t : Text) :
    split (x ++ t) = .tag x :: split t := by
  obtain ⟨inner, rfl, hinner⟩ := hx
  exact split_of_tag? (tag?_eq_some_iff.2 ⟨inner, rfl, hinner, rfl⟩)

theorem split_cons_of_ne {c : Char} (hc : c ≠ '<') (t : Text) :
    split (c :: t) = consPlain c (split t) :=
  split_cons_of_tag?_eq_none (tag?_cons_eq_none_iff.2 fun h => absurd h hc)

/-- A text without closed tags is plain. -/
theorem split_of_untagged {t : Text} (h : Untagged t) (hne : t ≠ []) : split t = [.plain t] := by
  induction t with
  | nil => exact absurd rfl hne
  | cons c t ih =>
    obtain ⟨hc, ht⟩ := behindOpenings_cons.1 h
    rw [split_cons_of_tag?_eq_none (tag?_cons_eq_none_iff.2 hc)]
    by_cases hnil : t = []
    · rw [hnil, split, consPlain]
      simp
    · rw [ih ht hnil, consPlain]

/-! ### Plain text in front of a text -/

/-- The plain text that segments begin with. -/
def plainFront : List MarkupSegment → Text
  | [] => []
  | .plain text :: _ => text
  | .tag _ :: _ => []

/-- The segments behind the plain text that they begin with. -/
def behindFront : List MarkupSegment → List MarkupSegment
  | [] => []
  | .plain _ :: segments => segments
  | .tag x :: segments => .tag x :: segments

theorem consPlain_eq (c : Char) (segments : List MarkupSegment) :
    consPlain c segments = .plain (c :: plainFront segments) :: behindFront segments := by
  match segments with
  | [] => rfl
  | .plain _ :: _ => rfl
  | .tag _ :: _ => rfl

/-- Plain text in front joins the plain text that a text begins with. -/
theorem split_append_of_not_mem {p : Text} (hp : '<' ∉ p) (hne : p ≠ []) (t : Text) :
    split (p ++ t) = .plain (p ++ plainFront (split t)) :: behindFront (split t) := by
  induction p with
  | nil => exact absurd rfl hne
  | cons c p ih =>
    obtain ⟨hc, hp⟩ := List.ne_and_not_mem_of_not_mem_cons hp
    rw [List.cons_append, split_cons_of_ne (Ne.symm hc), consPlain_eq]
    by_cases hnil : p = []
    · rw [hnil, List.nil_append, List.singleton_append]
    · rw [ih hp hnil]
      rfl

/-! ### The first tag -/

/-- A text without closed tags, or one with a first tag. -/
theorem untagged_or_exists_tag (t : Text) :
    Untagged t ∨ ∃ p x rest, '<' ∉ p ∧ IsTag x ∧ t = p ++ (x ++ rest) := by
  induction t with
  | nil => exact Or.inl (behindOpenings_nil _)
  | cons c t ih =>
    cases htag : tag? (c :: t) with
    | some found =>
      obtain ⟨inner, hx, hinner, heq⟩ := tag?_eq_some_iff.1 htag
      exact Or.inr ⟨[], found.1, found.2, List.not_mem_nil, ⟨inner, hx, hinner⟩, heq⟩
    | none =>
      have hc := tag?_cons_eq_none_iff.1 htag
      rcases ih with huntagged | ⟨p, x, rest, hp, hx, rfl⟩
      · exact Or.inl (behindOpenings_cons.2 ⟨hc, huntagged⟩)
      · -- The tag behind has a `>`, so what stands before it is no `<`.
        have hne : c ≠ '<' := by
          obtain ⟨inner, rfl, -⟩ := hx
          exact fun heq => hc heq (by simp)
        have hcp : '<' ∉ c :: p := List.not_mem_cons_of_ne_of_not_mem (Ne.symm hne) hp
        exact Or.inr ⟨c :: p, x, rest, hcp, hx, rfl⟩

/-- **Induction along the tags of a text.**  It has no closed tags, or it is plain text with a tag
and another text behind it. -/
theorem tag_induction {P : Text → Prop} (untagged : ∀ t, Untagged t → P t)
    (tag : ∀ p x t, '<' ∉ p → IsTag x → P t → P (p ++ (x ++ t))) (t : Text) : P t := by
  induction hn : t.length using Nat.strongRecOn generalizing t with
  | ind n ih =>
    rcases untagged_or_exists_tag t with huntagged | ⟨p, x, rest, hp, hx, rfl⟩
    · exact untagged t huntagged
    · have hlt : rest.length < n := by
        obtain ⟨inner, rfl, -⟩ := hx
        rw [← hn, List.length_append, List.length_append, List.length_append, List.length_cons]
        omega
      exact tag p x rest hp hx (ih rest.length hlt rest rfl)

/-- The plain segment that a text makes, if it is not empty. -/
def plainSegments (p : Text) : List MarkupSegment := if p = [] then [] else [.plain p]

theorem split_eq_plainSegments {t : Text} (h : Untagged t) : split t = plainSegments t := by
  unfold plainSegments
  split_ifs with hnil
  · rw [hnil, split]
  · exact split_of_untagged h hnil

theorem split_append_tag {p x : Text} (hp : '<' ∉ p) (hx : IsTag x) (rest : Text) :
    split (p ++ (x ++ rest)) = plainSegments p ++ .tag x :: split rest := by
  unfold plainSegments
  split_ifs with hnil
  · rw [hnil, List.nil_append, split_tag_append hx, List.nil_append]
  · rw [split_append_of_not_mem hp hnil, split_tag_append hx, plainFront, behindFront,
      List.append_nil, List.singleton_append]

end Markup

/-! ### Segments that keep apart -/

/-- A tag, or a plain text that begins none. -/
def MarkupSegment.Separate : MarkupSegment → Prop
  | plain text => '<' ∉ text
  | tag text => Markup.IsTag text

namespace Markup

theorem separate_consPlain {c : Char} (hc : c ≠ '<') {segments : List MarkupSegment}
    (h : ∀ s ∈ segments, s.Separate) : ∀ s ∈ consPlain c segments, s.Separate := by
  unfold consPlain
  split
  · next text segments =>
    obtain ⟨htext, hrest⟩ := List.forall_mem_cons.1 h
    exact List.forall_mem_cons.2 ⟨List.not_mem_cons_of_ne_of_not_mem (Ne.symm hc) htext, hrest⟩
  · exact List.forall_mem_cons.2
      ⟨List.not_mem_cons_of_ne_of_not_mem (Ne.symm hc) List.not_mem_nil, h⟩

/-- Where every `<` is closed, plain text has none. -/
theorem separate_split {t : Text} (h : Closed t) : ∀ s ∈ split t, s.Separate := by
  fun_induction split t with
  | case1 => simp
  | case2 c t x rest htag ih =>
    obtain ⟨inner, hx, hinner, heq⟩ := tag?_eq_some_iff.1 htag
    rw [heq] at h
    exact List.forall_mem_cons.2 ⟨⟨inner, hx, hinner⟩, ih h.of_append⟩
  | case3 c t htag ih =>
    obtain ⟨hc, ht⟩ := behindOpenings_cons.1 h
    have hne : c ≠ '<' := fun heq => tag?_cons_eq_none_iff.1 htag heq (hc heq)
    exact separate_consPlain hne (ih ht)

/-! ### Tags -/

/-- The tags among segments. -/
def tags : List MarkupSegment → List Text
  | [] => []
  | .plain _ :: segments => tags segments
  | .tag x :: segments => x :: tags segments

/-- The text of segments without the tags of a certain kind. -/
def without (P : Text → Prop) [DecidablePred P] : List MarkupSegment → Text
  | [] => []
  | .plain text :: segments => text ++ without P segments
  | .tag x :: segments => if P x then without P segments else x ++ without P segments

variable {P : Text → Prop} [DecidablePred P]

theorem tags_append (s s' : List MarkupSegment) : tags (s ++ s') = tags s ++ tags s' := by
  induction s with
  | nil => rfl
  | cons x s ih => cases x <;> simp [tags, ih]

theorem without_append (s s' : List MarkupSegment) :
    without P (s ++ s') = without P s ++ without P s' := by
  induction s with
  | nil => rfl
  | cons x s ih =>
    cases x with
    | plain text => simp [without, ih]
    | tag x =>
      simp only [List.cons_append, without, ih]
      split_ifs <;> simp

theorem tags_consPlain (c : Char) (segments : List MarkupSegment) :
    tags (consPlain c segments) = tags segments := by
  unfold consPlain
  split <;> simp [tags]

theorem without_consPlain (c : Char) (segments : List MarkupSegment) :
    without P (consPlain c segments) = c :: without P segments := by
  unfold consPlain
  split <;> simp [without]

theorem tags_split_append {text : Text} (h : '<' ∉ text) (t : Text) :
    tags (split (text ++ t)) = tags (split t) := by
  induction text with
  | nil => rfl
  | cons c text ih =>
    obtain ⟨hc, htext⟩ := List.ne_and_not_mem_of_not_mem_cons h
    rw [List.cons_append, split_cons_of_ne (Ne.symm hc), tags_consPlain, ih htext]

theorem without_split_append {text : Text} (h : '<' ∉ text) (t : Text) :
    without P (split (text ++ t)) = text ++ without P (split t) := by
  induction text with
  | nil => rfl
  | cons c text ih =>
    obtain ⟨hc, htext⟩ := List.ne_and_not_mem_of_not_mem_cons h
    rw [List.cons_append, split_cons_of_ne (Ne.symm hc), without_consPlain, ih htext,
      List.cons_append]

/-- **Segments that keep apart are read back with the same tags.** -/
theorem tags_split_render {segments : List MarkupSegment} (h : ∀ s ∈ segments, s.Separate) :
    tags (split (render segments)) = tags segments := by
  induction segments with
  | nil => rw [render, List.flatMap_nil, split]
  | cons s segments ih =>
    obtain ⟨hs, hrest⟩ := List.forall_mem_cons.1 h
    cases s with
    | plain text => exact (tags_split_append hs _).trans (ih hrest)
    | tag x =>
      have hsplit : split (render (.tag x :: segments)) = .tag x :: split (render segments) :=
        split_tag_append hs _
      rw [hsplit, tags, tags, ih hrest]

/-- Nor does it make a difference for what is left once some tags are taken out. -/
theorem without_split_render {segments : List MarkupSegment} (h : ∀ s ∈ segments, s.Separate) :
    without P (split (render segments)) = without P segments := by
  induction segments with
  | nil => rw [render, List.flatMap_nil, split]
  | cons s segments ih =>
    obtain ⟨hs, hrest⟩ := List.forall_mem_cons.1 h
    cases s with
    | plain text =>
      exact (without_split_append hs _).trans (congrArg (text ++ ·) (ih hrest))
    | tag x =>
      have hsplit : split (render (.tag x :: segments)) = .tag x :: split (render segments) :=
        split_tag_append hs _
      rw [hsplit, without, without, ih hrest]

end Markup

end Cardwright
