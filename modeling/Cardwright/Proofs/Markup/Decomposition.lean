import Cardwright.Proofs.Markup.Split

/-!
# The decomposition of a text into markup

Splitting a text into tags and plain text is settled by what the segments are, without a word on how
they are found (`eq_split_iff`): none is empty and no two plain texts are adjacent; a tag has its
only `>` at its end; plain text in front of a tag has no `<`, and plain text at the end of the text
closes none (`WellCut`).

There is only one such decomposition, because at each place the front of the text decides: a `<`
that is closed can neither stand in plain text before a tag nor at the end, so it opens a tag, which
the next `>` closes; and plain text goes on up to such a `<`.
-/

namespace Cardwright.Markup

/-! ### Segments that are cut in the right places -/

/-- Segments that are cut where tags begin and end, and nowhere else. -/
structure WellCut (segments : List MarkupSegment) : Prop where
  ne_nil : ∀ s ∈ segments, s.render ≠ []
  separated : ∀ p q : Text, ¬ [.plain p, .plain q] <:+: segments
  isTag : ∀ x : Text, .tag x ∈ segments → IsTag x
  beforeTag : ∀ p x : Text, [.plain p, .tag x] <:+: segments → '<' ∉ p
  last : ∀ p : Text, segments.getLast? = some (.plain p) → Untagged p

/-- Plain text may stand right in front of segments. -/
def MayPrecede (p : Text) : List MarkupSegment → Prop
  | [] => Untagged p
  | .plain _ :: _ => False
  | .tag _ :: _ => '<' ∉ p

theorem wellCut_nil : WellCut [] := by
  refine ⟨?_, ?_, ?_, ?_, ?_⟩ <;> simp

theorem WellCut.tail {s : MarkupSegment} {segments : List MarkupSegment}
    (h : WellCut (s :: segments)) : WellCut segments where
  ne_nil s' hs' := h.ne_nil s' (List.mem_cons_of_mem _ hs')
  separated p q hin := h.separated p q (List.infix_cons hin)
  isTag x hx := h.isTag x (List.mem_cons_of_mem _ hx)
  beforeTag p x hin := h.beforeTag p x (List.infix_cons hin)
  last p hp := h.last p (by rw [List.getLast?_cons, hp, Option.getD_some])

theorem wellCut_tag_cons {x : Text} {segments : List MarkupSegment} :
    WellCut (.tag x :: segments) ↔ IsTag x ∧ WellCut segments := by
  constructor
  · intro h
    exact ⟨h.isTag x List.mem_cons_self, h.tail⟩
  · rintro ⟨hx, h⟩
    refine ⟨List.forall_mem_cons.2 ⟨?_, h.ne_nil⟩, fun p q hin => ?_, fun y hy => ?_,
      fun p y hin => ?_, fun p hp => ?_⟩
    · obtain ⟨inner, rfl, -⟩ := hx
      exact List.cons_ne_nil _ _
    · rcases List.infix_cons_iff.1 hin with hfront | hin
      · simp at hfront
      · exact h.separated p q hin
    · rcases List.mem_cons.1 hy with heq | hy
      · cases heq
        exact hx
      · exact h.isTag y hy
    · rcases List.infix_cons_iff.1 hin with hfront | hin
      · simp at hfront
      · exact h.beforeTag p y hin
    · rw [List.getLast?_cons, Option.some.injEq] at hp
      cases hlast : segments.getLast? with
      | none =>
        rw [hlast] at hp
        cases hp
      | some s =>
        rw [hlast, Option.getD_some] at hp
        exact h.last p (hlast.trans (congrArg some hp))

theorem wellCut_plain_cons {p : Text} {segments : List MarkupSegment} :
    WellCut (.plain p :: segments) ↔ p ≠ [] ∧ MayPrecede p segments ∧ WellCut segments := by
  constructor
  · intro h
    refine ⟨h.ne_nil _ List.mem_cons_self, ?_, h.tail⟩
    match segments with
    | [] => exact h.last p rfl
    | .plain q :: segments => exact h.separated p q (List.IsPrefix.isInfix ⟨segments, rfl⟩)
    | .tag x :: segments => exact h.beforeTag p x (List.IsPrefix.isInfix ⟨segments, rfl⟩)
  · rintro ⟨hne, hfront, h⟩
    refine ⟨List.forall_mem_cons.2 ⟨hne, h.ne_nil⟩, fun q r hin => ?_, fun x hx => ?_,
      fun q x hin => ?_, fun q hq => ?_⟩
    · rcases List.infix_cons_iff.1 hin with ⟨u, hu⟩ | hin
      · rw [List.cons_append, List.cons_append, List.cons.injEq] at hu
        rw [← hu.2] at hfront
        exact hfront
      · exact h.separated q r hin
    · exact h.isTag x (by simpa using hx)
    · rcases List.infix_cons_iff.1 hin with ⟨u, hu⟩ | hin
      · rw [List.cons_append, List.cons_append, List.cons.injEq] at hu
        obtain ⟨heq, hu⟩ := hu
        cases heq
        rw [← hu] at hfront
        exact hfront
      · exact h.beforeTag q x hin
    · rw [List.getLast?_cons, Option.some.injEq] at hq
      cases hlast : segments.getLast? with
      | none =>
        rw [hlast] at hq
        cases hq
        rw [List.getLast?_eq_none_iff.1 hlast] at hfront
        exact hfront
      | some s =>
        rw [hlast, Option.getD_some] at hq
        exact h.last q (hlast.trans (congrArg some hq))

/-! ### What splitting gives -/

theorem close_mem_render {x : Text} {segments : List MarkupSegment} (h : WellCut segments)
    (hx : .tag x ∈ segments) : '>' ∈ render segments := by
  obtain ⟨inner, hinner, -⟩ := h.isTag x hx
  refine List.mem_flatMap.2 ⟨.tag x, hx, ?_⟩
  rw [MarkupSegment.render, hinner]
  simp

/-- A character that opens no tag may be joined to the segments behind it. -/
theorem WellCut.consPlain {c : Char} {segments : List MarkupSegment} (h : WellCut segments)
    (hc : c = '<' → '>' ∉ render segments) : WellCut (consPlain c segments) := by
  have hne : ∀ x : Text, .tag x ∈ segments → '<' ≠ c := fun x hx heq =>
    hc heq.symm (close_mem_render h hx)
  match segments, h, hc, hne with
  | [], _, _, _ =>
    refine wellCut_plain_cons.2 ⟨List.cons_ne_nil c [], ?_, wellCut_nil⟩
    exact behindOpenings_cons.2 ⟨fun _ => List.not_mem_nil, behindOpenings_nil _⟩
  | .tag x :: segments, h, _, hne =>
    refine wellCut_plain_cons.2 ⟨List.cons_ne_nil c [], ?_, h⟩
    exact List.not_mem_cons_of_ne_of_not_mem (hne x List.mem_cons_self) List.not_mem_nil
  | .plain p :: segments, h, hc, hne =>
    obtain ⟨-, hfront, hrest⟩ := wellCut_plain_cons.1 h
    refine wellCut_plain_cons.2 ⟨List.cons_ne_nil c p, ?_, hrest⟩
    match segments with
    | [] =>
      refine behindOpenings_cons.2 ⟨fun heq => ?_, hfront⟩
      simpa [render, MarkupSegment.render] using hc heq
    | .tag x :: segments =>
      exact List.not_mem_cons_of_ne_of_not_mem (hne x (by simp)) hfront

theorem wellCut_split (t : Text) : WellCut (split t) := by
  fun_induction split t with
  | case1 => exact wellCut_nil
  | case2 c t x rest htag ih =>
    obtain ⟨inner, hx, hinner, -⟩ := tag?_eq_some_iff.1 htag
    exact wellCut_tag_cons.2 ⟨⟨inner, hx, hinner⟩, ih⟩
  | case3 c t htag ih =>
    refine ih.consPlain ?_
    rw [render_split]
    exact tag?_cons_eq_none_iff.1 htag

/-! ### Reading segments back -/

/-- Segments that are cut in the right places are found again in their text. -/
theorem split_render {segments : List MarkupSegment} (h : WellCut segments) :
    split (render segments) = segments := by
  induction segments with
  | nil => rw [render, List.flatMap_nil, split]
  | cons s segments ih =>
    have hrest := ih h.tail
    cases s with
    | tag x =>
      calc split (render (.tag x :: segments))
          = split (x ++ render segments) := rfl
        _ = .tag x :: segments := by rw [split_tag_append (wellCut_tag_cons.1 h).1, hrest]
    | plain p =>
      obtain ⟨hne, hfront, -⟩ := wellCut_plain_cons.1 h
      -- What follows decides whether the text is all plain from here on, or a tag ends it.
      cases segments with
      | nil =>
        have hrender : render [.plain p] = p := by simp [render, MarkupSegment.render]
        rw [hrender, split_of_untagged hfront hne]
      | cons s segments =>
        cases s with
        | plain q => exact hfront.elim
        | tag x =>
          calc split (render (.plain p :: .tag x :: segments))
              = split (p ++ render (.tag x :: segments)) := rfl
            _ = .plain p :: .tag x :: segments := by
              rw [split_append_of_not_mem hfront hne, hrest, plainFront, behindFront,
                List.append_nil]

/-- **Splitting finds the only decomposition.**  For every text the segments that it is split into
are the one list that makes up the text and is cut in the right places. -/
theorem eq_split_iff (t : Text) (segments : List MarkupSegment) :
    segments = split t ↔ render segments = t ∧ WellCut segments := by
  constructor
  · rintro rfl
    exact ⟨render_split t, wellCut_split t⟩
  · rintro ⟨rfl, h⟩
    exact (split_render h).symm

/-- A `>` that closes nothing, a `<` inside a tag, tags back to back and a `<` that is never closed.
-/
example : split "a>b<i<j><k>c<d" =
    [.plain "a>b", .tag "<i<j>", .tag "<k>", .plain "c<d"] := by
  cbv

end Cardwright.Markup
