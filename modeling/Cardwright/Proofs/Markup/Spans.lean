import Cardwright.Proofs.Markup.Annotation

/-!
# The spans in marked text

Highlighting writes segments one after another: those of the text that it is given, where the
keywords in plain text are put between tags (`Matcher.segments`).  If the brackets of the text are
closed and keywords have none, these segments keep apart, so reading the marked text gives back
their tags.  Hence the tags of spans in it open and close in turns, the other tags are those of the
given text, and without the tags of spans the given text is left (`Matcher.spans_of_highlight`).
-/

namespace Cardwright

open Text Markup

/-! ### The tags of spans -/

/-- How the opening tags of spans begin. -/
def spanStart : Text := "<span class=\"keyword-"

/-- A tag that opens or closes a span. -/
def IsSpanTag (x : Text) : Prop := spanStart <+: x ∨ x = closingTag

instance : DecidablePred IsSpanTag := fun x =>
  inferInstanceAs (Decidable (spanStart <+: x ∨ x = closingTag))

/-- Tags that open and close spans in turns, each span being closed before the next is opened. -/
inductive Alternating : List Text → Prop
  | nil : Alternating []
  | span {x : Text} {xs : List Text} : spanStart <+: x → Alternating xs →
      Alternating (x :: closingTag :: xs)

theorem Alternating.append {xs ys : List Text} (h : Alternating xs) (h' : Alternating ys) :
    Alternating (xs ++ ys) := by
  induction h with
  | nil => exact h'
  | span hx _ ih => exact .span hx ih

theorem Alternating.isSpanTag {xs : List Text} (h : Alternating xs) : ∀ x ∈ xs, IsSpanTag x := by
  induction h with
  | nil => simp
  | span hx _ ih =>
    exact List.forall_mem_cons.2 ⟨Or.inl hx, List.forall_mem_cons.2 ⟨Or.inr rfl, ih⟩⟩

/-! ### Texts without brackets -/

/-- A text without angle brackets. -/
def BracketFree (t : Text) : Prop := '<' ∉ t ∧ '>' ∉ t

instance : DecidablePred BracketFree := fun t =>
  inferInstanceAs (Decidable ('<' ∉ t ∧ '>' ∉ t))

/-- An entry whose keyword and singular have no brackets. -/
structure KeywordEntry.BracketFree (e : KeywordEntry) : Prop where
  word : Cardwright.BracketFree e.word
  singular : ∀ s ∈ e.singular, Cardwright.BracketFree s

theorem bracketFree_keywordClass {w : Text} (h : BracketFree w) : BracketFree (keywordClass w) :=
  ⟨not_mem_keywordClass (by decide) (by decide) h.1,
    not_mem_keywordClass (by decide) (by decide) h.2⟩

theorem KeywordEntry.bracketFree_iff {e : KeywordEntry} :
    e.BracketFree ↔ e.Lacks '<' ∧ e.Lacks '>' := by
  constructor
  · intro h
    exact ⟨⟨h.word.1, fun s hs => (h.singular s hs).1⟩, h.word.2, fun s hs => (h.singular s hs).2⟩
  · rintro ⟨hopen, hclose⟩
    exact ⟨⟨hopen.word, hclose.word⟩, fun s hs => ⟨hopen.singular s hs, hclose.singular s hs⟩⟩

theorem KeywordEntry.BracketFree.spelled {e : KeywordEntry} (h : e.BracketFree) {surface : Text}
    {singular : Option Text} (hspelled : e.Spelled surface singular) :
    Cardwright.BracketFree surface ∧ ∀ s ∈ singular, Cardwright.BracketFree s := by
  obtain ⟨hopen, hclose⟩ := KeywordEntry.bracketFree_iff.1 h
  obtain ⟨hsurface, hsingular⟩ := hopen.spelled (by decide) hspelled
  obtain ⟨hsurface', hsingular'⟩ := hclose.spelled (by decide) hspelled
  exact ⟨⟨hsurface, hsurface'⟩, fun s hs => ⟨hsingular s hs, hsingular' s hs⟩⟩

/-! ### Opening and closing tags -/

theorem spanStart_prefix_openingTag (surface : Text) (singular : Option Text) :
    spanStart <+: openingTag surface singular := by
  unfold openingTag keywordClass
  simp only [List.append_assoc]
  exact ⟨_, rfl⟩

theorem isTag_openingTag {surface : Text} {singular : Option Text} (h : BracketFree surface)
    (h' : ∀ s ∈ singular, BracketFree s) : IsTag (openingTag surface singular) := by
  have hopen : "<span class=\"".toList = '<' :: "span class=\"".toList := by decide
  have hclose : "\">".toList = ['"'] ++ ['>'] := by decide
  have htag : ∀ a b : Text, '>' ∉ a → '>' ∉ b →
      IsTag ("<span class=\"".toList ++ a ++ b ++ "\">".toList) := by
    intro a b ha hb
    refine ⟨"span class=\"".toList ++ a ++ b ++ ['"'], ?_, ?_⟩
    · rw [hopen, hclose]
      simp only [List.cons_append, List.append_assoc]
    · simp only [List.mem_append, not_or]
      exact ⟨⟨⟨by decide, ha⟩, hb⟩, by decide⟩
  have hfirst := (bracketFree_keywordClass h).2
  cases singular with
  | none => exact htag _ [] hfirst List.not_mem_nil
  | some word =>
    have hsecond := (bracketFree_keywordClass (h' word rfl)).2
    exact htag _ (' ' :: keywordClass word) hfirst
      (List.not_mem_cons_of_ne_of_not_mem (by decide) hsecond)

theorem isTag_closingTag : IsTag closingTag := ⟨"/span".toList, rfl, by decide⟩

/-- Keywords and irregular plurals without brackets make entries without brackets. -/
theorem Matcher.bracketFree_ofKeywords {keywords : List Text}
    {irregularPlurals : List (Text × Text)} (h : ∀ k ∈ keywords, BracketFree k)
    (h' : ∀ e ∈ irregularPlurals, BracketFree e.2) :
    ∀ e ∈ (ofKeywords keywords irregularPlurals).entries, e.BracketFree := by
  have hlacks : ∀ c, isWordChar c = false → (∀ t, BracketFree t → c ∉ t) →
      ∀ e ∈ (ofKeywords keywords irregularPlurals).entries, e.Lacks c := fun c hc hnone =>
    lacks_ofKeywords hc (fun k hk => hnone k (h k hk)) fun e he => hnone e.2 (h' e he)
  intro e he
  refine KeywordEntry.bracketFree_iff.2 ⟨?_, ?_⟩
  · exact hlacks '<' (by decide) (fun _ => And.left) e he
  · exact hlacks '>' (by decide) (fun _ => And.right) e he

/-! ### Marked text as segments -/

/-- The segments that a piece is written as. -/
def Piece.segments : Piece → List MarkupSegment
  | plain c => [.plain [c]]
  | keyword surface singular =>
    [.tag (openingTag surface singular), .plain surface, .tag closingTag]

namespace Matcher

/-- The segments that a segment is marked as. -/
def mark (m : Matcher) : MarkupSegment → List MarkupSegment
  | .plain text => (m.scan false text).flatMap Piece.segments
  | .tag x => [.tag x]

/-- Marked text is the text of its segments. -/
theorem highlight_eq_render (m : Matcher) (t : Text) :
    m.highlight t = render ((split t).flatMap m.mark) := by
  have hpiece : ∀ p : Piece, p.render = render p.segments := by
    intro p
    cases p <;> simp [Piece.segments, Piece.render, render, MarkupSegment.render]
  rw [highlight, render, List.flatMap_assoc]
  refine List.flatMap_congr fun s _ => ?_
  cases s with
  | plain text =>
    change (m.scan false text).flatMap Piece.render =
      ((m.scan false text).flatMap Piece.segments).flatMap MarkupSegment.render
    rw [List.flatMap_assoc]
    exact List.flatMap_congr fun p _ => hpiece p
  | tag x => simp [mark, MarkupSegment.render]

/-- Marking keeps the segments apart. -/
theorem separate_mark {m : Matcher} (hm : ∀ e ∈ m.entries, e.BracketFree) {s : MarkupSegment}
    (hs : s.Separate) : ∀ s' ∈ m.mark s, s'.Separate := by
  cases s with
  | tag x =>
    intro s' hs'
    obtain rfl := List.mem_singleton.1 hs'
    exact hs
  | plain text =>
    intro s' hs'
    obtain ⟨p, hp, hin⟩ := List.mem_flatMap.1 hs'
    cases p with
    | plain c =>
      obtain rfl := List.mem_singleton.1 hin
      -- The character is one of the text, which has no `<`.
      have hc : c ∈ covered (m.scan false text) :=
        List.mem_flatMap.2 ⟨.plain c, hp, List.mem_singleton_self c⟩
      rw [covered_scan] at hc
      intro hbracket
      rw [← List.mem_singleton.1 hbracket] at hc
      exact hs hc
    | keyword surface singular =>
      obtain ⟨e, he, hspelled⟩ := spelled_of_mem_scan hp
      obtain ⟨hsurface, hsingular⟩ := (hm e he).spelled hspelled
      simp only [Piece.segments, List.mem_cons, List.not_mem_nil, or_false] at hin
      rcases hin with rfl | rfl | rfl
      · exact isTag_openingTag hsurface hsingular
      · exact hsurface.1
      · exact isTag_closingTag

/-! ### What the spans add -/

/-- Pieces add tags of spans in turns. -/
theorem alternating_pieces (pieces : List Piece) :
    Alternating (tags (pieces.flatMap Piece.segments)) := by
  induction pieces with
  | nil => exact .nil
  | cons p pieces ih =>
    rw [List.flatMap_cons, tags_append]
    cases p with
    | plain c => exact ih
    | keyword surface singular => exact .span (spanStart_prefix_openingTag surface singular) ih

/-- Without the tags of spans the text is left that the pieces cover. -/
theorem without_pieces (pieces : List Piece) :
    without IsSpanTag (pieces.flatMap Piece.segments) = covered pieces := by
  induction pieces with
  | nil => rfl
  | cons p pieces ih =>
    rw [List.flatMap_cons, without_append, ih, covered_cons]
    cases p with
    | plain c => simp [Piece.segments, without, Piece.surface]
    | keyword surface singular =>
      have hopening : IsSpanTag (openingTag surface singular) :=
        Or.inl (spanStart_prefix_openingTag surface singular)
      have hclosing : IsSpanTag closingTag := Or.inr rfl
      simp [Piece.segments, without, Piece.surface, hopening, hclosing]

variable {m : Matcher} {segments : List MarkupSegment}

theorem alternating_mark (h : ∀ x ∈ tags segments, ¬ IsSpanTag x) :
    Alternating ((tags (segments.flatMap m.mark)).filter IsSpanTag) := by
  induction segments with
  | nil => exact .nil
  | cons s segments ih =>
    rw [List.flatMap_cons, tags_append, List.filter_append]
    cases s with
    | plain text =>
      have halternating := alternating_pieces (m.scan false text)
      have hall : (tags (m.mark (.plain text))).filter IsSpanTag = tags (m.mark (.plain text)) := by
        rw [List.filter_eq_self]
        exact fun x hx => decide_eq_true (halternating.isSpanTag x hx)
      rw [hall]
      exact halternating.append (ih h)
    | tag x =>
      obtain ⟨hx, hrest⟩ := List.forall_mem_cons.1 h
      have hnone : (tags (m.mark (.tag x))).filter IsSpanTag = [] := by simp [mark, tags, hx]
      rw [hnone]
      exact ih hrest

theorem otherTags_mark (h : ∀ x ∈ tags segments, ¬ IsSpanTag x) :
    (tags (segments.flatMap m.mark)).filter (¬ IsSpanTag ·) = tags segments := by
  induction segments with
  | nil => rfl
  | cons s segments ih =>
    rw [List.flatMap_cons, tags_append, List.filter_append]
    cases s with
    | plain text =>
      have halternating := alternating_pieces (m.scan false text)
      have hnone : (tags (m.mark (.plain text))).filter (¬ IsSpanTag ·) = [] := by
        rw [List.filter_eq_nil_iff]
        intro x hx
        simpa using halternating.isSpanTag x hx
      rw [hnone]
      exact ih h
    | tag x =>
      obtain ⟨hx, hrest⟩ := List.forall_mem_cons.1 h
      have hall : (tags (m.mark (.tag x))).filter (¬ IsSpanTag ·) = [x] := by simp [mark, tags, hx]
      rw [hall, ih hrest]
      rfl

theorem without_mark (h : ∀ x ∈ tags segments, ¬ IsSpanTag x) :
    without IsSpanTag (segments.flatMap m.mark) = render segments := by
  induction segments with
  | nil => rfl
  | cons s segments ih =>
    rw [List.flatMap_cons, without_append, render, List.flatMap_cons]
    cases s with
    | plain text =>
      have hcovered : without IsSpanTag (m.mark (.plain text)) = text := by
        rw [mark, without_pieces, covered_scan]
      rw [hcovered, ih h]
      rfl
    | tag x =>
      obtain ⟨hx, hrest⟩ := List.forall_mem_cons.1 h
      have hkept : without IsSpanTag (m.mark (.tag x)) = x := by simp [mark, without, hx]
      rw [hkept, ih hrest]
      rfl

/-- **Marked text is safe to read as markup.**  Let the keywords and singulars have no brackets, and
let each `<` of a text be closed and none of its tags be one of a span.  In the marked text the tags
of spans open and close in turns, the other tags are those of the text, in order, and without the
tags of spans the text itself is left. -/
theorem spans_of_highlight (hm : ∀ e ∈ m.entries, e.BracketFree) {t : Text} (hclosed : Closed t)
    (hother : ∀ x ∈ tags (split t), ¬ IsSpanTag x) :
    Alternating ((tags (split (m.highlight t))).filter IsSpanTag) ∧
    (tags (split (m.highlight t))).filter (¬ IsSpanTag ·) = tags (split t) ∧
    without IsSpanTag (split (m.highlight t)) = t := by
  have hseparate : ∀ s ∈ (split t).flatMap m.mark, s.Separate := by
    intro s' hs'
    obtain ⟨s, hs, hin⟩ := List.mem_flatMap.1 hs'
    exact separate_mark hm (separate_split hclosed s hs) s' hin
  rw [highlight_eq_render, tags_split_render hseparate, without_split_render hseparate]
  refine ⟨alternating_mark hother, otherTags_mark hother, ?_⟩
  rw [without_mark hother, render_split]

/-- Keywords at the edges of tags and inside one, a `>` that closes nothing, and a `<` in a tag. -/
theorem spans_of_highlight_tagged :
    let m := ofKeywords ["HEAL", "PROPERTIES"] [("PROPERTIES", "PROPERTY")]
    let t : Text := "heals> <i title=\"<heal\">Heal</i>properties"
    ((∀ e ∈ m.entries, e.BracketFree) ∧ Closed t ∧ ∀ x ∈ tags (split t), ¬ IsSpanTag x) ∧
    Alternating ((tags (split (m.highlight t))).filter IsSpanTag) ∧
    (tags (split (m.highlight t))).filter (¬ IsSpanTag ·) = tags (split t) ∧
    without IsSpanTag (split (m.highlight t)) = t := by
  intro m t
  have hm : ∀ e ∈ m.entries, e.BracketFree := bracketFree_ofKeywords (by decide) (by decide)
  have hclosed : Closed t := by decide
  have hother : ∀ x ∈ tags (split t), ¬ IsSpanTag x := by decide +kernel
  exact ⟨⟨hm, hclosed, hother⟩, spans_of_highlight hm hclosed hother⟩

end Matcher

end Cardwright
