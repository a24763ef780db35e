import Cardwright.Proofs.Markup.Keyword
import Cardwright.Proofs.Text.Tidy

/-!
# Highlighting keeps blanks apart

If no keyword and no singular has a blank in it, then marking brings no two blanks together
(`Matcher.BlankFree.blanksApart_highlight`).

The only blanks in a marked word are the single spaces in front of its classes
(`Piece.tidy_render_keyword`).  It neither begins nor ends with one, so the blanks of the text
around it stay apart (`blanksApart_render`).
-/

namespace Cardwright

open Text

/-! ### A marked word -/

theorem isWord_keywordClass {w : Text} (h : BlankFree w) : IsWord (keywordClass w) := by
  refine ⟨List.append_ne_nil_of_left_ne_nil (by decide) _, BlankFree.of_not_mem fun b hb => ?_⟩
  have hdash : b ≠ '-' := by
    rintro rfl
    cases hb
  exact not_mem_keywordClass (isWordChar_of_isBlank hb) hdash (h.not_mem hb)

/-- **A marked word is tidy.**  The only blanks in it are those in front of the classes. -/
theorem Piece.tidy_render_keyword {surface : Text} {singular : Option Text}
    (h : BlankFree surface) (h' : ∀ s ∈ singular, BlankFree s) :
    Tidy (keyword surface singular).render := by
  have hopen : Tidy "<span class=\"".toList := tidy_iff.2 (by decide)
  have hquote : BlankFree "\">".toList := by decide
  have hclose : BlankFree "</span>".toList := by decide
  have hclasses : ∀ w ∈ spanClasses surface singular, IsWord w := by
    refine List.forall_mem_cons.2 ⟨isWord_keywordClass h, fun w hw => ?_⟩
    obtain ⟨s, hs, rfl⟩ := Option.map_eq_some_iff.1 (Option.mem_toList.1 hw)
    exact isWord_keywordClass (h' s hs)
  rw [Piece.render_keyword]
  exact (((hopen.append (tidy_intercalate hclasses)).append hquote.tidy).append h.tidy).append
    hclose.tidy

/-! ### Marked text -/

/-- **Writing pieces brings no two blanks together**, be it with the texts around them. -/
theorem blanksApart_render {pieces : List Piece} {s u : Text}
    (hpieces : ∀ surface singular, .keyword surface singular ∈ pieces →
      BlankFree surface ∧ ∀ s ∈ singular, BlankFree s)
    (h : BlanksApart (s ++ (covered pieces ++ u))) :
    BlanksApart (s ++ (pieces.flatMap Piece.render ++ u)) := by
  induction pieces generalizing s with
  | nil => exact h
  | cons p pieces ih =>
    have hbehind : ∀ surface singular, .keyword surface singular ∈ pieces →
        BlankFree surface ∧ ∀ s ∈ singular, BlankFree s := fun surface singular hmem =>
      hpieces surface singular (List.mem_cons_of_mem p hmem)
    rw [covered_cons, List.append_assoc] at h
    rw [List.flatMap_cons, List.append_assoc]
    cases p with
    | plain c =>
      -- The character stands between the same texts as before.
      have hc : BlanksApart (s ++ [c] ++ (covered pieces ++ u)) := by rwa [List.append_assoc]
      have hwritten := ih hbehind hc
      rwa [List.append_assoc] at hwritten
    | keyword surface singular =>
      obtain ⟨hsurface, hsingular⟩ := hpieces surface singular List.mem_cons_self
      have htidy := Piece.tidy_render_keyword hsurface hsingular
      have hne : (Piece.keyword surface singular).render ≠ [] :=
        List.append_ne_nil_of_right_ne_nil _ (by decide)
      obtain ⟨hs, hrest, -⟩ := blanksApart_append.1 h
      have hwritten := ih (s := []) hbehind (blanksApart_append.1 hrest).2.1
      refine blanksApart_append.2 ⟨hs, htidy.blanksApart_append hwritten, fun _ _ d hd _ => ?_⟩
      rw [List.head?_append_of_ne_nil _ hne] at hd
      exact htidy.front d hd

namespace Matcher

/-- No keyword and no singular has a blank in it. -/
def BlankFree (m : Matcher) : Prop := ∀ e ∈ m.entries, ∀ b, isBlank b = true → e.Lacks b

theorem blankFree_ofKeywords {keywords : List Text} {irregularPlurals : List (Text × Text)}
    (h : ∀ k ∈ keywords, Text.BlankFree k) (h' : ∀ e ∈ irregularPlurals, Text.BlankFree e.2) :
    (ofKeywords keywords irregularPlurals).BlankFree := fun e he _ hb =>
  lacks_ofKeywords (isWordChar_of_isBlank hb) (fun k hk => (h k hk).not_mem hb)
    (fun p hp => (h' p hp).not_mem hb) e he

theorem BlankFree.of_mem_pieces {m : Matcher} (hm : m.BlankFree) {t surface : Text}
    {singular : Option Text} (h : .keyword surface singular ∈ m.pieces t) :
    Text.BlankFree surface ∧ ∀ s ∈ singular, Text.BlankFree s := by
  obtain ⟨text, hin⟩ := exists_scan_of_mem_pieces h
  obtain ⟨e, he, hspelled⟩ := spelled_of_mem_scan hin
  have hlacks : ∀ b, isBlank b = true → b ∉ surface ∧ ∀ s ∈ singular, b ∉ s := fun b hb =>
    (hm e he b hb).spelled (isWordChar_of_isBlank hb) hspelled
  exact ⟨.of_not_mem fun b hb => (hlacks b hb).1,
    fun s hs => .of_not_mem fun b hb => (hlacks b hb).2 s hs⟩

/-- **Marking keeps blanks apart**, also from those of the texts around. -/
theorem BlankFree.blanksApart_highlight {m : Matcher} (hm : m.BlankFree) {s t u : Text}
    (h : BlanksApart (s ++ (t ++ u))) : BlanksApart (s ++ (m.highlight t ++ u)) := by
  rw [highlight_eq_pieces]
  rw [← covered_pieces m t] at h
  exact blanksApart_render (fun _ _ => hm.of_mem_pieces) h

end Matcher

end Cardwright
