import Cardwright.Proofs.Markup.CaseFree

/-!
# Which words are keywords, and the classes they carry

A word is a keyword of a matcher if it is, as a whole, a form of one of the nonempty words in its
list (`Matcher.isKeyword_iff_forms`).  The matcher asks for the first entry at the front of the
word only and then compares lengths.  That is enough because what it finds is the longest form
there, and the whole word, if it is a form, is longer than any other.

The singular of an irregular plural is looked up by the raised spelling of the keyword, so its class
is settled by what the irregular plurals have for that spelling
(`Matcher.render_keyword_of_mem_pieces`).  Their keys are not raised themselves: one that is spelled
otherwise is never found, even if the list has the keyword in the same spelling.
-/

namespace Cardwright

open Text

namespace Matcher

variable {keywords : List Text} {irregularPlurals : List (Text × Text)}

/-! ### Whole words -/

/-- A whole word is the longest form at its own front, if it is a form. -/
theorem isKeyword_iff_isForm {word : Text} :
    (ofKeywords keywords irregularPlurals).isKeyword word = true ↔
      IsForm (sought keywords) word := by
  constructor
  · intro h
    unfold isKeyword at h
    split at h
    · next hit hhit =>
      obtain ⟨surface, rest, rfl, hlength, hlongest⟩ := longestForm_of_hit? hhit
      -- What is found is as long as the word, so nothing is left behind it.
      have hwhole : hit.length = (surface ++ rest).length := by simpa using h
      rw [hlength, List.length_append, Nat.left_eq_add, List.length_eq_zero_iff] at hwhole
      rw [hwhole, List.append_nil]
      exact hlongest.form
    · cases h
  · intro h
    have hform : FormAt (sought keywords) word word := ⟨h, [], (List.append_nil word).symm, rfl⟩
    have hfound : (ofKeywords keywords irregularPlurals).hit? word ≠ none := fun hnone =>
      hit?_ofKeywords_eq_none_iff.1 hnone word hform
    obtain ⟨hit, hhit⟩ := Option.ne_none_iff_exists'.1 hfound
    obtain ⟨surface, rest, heq, hlength, hlongest⟩ := longestForm_of_hit? hhit
    have hge : word.length ≤ surface.length := hlongest.longest word (heq ▸ hform)
    have hle : surface.length ≤ word.length := by
      rw [heq, List.length_append]
      omega
    rw [isKeyword, hhit, beq_iff_eq, hlength]
    exact Nat.le_antisymm hle hge

/-- **A word is a keyword exactly if it is one of the nonempty words, or one with an "s" behind it,
in any case of the letters.** -/
theorem isKeyword_iff_forms (keywords : List Text) (irregularPlurals : List (Text × Text))
    (word : Text) :
    (ofKeywords keywords irregularPlurals).isKeyword word = true ↔
      ∃ k ∈ keywords, k ≠ [] ∧ (EqIgnoringCase word k ∨ EqIgnoringCase word (k ++ ['s'])) := by
  rw [isKeyword_iff_isForm]
  constructor
  · rintro ⟨k, hk, hform⟩
    obtain ⟨hmem, hne⟩ := mem_sought.1 hk
    exact ⟨k, hmem, hne, hform.imp EqIgnoringCase.symm EqIgnoringCase.symm⟩
  · rintro ⟨k, hmem, hne, hform⟩
    exact ⟨k, mem_sought.2 ⟨hmem, hne⟩, hform.imp EqIgnoringCase.symm EqIgnoringCase.symm⟩

/-- Neither a keyword that begins another one nor one that ends in "s" hides a longer form. -/
example :
    let m := ofKeywords ["HEAL", "", "Health", "a-b", "heals"] []
    ["healths", "heals", "healss", "A-BS", "healthy", "s"].map (m.isKeyword ·.toList) =
      [true, true, true, true, false, false] := by
  cbv

/-! ### Singulars -/

/-- A marked word is the longest form of a keyword at its place. -/
theorem longestForm_of_mem_pieces {t surface : Text} {singular : Option Text}
    (h : .keyword surface singular ∈ (ofKeywords keywords irregularPlurals).pieces t) :
    surface ≠ [] ∧
      ∃ rest, LongestForm (sought keywords) irregularPlurals surface singular rest := by
  obtain ⟨text, hin⟩ := exists_scan_of_mem_pieces h
  obtain ⟨front, back, heq⟩ := List.append_of_mem hin
  have hplace := (annotates_scan text).placed front _ back heq
  exact ⟨hplace.surface_ne_nil, _, hplace.2⟩

/-- **The singular of a keyword goes by its raised spelling.**  Of the pieces that a text is written
in, those that are a keyword in some case of the letters carry the class of the singular that the
irregular plurals have for its raised spelling, and no second class if they have none. -/
theorem render_keyword_of_mem_pieces (irregularPlurals : List (Text × Text)) {w : Text}
    (hw : w ∈ keywords) (t : Text) :
    let m := ofKeywords keywords irregularPlurals
    m.highlight t = (m.pieces t).flatMap Piece.render ∧ covered (m.pieces t) = t ∧
    ∀ surface singular, .keyword surface singular ∈ m.pieces t → EqIgnoringCase w surface →
      (Piece.keyword surface singular).render =
        "<span class=\"" ++
          [' '].intercalate (spanClasses surface (irregularPlurals.lookup (upperAscii w))) ++
          "\">" ++ surface ++ "</span>" := by
  intro m
  refine ⟨highlight_eq_pieces m t, covered_pieces m t, fun surface singular hmem heq => ?_⟩
  obtain ⟨hne, rest, hlongest⟩ := longestForm_of_mem_pieces hmem
  have hsought : w ∈ sought keywords := by
    refine mem_sought.2 ⟨hw, ?_⟩
    rintro rfl
    exact hne heq.eq_nil
  rw [Piece.render_keyword, hlongest.exact w hsought heq]

/-- A keyword with a raised key and another one, next to a tag and to a keyword in its front. -/
theorem render_keyword_of_mem_pieces_mice :
    let irregularPlurals : List (Text × Text) := [("MICE", "Mouse"), ("Mice", "Rat")]
    let m := ofKeywords ["mic", "Mice"] irregularPlurals
    ("Mice".toList ∈ ["mic".toList, "Mice".toList] ∧
      .keyword "mICE" (some "Mouse") ∈ m.pieces "<b>mICE</b>" ∧ EqIgnoringCase "Mice" "mICE") ∧
    m.highlight "<b>mICE</b>" = (m.pieces "<b>mICE</b>").flatMap Piece.render ∧
    (Piece.keyword "mICE" (some "Mouse")).render =
      "<span class=\"" ++
        [' '].intercalate (spanClasses "mICE" (irregularPlurals.lookup (upperAscii "Mice"))) ++
        "\">" ++ "mICE" ++ "</span>" ∧
    spanClasses "mICE" (irregularPlurals.lookup (upperAscii "Mice")) =
      ["keyword-Mice".toList, "keyword-Mouse".toList] := by
  have hw : "Mice".toList ∈ ["mic".toList, "Mice".toList] := by decide
  have hpieces :
      (ofKeywords ["mic", "Mice"] [("MICE", "Mouse"), ("Mice", "Rat")]).pieces "<b>mICE</b>" =
        [.plain '<', .plain 'b', .plain '>', .keyword "mICE" (some "Mouse"),
          .plain '<', .plain '/', .plain 'b', .plain '>'] := by
    cbv
  have hmem : .keyword "mICE" (some "Mouse") ∈
      (ofKeywords ["mic", "Mice"] [("MICE", "Mouse"), ("Mice", "Rat")]).pieces "<b>mICE</b>" := by
    rw [hpieces]
    simp
  have heq : EqIgnoringCase "Mice" "mICE" := by decide
  have hclasses :=
    render_keyword_of_mem_pieces [("MICE", "Mouse"), ("Mice", "Rat")] hw "<b>mICE</b>"
  exact ⟨⟨hw, hmem, heq⟩, hclasses.1, hclasses.2.2 _ _ hmem heq, by decide⟩

/-- A key of the irregular plurals that is not raised is not found, though the keyword is spelled
the same: it is marked as if it were no plural. -/
theorem not_singular_of_unraised_key :
    ¬ ∀ (keywords : List Text) (irregularPlurals : List (Text × Text)) (w s : Text),
      w ∈ keywords → irregularPlurals.lookup w = some s →
      ∀ t surface singular,
        .keyword surface singular ∈ (ofKeywords keywords irregularPlurals).pieces t →
        EqIgnoringCase w surface → (spanClasses surface singular)[1]? = some (keywordClass s) := by
  intro h
  have hpieces : (ofKeywords ["Mice"] [("Mice", "Mouse")]).pieces "mice" =
      [.keyword "mice" none] := by
    cbv
  have hsecond := h ["Mice"] [("Mice", "Mouse")] "Mice" "Mouse" (by decide) (by decide)
    "mice" "mice" none (by rw [hpieces]; simp) (by decide)
  cases hsecond

end Matcher

end Cardwright
