import Cardwright.Lint
import Cardwright.Proofs.Markup.Keyword
import Cardwright.Proofs.Markup.Seam
import Cardwright.Proofs.Text.Tidy

/-!
# Keywords in the words of names

The linter looks for keywords in the phrases that names are put together from.  It cuts a phrase
into words at its blanks and asks of each one whether it is a keyword as a whole; highlighting goes
over the phrase in one and finds keywords where words begin and end.  Where keywords and phrase are
spelled in word characters the two agree: the linter finds a keyword exactly if highlighting changes
the phrase (`Lint.finds_keyword_iff_highlight_ne`).

A blank belongs to no word and to no such keyword, so the scan breaks there as the words do
(`Matcher.hasKeyword_scan_iff`).  Between two blanks a keyword can begin at the front only and end
at the end only, so it is the whole word (`Matcher.hasKeyword_scan_word_iff`).  And pieces with a
keyword among them are longer when they are written than the text that they cover
(`flatMap_render_ne_iff`).
-/

namespace Cardwright

open Text

/-! ### Word characters and blanks -/

namespace Text

/-- A text of word characters. -/
def Wordy (t : Text) : Prop := ∀ c ∈ t, isWordChar c = true

instance : DecidablePred Wordy := fun t =>
  decidable_of_iff (t.all isWordChar = true) List.all_eq_true

/-- A text of word characters and blanks. -/
def Spaced (t : Text) : Prop := ∀ c ∈ t, isWordChar c = true ∨ isBlank c = true

instance : DecidablePred Spaced := fun t =>
  decidable_of_iff (t.all (fun c => isWordChar c || isBlank c) = true)
    (by simp only [Spaced, List.all_eq_true, Bool.or_eq_true])

theorem Wordy.upperAscii {t : Text} (h : Wordy t) : Wordy (upperAscii t) := by
  intro c hc
  obtain ⟨d, hd, rfl⟩ := List.mem_map.1 hc
  rw [isWordChar_congr (Char.toLower_toUpper_eq_toLower d)]
  exact h d hd

end Text

/-! ### Pieces with a keyword -/

/-- A keyword is among the pieces. -/
def HasKeyword (pieces : List Piece) : Prop :=
  ∃ surface singular, .keyword surface singular ∈ pieces

theorem not_hasKeyword_nil : ¬ HasKeyword [] := by simp [HasKeyword]

theorem hasKeyword_append {pieces others : List Piece} :
    HasKeyword (pieces ++ others) ↔ HasKeyword pieces ∨ HasKeyword others := by
  simp only [HasKeyword, List.mem_append, exists_or]

theorem hasKeyword_plain_cons {c : Char} {pieces : List Piece} :
    HasKeyword (.plain c :: pieces) ↔ HasKeyword pieces := by
  simp [HasKeyword]

theorem hasKeyword_keyword_cons (surface : Text) (singular : Option Text) (pieces : List Piece) :
    HasKeyword (.keyword surface singular :: pieces) :=
  ⟨surface, singular, List.mem_cons_self⟩

theorem not_hasKeyword_map_plain (t : Text) : ¬ HasKeyword (t.map .plain) := by
  simp [HasKeyword]

/-- A keyword takes up more room when it is written. -/
theorem length_surface_lt_render (surface : Text) (singular : Option Text) :
    surface.length < (Piece.keyword surface singular).render.length := by
  have hclose : closingTag.length = 7 := by decide
  rw [Piece.render, List.length_append, List.length_append, hclose]
  omega

theorem length_covered_le (pieces : List Piece) :
    (covered pieces).length ≤ (pieces.flatMap Piece.render).length := by
  induction pieces with
  | nil => exact le_rfl
  | cons p pieces ih =>
    rw [covered_cons, List.flatMap_cons, List.length_append, List.length_append]
    cases p with
    | plain c => exact Nat.add_le_add_left ih _
    | keyword surface singular =>
      exact Nat.add_le_add (length_surface_lt_render surface singular).le ih

/-- **Pieces are written as the text that they cover, unless a keyword is among them.** -/
theorem flatMap_render_ne_iff {pieces : List Piece} :
    pieces.flatMap Piece.render ≠ covered pieces ↔ HasKeyword pieces := by
  induction pieces with
  | nil => exact ⟨fun h => absurd rfl h, fun h => absurd h not_hasKeyword_nil⟩
  | cons p pieces ih =>
    cases p with
    | plain c =>
      rw [hasKeyword_plain_cons, ← ih, covered_cons, List.flatMap_cons]
      exact not_congr (List.append_right_inj [c])
    | keyword surface singular =>
      refine iff_of_true (fun heq => ?_) (hasKeyword_keyword_cons surface singular pieces)
      have hlength := congrArg List.length heq
      rw [covered_cons, List.flatMap_cons, List.length_append, List.length_append] at hlength
      have hlt := length_surface_lt_render surface singular
      have hle := length_covered_le pieces
      rw [Piece.surface] at hlength
      omega

/-! ### The scan of a phrase -/

namespace Matcher

variable {keywords : List Text} {irregularPlurals : List (Text × Text)}

/-- Inside a word no keyword begins. -/
theorem scan_true_of_wordy {m : Matcher} {w : Text} (hw : Wordy w) :
    m.scan true w = w.map .plain := by
  induction w with
  | nil => rw [scan_nil, List.map_nil]
  | cons c w ih =>
    obtain ⟨hc, hw⟩ := List.forall_mem_cons.1 hw
    rw [scan_pass (by rw [Bool.not_true, Bool.and_false]), hc, ih hw, List.map_cons]

/-- **A keyword is found in a single word exactly if the word is one as a whole.** -/
theorem hasKeyword_scan_word_iff {w : Text} (hw : Wordy w) (hne : w ≠ []) :
    HasKeyword ((ofKeywords keywords irregularPlurals).scan false w) ↔
      (ofKeywords keywords irregularPlurals).isKeyword w = true := by
  obtain ⟨c, t, rfl⟩ := List.exists_cons_of_ne_nil hne
  obtain ⟨hc, ht⟩ := List.forall_mem_cons.1 hw
  rw [isKeyword_iff_isForm]
  cases hhit : (ofKeywords keywords irregularPlurals).hit? (c :: t) with
  | none =>
    rw [scan_miss hc hhit, hasKeyword_plain_cons, scan_true_of_wordy ht]
    refine iff_of_false (not_hasKeyword_map_plain t) fun hform => ?_
    exact hit?_ofKeywords_eq_none_iff.1 hhit (c :: t)
      ⟨hform, [], (List.append_nil _).symm, rfl⟩
  | some hit =>
    obtain ⟨surface, rest, heq, hlength, hlongest⟩ := longestForm_of_hit? hhit
    -- All of the word are word characters, so the keyword does not end before it.
    have hrest : rest = [] := by
      cases rest with
      | nil => rfl
      | cons d rest =>
        have hd : isWordChar d = true := hw d (by rw [heq]; simp)
        have hends := hlongest.ends
        rw [atWordEnd, hd] at hends
        cases hends
    rw [hrest, List.append_nil] at heq
    obtain rfl := heq
    have hscan : (ofKeywords keywords irregularPlurals).scan false ((c :: t) ++ []) =
        .keyword (c :: t) hit.singular :: (ofKeywords keywords irregularPlurals).scan true [] :=
      scan_hit ⟨c, rfl, hc⟩ (by rw [List.append_nil]; exact hhit) hlength
    rw [List.append_nil] at hscan
    rw [hscan]
    exact iff_of_true (hasKeyword_keyword_cons _ _ _) hlongest.form

theorem wordy_keywords (hk : ∀ k ∈ keywords, Wordy k) :
    ∀ w ∈ (ofKeywords keywords irregularPlurals).keywords, Wordy w := by
  intro w hw
  obtain ⟨k, hk', rfl⟩ := mem_keywords_ofKeywords.1 hw
  exact (hk k (mem_sought.1 hk').1).upperAscii

/-- **A keyword is found in a phrase exactly if one of its words is a keyword.** -/
theorem hasKeyword_scan_iff (hk : ∀ k ∈ keywords, Wordy k) {phrase : Text} (h : Spaced phrase) :
    HasKeyword ((ofKeywords keywords irregularPlurals).scan false phrase) ↔
      ∃ word ∈ words phrase, (ofKeywords keywords irregularPlurals).isKeyword word = true := by
  refine blank_induction (P := fun phrase => Spaced phrase →
    (HasKeyword ((ofKeywords keywords irregularPlurals).scan false phrase) ↔
      ∃ word ∈ words phrase, (ofKeywords keywords irregularPlurals).isKeyword word = true))
    ?_ ?_ phrase h
  · intro w hblank hw
    have hwordy : Wordy w := fun c hc => (hw c hc).resolve_right (by simp [hblank c hc])
    by_cases hne : w = []
    · rw [hne, scan_nil, words]
      simp [not_hasKeyword_nil]
    · have hwords : words w = [w] := by
        have hfirst := words_append ⟨hne, hblank⟩ (t := []) (by simp [EndsWord])
        simpa [words] using hfirst
      rw [hwords, hasKeyword_scan_word_iff hwordy hne]
      simp
  · intro s b t hb hs ht hspaced
    obtain ⟨hleft, hright⟩ := List.forall_mem_append.1 hspaced
    have hbreak : isWordChar b = false := isWordChar_of_isBlank hb
    have hnone : ∀ w ∈ (ofKeywords keywords irregularPlurals).keywords, b ∉ w := by
      intro w hw hmem
      rw [wordy_keywords hk w hw b hmem] at hbreak
      cases hbreak
    rw [scan_append_break hbreak hnone, words_append_blank hb, hasKeyword_append,
      hasKeyword_plain_cons, hs hleft, ht fun c hc => hright c (List.mem_cons_of_mem _ hc)]
    simp only [List.mem_append, or_and_right, exists_or]

/-- Highlighting changes a phrase exactly if one of its words is a keyword. -/
theorem exists_keyword_iff_highlight_ne (hk : ∀ k ∈ keywords, Wordy k) {phrase : Text}
    (h : Spaced phrase) :
    (∃ word ∈ words phrase, (ofKeywords keywords irregularPlurals).isKeyword word = true) ↔
      (ofKeywords keywords irregularPlurals).highlight phrase ≠ phrase := by
  have hbracket : '<' ∉ phrase := fun hmem => absurd (h '<' hmem) (by decide)
  rw [highlight_eq_pieces, pieces_of_not_mem hbracket, ← hasKeyword_scan_iff hk h,
    ← flatMap_render_ne_iff, covered_scan]

end Matcher

/-! ### The linter -/

namespace Lint

/-- The linter finds a keyword in a phrase if one of its words is one. -/
theorem exists_keywordIn?_iff {m : Matcher} {phrase : Text} :
    (∃ word, keywordIn? m phrase = some word) ↔
      ∃ word ∈ words phrase, m.isKeyword word = true := by
  rw [← Option.isSome_iff_exists, keywordIn?, List.find?_isSome]

/-- The linter finds a keyword in a phrase of a pool, and its report on the tables says so. -/
def FindsKeyword (t : Tables) (m : Matcher) (p : NamedPool) (phrase : Text) : Prop :=
  ∃ word, keywordIn? m phrase = some word ∧
    "Pool '" ++ p.1 ++ "' word '" ++ phrase ++ "' contains keyword '" ++ word ++ "'" ∈
      (t.lint m).warnings

/-- What is found in a phrase of a pool is reported. -/
theorem findsKeyword_iff {t : Tables} {m : Matcher} {p : NamedPool} {phrase : Text}
    (hp : p ∈ pools t.naming) (hphrase : phrase ∈ p.2) :
    FindsKeyword t m p phrase ↔ ∃ word ∈ words phrase, m.isKeyword word = true := by
  rw [← exists_keywordIn?_iff]
  refine exists_congr fun word => and_iff_left_of_imp fun hword => ?_
  have hfound : "Pool '" ++ p.1 ++ "' word '" ++ phrase ++ "' contains keyword '" ++ word ++ "'" ∈
      keywordPhrases m p :=
    List.mem_filterMap.2 ⟨phrase, hphrase, by rw [hword, Option.map_some]⟩
  exact List.mem_append_right _ (List.mem_flatMap.2 ⟨p, hp, List.mem_append_right _ hfound⟩)

/-- **The linter and highlighting agree on keywords.**  Let the keywords of some tables be spelled
in word characters, and a phrase in word characters and blanks.  A word of the phrase is a keyword
exactly if highlighting changes the phrase; and if the phrase stands in a pool of the tables, the
linter finds a keyword in it, and says so, exactly then. -/
theorem finds_keyword_iff_highlight_ne {t : Tables} (hk : ∀ k ∈ t.keywords, Wordy k)
    {phrase : Text} (h : Spaced phrase) :
    ((∃ word ∈ words phrase, (Matcher.ofTables t).isKeyword word = true) ↔
      (Matcher.ofTables t).highlight phrase ≠ phrase) ∧
    ∀ p ∈ pools t.naming, phrase ∈ p.2 →
      (FindsKeyword t (.ofTables t) p phrase ↔
        (Matcher.ofTables t).highlight phrase ≠ phrase) := by
  have hagree : (∃ word ∈ words phrase, (Matcher.ofTables t).isKeyword word = true) ↔
      (Matcher.ofTables t).highlight phrase ≠ phrase :=
    Matcher.exists_keyword_iff_highlight_ne hk h
  exact ⟨hagree, fun p hp hphrase => (findsKeyword_iff hp hphrase).trans hagree⟩

/-- A plural behind a wide blank, with a word in front that only begins like a keyword. -/
theorem finds_keyword_iff_highlight_ne_tide :
    let phrase : Text := "tidemark_1\tof\u2003Heals"
    let t : Tables :=
      { Tables.bundled with
        keywords := ["HEAL", "", "Health", "tide"]
        naming := { Bundled.naming with flavorWords := [phrase] } }
    let p : NamedPool := ("flavor_words", [phrase])
    ((∀ k ∈ t.keywords, Wordy k) ∧ Spaced phrase ∧ p ∈ pools t.naming ∧ phrase ∈ p.2) ∧
    ((∃ word ∈ words phrase, (Matcher.ofTables t).isKeyword word = true) ↔
      (Matcher.ofTables t).highlight phrase ≠ phrase) ∧
    (FindsKeyword t (.ofTables t) p phrase ↔ (Matcher.ofTables t).highlight phrase ≠ phrase) ∧
    (Matcher.ofTables t).highlight phrase ≠ phrase := by
  intro phrase t p
  have hk : ∀ k ∈ t.keywords, Wordy k := by decide
  have h : Spaced phrase := by decide
  have hp : p ∈ pools t.naming := by simp [pools, p, t]
  have hphrase : phrase ∈ p.2 := List.mem_singleton_self phrase
  obtain ⟨hwords, hpools⟩ := finds_keyword_iff_highlight_ne hk h
  refine ⟨⟨hk, h, hp, hphrase⟩, hwords, hpools p hp hphrase, hwords.1 ⟨"Heals".toList, ?_, ?_⟩⟩
  · decide
  · exact (Matcher.isKeyword_iff_forms _ _ _).2 ⟨"HEAL", by decide, by decide, by decide⟩

end Lint

end Cardwright
