import Cardwright.Markup.Keyword
import Cardwright.Proofs.Text.Ascii

/-!
# The keyword at the front of a text

An entry is found at the front of a text exactly if the text begins with a spelling of it, behind
which a word ends (`KeywordEntry.hit?_eq_some_iff`).

A matcher takes the first of its entries that is found.  Since the entries of `Matcher.ofKeywords`
are in the order of their lengths, what it takes is the longest form of a keyword there
(`longestForm_of_hit?`), and it finds nothing only if there is no form of a keyword
(`hit?_ofKeywords_eq_none_iff`).

The order is by the lengths of the keywords, not of their forms.  It settles the forms as well,
because two of them that begin one text can differ by an "s" only where the shorter one does not end
a word.
-/

namespace Cardwright

open Text

/-! ### One entry -/

theorem pluralEnding_iff {t : Text} :
    pluralEnding t = true ↔ ∃ c rest, t = c :: rest ∧ c.toLower = 's' ∧ atWordEnd rest = true := by
  cases t with
  | nil => simp [pluralEnding]
  | cons c t => simp [pluralEnding]

/-- A text spells an entry as it is, or with a plural ending; with it goes a singular. -/
def KeywordEntry.Spelled (e : KeywordEntry) (surface : Text) (singular : Option Text) : Prop :=
  EqIgnoringCase e.word surface ∧ singular = e.singular ∨
    EqIgnoringCase (e.word ++ ['s']) surface ∧ singular = some e.word

/-- An entry is found exactly where a spelling of it stands in front of the end of a word. -/
theorem KeywordEntry.hit?_eq_some_iff {e : KeywordEntry} {t : Text} {hit : Hit} :
    e.hit? t = some hit ↔ ∃ surface rest, t = surface ++ rest ∧ atWordEnd rest = true ∧
      hit.length = surface.length ∧ e.Spelled surface hit.singular := by
  constructor
  · intro h
    unfold hit? at h
    split at h
    · cases h
    · next rest hrest =>
      obtain ⟨spelling, hspelling, rfl⟩ := afterStartIgnoringCase?_eq_some_iff.1 hrest
      split_ifs at h with hplural hends
      · obtain ⟨c, rest, rfl, hc, hends⟩ := pluralEnding_iff.1 hplural
        obtain rfl := Option.some.inj h
        refine ⟨spelling ++ [c], rest, by simp, hends, by simp [hspelling.length_eq], ?_⟩
        have hs : EqIgnoringCase ['s'] [c] := congrArg (· :: []) hc.symm
        exact Or.inr ⟨hspelling.append hs, rfl⟩
      · obtain rfl := Option.some.inj h
        exact ⟨spelling, rest, rfl, hends, hspelling.length_eq, Or.inl ⟨hspelling, rfl⟩⟩
  · rintro ⟨surface, rest, rfl, hends, hlength, ⟨hspelled, hsingular⟩ | ⟨hspelled, hsingular⟩⟩
    · -- Where a word ends no "s" stands.
      have hplural : ¬ pluralEnding rest = true := by
        intro hplural
        obtain ⟨c, rest, rfl, hc, -⟩ := pluralEnding_iff.1 hplural
        rw [atWordEnd, isWordChar_of_toLower_eq_s hc] at hends
        cases hends
      have hrest : afterStartIgnoringCase? e.word (surface ++ rest) = some rest :=
        afterStartIgnoringCase?_eq_some_iff.2 ⟨surface, hspelled, rfl⟩
      rw [hit?, hrest]
      simp only [hplural, hends, if_true, if_false, Bool.false_eq_true]
      rw [hspelled.length_eq, ← hlength, ← hsingular]
    · obtain ⟨spelling, c, rfl, hspelling, hc⟩ := hspelled.exists_append_s
      have hplural : pluralEnding (c :: rest) = true := pluralEnding_iff.2 ⟨c, rest, rfl, hc, hends⟩
      have hrest : afterStartIgnoringCase? e.word (spelling ++ [c] ++ rest) = some (c :: rest) :=
        afterStartIgnoringCase?_eq_some_iff.2 ⟨spelling, hspelling, by simp⟩
      rw [hit?, hrest]
      have hsame : spelling.length + 1 = hit.length := by rw [hlength]; simp
      simp only [hplural, if_true]
      rw [hspelling.length_eq, hsame, ← hsingular]

/-- An entry that a text spells with the end of a word behind it is found there. -/
theorem KeywordEntry.Spelled.hit?_ne_none {e : KeywordEntry} {surface rest : Text}
    {singular : Option Text} (h : e.Spelled surface singular) (hends : atWordEnd rest = true) :
    e.hit? (surface ++ rest) ≠ none := by
  have hhit : e.hit? (surface ++ rest) = some ⟨surface.length, singular⟩ :=
    KeywordEntry.hit?_eq_some_iff.2 ⟨surface, rest, rfl, hends, rfl, h⟩
  rw [hhit]
  exact Option.some_ne_none _

/-! ### Forms of keywords -/

/-- A keyword, or a keyword with an "s" behind it, in any case of the letters. -/
def IsForm (keywords : List Text) (surface : Text) : Prop :=
  ∃ k ∈ keywords, EqIgnoringCase k surface ∨ EqIgnoringCase (k ++ ['s']) surface

/-- A form of a keyword begins a text and ends where a word ends. -/
def FormAt (keywords : List Text) (surface t : Text) : Prop :=
  IsForm keywords surface ∧ ∃ rest, t = surface ++ rest ∧ atWordEnd rest = true

/-- The longest form of a keyword that begins the text `surface ++ rest`, and its singular.  For a
keyword that is the one that the irregular plurals have for it, if any; for another form it is the
keyword that it is the plural of. -/
structure LongestForm (keywords : List Text) (irregularPlurals : List (Text × Text))
    (surface : Text) (singular : Option Text) (rest : Text) : Prop where
  form : IsForm keywords surface
  ends : atWordEnd rest = true
  longest : ∀ other, FormAt keywords other (surface ++ rest) → other.length ≤ surface.length
  exact : ∀ k ∈ keywords, EqIgnoringCase k surface →
    singular = irregularPlurals.lookup (upperAscii k)
  plural : (∀ k ∈ keywords, ¬ EqIgnoringCase k surface) →
    ∃ k ∈ keywords, EqIgnoringCase (k ++ ['s']) surface ∧ singular = some (upperAscii k)

/-! ### The entries of a list of keywords -/

namespace Matcher

/-- The keywords that a matcher looks for: all but the empty ones. -/
def sought (keywords : List Text) : List Text := keywords.filter fun k => !k.isEmpty

theorem mem_sought {keywords : List Text} {k : Text} :
    k ∈ sought keywords ↔ k ∈ keywords ∧ k ≠ [] := by
  simp [sought]

variable {keywords : List Text} {irregularPlurals : List (Text × Text)}

theorem mem_entries_ofKeywords {e : KeywordEntry} :
    e ∈ (ofKeywords keywords irregularPlurals).entries ↔
      ∃ k ∈ sought keywords, e = ⟨upperAscii k, irregularPlurals.lookup (upperAscii k)⟩ := by
  have hempty : ∀ k : Text, upperAscii k = [] ↔ k = [] := fun k => by simp [upperAscii]
  simp only [ofKeywords, List.mem_mergeSort, List.mem_map, List.mem_filter, mem_sought]
  constructor
  · rintro ⟨w, ⟨⟨k, hk, rfl⟩, hne⟩, rfl⟩
    exact ⟨k, ⟨hk, by simpa [hempty] using hne⟩, rfl⟩
  · rintro ⟨k, ⟨hk, hne⟩, rfl⟩
    exact ⟨upperAscii k, ⟨⟨k, hk, rfl⟩, by simpa [hempty] using hne⟩, rfl⟩

/-- The longer of two entries comes first. -/
theorem pairwise_entries_ofKeywords :
    (ofKeywords keywords irregularPlurals).entries.Pairwise
      fun a b => byteLength b.word ≤ byteLength a.word := by
  let le (a b : KeywordEntry) : Bool := decide (byteLength b.word ≤ byteLength a.word)
  have htrans : ∀ a b c, le a b → le b c → le a c := by
    intro a b c hab hbc
    simp only [le, decide_eq_true_eq] at *
    omega
  have htotal : ∀ a b, le a b || le b a := by
    intro a b
    simp only [le, Bool.or_eq_true, decide_eq_true_eq]
    omega
  unfold ofKeywords
  simpa [le] using List.pairwise_mergeSort htrans htotal _

theorem isForm_iff_spelled {surface : Text} :
    IsForm (sought keywords) surface ↔
      ∃ e ∈ (ofKeywords keywords irregularPlurals).entries, ∃ s, e.Spelled surface s := by
  have hs : EqIgnoringCase ['s'] ['s'] := .refl _
  constructor
  · rintro ⟨k, hk, hform⟩
    refine ⟨_, mem_entries_ofKeywords.2 ⟨k, hk, rfl⟩, ?_⟩
    have hupper := eqIgnoringCase_upperAscii k
    rcases hform with hform | hform
    · exact ⟨_, Or.inl ⟨hupper.trans hform, rfl⟩⟩
    · exact ⟨_, Or.inr ⟨(hupper.append hs).trans hform, rfl⟩⟩
  · rintro ⟨e, he, s, hspelled⟩
    obtain ⟨k, hk, rfl⟩ := mem_entries_ofKeywords.1 he
    have hupper := (eqIgnoringCase_upperAscii k).symm
    rcases hspelled with ⟨hspelled, -⟩ | ⟨hspelled, -⟩
    · exact ⟨k, hk, Or.inl (hupper.trans hspelled)⟩
    · exact ⟨k, hk, Or.inr ((hupper.append hs).trans hspelled)⟩

end Matcher

/-! ### Characters that no keyword has -/

section Lacking

variable {c : Char} {e : KeywordEntry} {surface : Text} {singular : Option Text}

/-- A spelling of an entry has no characters that are neither in the entry nor in words. -/
theorem KeywordEntry.Spelled.not_mem (h : e.Spelled surface singular) (hc : isWordChar c = false)
    (he : c ∉ e.word) : c ∉ surface := by
  have halpha := isAlpha_of_isWordChar_eq_false hc
  rcases h with ⟨hspelled, -⟩ | ⟨hspelled, -⟩
  · exact hspelled.not_mem halpha he
  · refine hspelled.not_mem halpha fun hmem => ?_
    rcases List.mem_append.1 hmem with hmem | hmem
    · exact he hmem
    · rw [List.mem_singleton.1 hmem] at halpha
      cases halpha

/-- A character stands neither in the keyword of an entry nor in its singular. -/
structure KeywordEntry.Lacks (e : KeywordEntry) (c : Char) : Prop where
  word : c ∉ e.word
  singular : ∀ s ∈ e.singular, c ∉ s

theorem KeywordEntry.Lacks.spelled (h : e.Lacks c) (hc : isWordChar c = false)
    (hspelled : e.Spelled surface singular) : c ∉ surface ∧ ∀ s ∈ singular, c ∉ s := by
  refine ⟨hspelled.not_mem hc h.word, ?_⟩
  rcases hspelled with ⟨-, rfl⟩ | ⟨-, rfl⟩
  · exact h.singular
  · intro s hs
    obtain rfl := Option.some.inj hs
    exact h.word

/-- Keywords and irregular plurals without a character make entries without it. -/
theorem Matcher.lacks_ofKeywords {keywords : List Text} {irregularPlurals : List (Text × Text)}
    (hc : isWordChar c = false) (h : ∀ k ∈ keywords, c ∉ k) (h' : ∀ e ∈ irregularPlurals, c ∉ e.2) :
    ∀ e ∈ (ofKeywords keywords irregularPlurals).entries, e.Lacks c := by
  intro e he
  obtain ⟨k, hk, rfl⟩ := mem_entries_ofKeywords.1 he
  refine ⟨?_, fun s hs => ?_⟩
  · exact (eqIgnoringCase_upperAscii k).symm.not_mem (isAlpha_of_isWordChar_eq_false hc)
      (h k (mem_sought.1 hk).1)
  · obtain ⟨before, behind, heq, -⟩ := List.lookup_eq_some_iff.1 hs
    exact h' (upperAscii k, s) (by rw [heq]; simp)

/-- The class of a word has no characters beyond those of the word but letters and a dash. -/
theorem not_mem_keywordClass {w : Text} (hc : isWordChar c = false) (hdash : c ≠ '-')
    (h : c ∉ w) : c ∉ keywordClass w := by
  have halpha := isAlpha_of_isWordChar_eq_false hc
  have hletters : "keyword-".toList.all (fun d => d == '-' || isWordChar d) = true := by decide
  have hstart : c ∉ "keyword-".toList := by
    intro hmem
    have hletter := List.all_eq_true.1 hletters c hmem
    rw [hc, Bool.or_false, beq_iff_eq] at hletter
    exact hdash hletter
  have hlower : EqIgnoringCase w (lowerAscii w) := by
    rw [EqIgnoringCase, lowerAscii, lowerAscii, List.map_map]
    exact List.map_congr_left fun d _ => (Char.toLower_toLower_eq_toLower d).symm
  unfold keywordClass
  intro hmem
  rcases List.mem_append.1 hmem with hin | hin
  · exact hstart hin
  · cases heq : lowerAscii w with
    | nil =>
      rw [heq] at hin
      cases hin
    | cons d t =>
      -- Raising the first letter once more brings in a letter at most.
      rw [heq] at hin hlower
      have hraised : EqIgnoringCase (d :: t) (d.toUpper :: t) :=
        EqIgnoringCase.cons_iff.2 ⟨(Char.toLower_toUpper_eq_toLower d).symm, .refl t⟩
      exact (hlower.trans hraised).not_mem halpha h hin

end Lacking

/-! ### What a matcher finds -/

namespace Matcher

variable {keywords : List Text} {irregularPlurals : List (Text × Text)}


/-- **The first entry that is found is the longest.**  Nothing longer than what it spells is spelled
by an entry behind it. -/
theorem length_le_of_spelled {e e' : KeywordEntry} {surface other rest : Text}
    {singular singular' : Option Text} (h : e.Spelled surface singular)
    (h' : e'.Spelled other singular') (hle : byteLength e'.word ≤ byteLength e.word)
    (hends : atWordEnd rest = true) (hother : other <+: surface ++ rest) :
    other.length ≤ surface.length := by
  by_contra hlonger
  -- What is longer has the surface in front, and goes on with what cannot belong to a word.
  obtain ⟨more, rfl⟩ := List.prefix_of_prefix_length_le (List.prefix_append surface rest) hother
    (by omega)
  obtain ⟨x, more, rfl⟩ := List.exists_cons_of_ne_nil (l := more) (by rintro rfl; simp at hlonger)
  obtain ⟨behind, rfl⟩ := (List.prefix_append_right_inj surface).1 hother
  have hx : 0 < x.utf8Size := Char.utf8Size_pos x
  have hsurface : byteLength e.word ≤ byteLength surface := by
    rcases h with ⟨hspelled, -⟩ | ⟨hspelled, -⟩
    · exact hspelled.byteLength_eq.le
    · rw [← hspelled.byteLength_eq, byteLength_append]
      omega
  rcases h' with ⟨hspelled, -⟩ | ⟨hspelled, -⟩
  · have hbytes := hspelled.byteLength_eq
    rw [byteLength_append, byteLength_cons] at hbytes
    omega
  · -- As a plural it has one byte more than its keyword, so the "s" is right behind the surface.
    have hbytes := hspelled.byteLength_eq
    rw [byteLength_append, byteLength_append, byteLength_cons x] at hbytes
    have hs : byteLength ['s'] = 1 := rfl
    obtain rfl : more = [] := eq_nil_of_byteLength_eq_zero (by omega)
    obtain ⟨v, c, heq, -, hc⟩ := hspelled.exists_append_s
    obtain ⟨-, heq⟩ := List.append_inj' heq rfl
    obtain rfl := (List.cons.inj heq).1
    rw [List.cons_append, atWordEnd, isWordChar_of_toLower_eq_s hc] at hends
    cases hends

/-- **What a matcher finds is the longest form of a keyword.** -/
theorem longestForm_of_hit? {t : Text} {hit : Hit}
    (h : (ofKeywords keywords irregularPlurals).hit? t = some hit) :
    ∃ surface rest, t = surface ++ rest ∧ hit.length = surface.length ∧
      LongestForm (sought keywords) irregularPlurals surface hit.singular rest := by
  obtain ⟨before, e, behind, hentries, hhit, hbefore⟩ := List.findSome?_eq_some_iff.1 h
  obtain ⟨surface, rest, rfl, hends, hlength, hspelled⟩ := KeywordEntry.hit?_eq_some_iff.1 hhit
  have he : e ∈ (ofKeywords keywords irregularPlurals).entries := by simp [hentries]
  have hsorted : (ofKeywords keywords irregularPlurals).entries.Pairwise _ :=
    pairwise_entries_ofKeywords
  rw [hentries, List.pairwise_append, List.pairwise_cons] at hsorted
  -- An entry with a spelling here does not come before the one that is found, so it is no longer.
  have hle : ∀ e' ∈ (ofKeywords keywords irregularPlurals).entries, ∀ other rest' s,
      surface ++ rest = other ++ rest' → atWordEnd rest' = true → e'.Spelled other s →
      byteLength e'.word ≤ byteLength e.word := by
    intro e' he' other rest' s heq hends' hspelled'
    rw [hentries] at he'
    rcases List.mem_append.1 he' with hin | hin
    · have hnone := hbefore e' hin
      rw [heq] at hnone
      exact absurd hnone (hspelled'.hit?_ne_none hends')
    · rcases List.mem_cons.1 hin with rfl | hin
      · exact le_rfl
      · exact hsorted.2.1.1 e' hin
  obtain ⟨k₀, hk₀, heq₀⟩ := mem_entries_ofKeywords.1 he
  refine ⟨surface, rest, rfl, hlength, ?_⟩
  refine ⟨isForm_iff_spelled.2 ⟨e, he, _, hspelled⟩, hends, ?_, ?_, ?_⟩
  · rintro other ⟨hform, rest', heq, hends'⟩
    obtain ⟨e', he', s, hspelled'⟩ := isForm_iff_spelled.1 hform
    exact length_le_of_spelled hspelled hspelled' (hle e' he' other rest' s heq hends' hspelled')
      hends ⟨rest', heq.symm⟩
  · intro k hk hexact
    have hupper := (eqIgnoringCase_upperAscii k).trans hexact
    rcases hspelled with ⟨hspelled, hsingular⟩ | ⟨hspelled, -⟩
    · have hword : e.word = upperAscii k := by
        rw [hexact.upperAscii_eq, ← hspelled.upperAscii_eq, heq₀, upperAscii_upperAscii]
      rw [hsingular, ← hword, heq₀]
    · -- The entry of the keyword is longer than the one that is found, and would have come first.
      have hlonger := hle _ (mem_entries_ofKeywords.2 ⟨k, hk, rfl⟩) surface rest _ rfl hends
        (Or.inl ⟨hupper, rfl⟩)
      rw [hupper.byteLength_eq, ← hspelled.byteLength_eq, byteLength_append] at hlonger
      have hs : byteLength ['s'] = 1 := rfl
      omega
  · intro hnone
    have hupper := (eqIgnoringCase_upperAscii k₀).symm
    rcases hspelled with ⟨hspelled, -⟩ | ⟨hspelled, hsingular⟩
    · rw [heq₀] at hspelled
      exact absurd (hupper.trans hspelled) (hnone k₀ hk₀)
    · rw [heq₀] at hspelled hsingular
      exact ⟨k₀, hk₀, (hupper.append (.refl _)).trans hspelled, hsingular⟩

/-- Nothing is found exactly where no form of a keyword stands. -/
theorem hit?_ofKeywords_eq_none_iff {t : Text} :
    (ofKeywords keywords irregularPlurals).hit? t = none ↔
      ∀ surface, ¬ FormAt (sought keywords) surface t := by
  constructor
  · rintro h surface ⟨hform, rest, rfl, hends⟩
    obtain ⟨e, he, s, hspelled⟩ := isForm_iff_spelled.1 hform
    exact hspelled.hit?_ne_none hends (List.findSome?_eq_none_iff.1 h e he)
  · intro h
    by_contra hne
    obtain ⟨hit, hhit⟩ := Option.ne_none_iff_exists'.1 hne
    obtain ⟨surface, rest, rfl, -, hlongest⟩ := longestForm_of_hit? hhit
    exact h surface ⟨hlongest.form, rest, rfl, hlongest.ends⟩

end Matcher

end Cardwright
