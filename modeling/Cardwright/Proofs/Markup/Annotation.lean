import Cardwright.Proofs.Markup.Hit
import Cardwright.Proofs.Markup.Split

/-!
# Leftmost-longest annotation

Pieces annotate a plain text if they cover it and each is in place between the text before it and
the text behind it (`Annotates`): a keyword begins where a word begins and is the longest form of a
keyword there, and no form of a keyword begins at a character that is left plain.  Such pieces are
unique (`Annotates.unique`), and the scan gives them (`annotates_scan`), so highlighting is exactly
the leftmost-longest annotation with whole words (`Matcher.highlight_annotates`), each keyword being
written between tags that carry its classes (`Piece.written`).

A place in a text is given by the text before it and the text behind it, so a range of characters is
one of bytes as well.
-/

namespace Cardwright

open Text

/-! ### Annotations -/

/-- The text that pieces cover. -/
def covered (pieces : List Piece) : Text := pieces.flatMap Piece.surface

@[simp] theorem covered_nil : covered [] = [] := rfl

@[simp] theorem covered_cons (p : Piece) (pieces : List Piece) :
    covered (p :: pieces) = p.surface ++ covered pieces := rfl

/-- A word begins between two texts: a word character comes next, and none stands before. -/
def WordStart (before behind : Text) : Prop :=
  (∀ c ∈ before.getLast?, isWordChar c = false) ∧ ∃ c ∈ behind.head?, isWordChar c = true

section Annotations

variable (keywords : List Text) (irregularPlurals : List (Text × Text))

/-- A piece is in place between two texts. -/
def Piece.Placed (before behind : Text) : Piece → Prop
  | plain c => WordStart before (c :: behind) → ∀ surface, ¬ FormAt keywords surface (c :: behind)
  | keyword surface singular =>
    WordStart before (surface ++ behind) ∧
      LongestForm keywords irregularPlurals surface singular behind

/-- Each piece is in place, the first of them standing behind `before`. -/
def AllPlaced (before : Text) (pieces : List Piece) : Prop :=
  ∀ front p back, pieces = front ++ p :: back →
    p.Placed keywords irregularPlurals (before ++ covered front) (covered back)

/-- The leftmost-longest annotation of a text with forms of keywords. -/
structure Annotates (t : Text) (pieces : List Piece) : Prop where
  covers : covered pieces = t
  placed : AllPlaced keywords irregularPlurals [] pieces

end Annotations

variable {keywords : List Text} {irregularPlurals : List (Text × Text)}

theorem allPlaced_nil (before : Text) : AllPlaced keywords irregularPlurals before [] := by
  intro front p back h
  simp at h

theorem allPlaced_cons {before : Text} {p : Piece} {pieces : List Piece} :
    AllPlaced keywords irregularPlurals before (p :: pieces) ↔
      p.Placed keywords irregularPlurals before (covered pieces) ∧
        AllPlaced keywords irregularPlurals (before ++ p.surface) pieces := by
  constructor
  · intro h
    refine ⟨by simpa using h [] p pieces rfl, fun front q back heq => ?_⟩
    have hq := h (p :: front) q back (by rw [heq, List.cons_append])
    rwa [covered_cons, ← List.append_assoc] at hq
  · rintro ⟨hp, hpieces⟩ front q back heq
    cases front with
    | nil =>
      obtain ⟨rfl, rfl⟩ := List.cons.inj heq
      simpa using hp
    | cons r front =>
      obtain ⟨rfl, htail⟩ := List.cons.inj heq
      rw [covered_cons, ← List.append_assoc]
      exact hpieces front q back htail

/-! ### What is written -/

/-- The classes of a marked word: its own, and that of its singular if it is a plural. -/
def spanClasses (surface : Text) (singular : Option Text) : List Text :=
  keywordClass surface :: (singular.map keywordClass).toList

/-- A marked word stands between its tags, the opening one with the classes in a row. -/
theorem Piece.render_keyword (surface : Text) (singular : Option Text) :
    (keyword surface singular).render =
      "<span class=\"" ++ [' '].intercalate (spanClasses surface singular) ++ "\">" ++ surface ++
        "</span>" := by
  cases singular with
  | none =>
    have hone : [' '].intercalate (spanClasses surface none) = keywordClass surface ++ [] := by
      rw [spanClasses, Option.map_none, Option.toList_none, List.intercalate_singleton,
        List.append_nil]
    rw [hone, ← List.append_assoc]
    rfl
  | some s =>
    have htwo : [' '].intercalate (spanClasses surface (some s)) =
        keywordClass surface ++ ' ' :: keywordClass s := by
      rw [spanClasses, Option.map_some, Option.toList_some, List.intercalate_cons_cons,
        List.intercalate_singleton, List.append_assoc, List.singleton_append]
    rw [htwo, ← List.append_assoc]
    rfl

/-- A piece as it is written: a character as it is, and a keyword between tags, the opening one with
the classes in a row. -/
def Piece.written : Piece → Text
  | plain c => [c]
  | keyword surface singular =>
    "<span class=\"" ++ [' '].intercalate (spanClasses surface singular) ++ "\">" ++ surface ++
      "</span>"

theorem Piece.render_eq_written (p : Piece) : p.render = p.written := by
  cases p with
  | plain c => rfl
  | keyword surface singular => exact render_keyword surface singular

/-! ### Uniqueness -/

/-- The singular of a form is settled by its letters. -/
theorem LongestForm.singular_unique {surface rest : Text} {s s' : Option Text}
    (h : LongestForm keywords irregularPlurals surface s rest)
    (h' : LongestForm keywords irregularPlurals surface s' rest) : s = s' := by
  by_cases hexact : ∃ k ∈ keywords, EqIgnoringCase k surface
  · obtain ⟨k, hk, hsurface⟩ := hexact
    rw [h.exact k hk hsurface, h'.exact k hk hsurface]
  · have hnone : ∀ k ∈ keywords, ¬ EqIgnoringCase k surface :=
      fun k hk hsurface => hexact ⟨k, hk, hsurface⟩
    obtain ⟨k, -, hsurface, rfl⟩ := h.plural hnone
    obtain ⟨k', -, hsurface', rfl⟩ := h'.plural hnone
    have hupper := (hsurface.trans hsurface'.symm).upperAscii_eq
    rw [upperAscii, upperAscii, List.map_append, List.map_append] at hupper
    exact congrArg some (List.append_inj_left' hupper rfl)

/-- Where a word begins before a form and one ends behind it, the form is not empty. -/
theorem Piece.Placed.surface_ne_nil {before behind : Text} {p : Piece}
    (h : p.Placed keywords irregularPlurals before behind) : p.surface ≠ [] := by
  cases p with
  | plain c => exact List.cons_ne_nil c []
  | keyword surface singular =>
    rintro rfl
    obtain ⟨⟨-, c, hc, hword⟩, hform⟩ := h
    rw [atWordEnd_iff.1 hform.ends c hc] at hword
    cases hword

/-- No keyword is in place where a plain character is. -/
theorem Piece.Placed.false_of_plain {before behind surface back : Text} {c : Char}
    {singular : Option Text}
    (h : (plain c).Placed keywords irregularPlurals before behind)
    (h' : (keyword surface singular).Placed keywords irregularPlurals before back)
    (heq : c :: behind = surface ++ back) : False := by
  obtain ⟨hstart, hform⟩ := h'
  rw [← heq] at hstart
  exact h hstart surface ⟨hform.form, back, heq, hform.ends⟩

/-- **Pieces that cover one text and are all in place are the same.** -/
theorem AllPlaced.unique {before : Text} {pieces others : List Piece}
    (h : AllPlaced keywords irregularPlurals before pieces)
    (h' : AllPlaced keywords irregularPlurals before others)
    (heq : covered pieces = covered others) : pieces = others := by
  induction pieces generalizing before others with
  | nil =>
    cases others with
    | nil => rfl
    | cons q others =>
      have hq := (allPlaced_cons.1 h').1.surface_ne_nil
      rw [covered_nil, covered_cons] at heq
      exact absurd (List.append_eq_nil_iff.1 heq.symm).1 hq
  | cons p pieces ih =>
    obtain ⟨hp, hpieces⟩ := allPlaced_cons.1 h
    cases others with
    | nil =>
      rw [covered_nil, covered_cons] at heq
      exact absurd (List.append_eq_nil_iff.1 heq).1 hp.surface_ne_nil
    | cons q others =>
      obtain ⟨hq, hothers⟩ := allPlaced_cons.1 h'
      rw [covered_cons, covered_cons] at heq
      cases p with
      | plain c =>
        cases q with
        | plain d =>
          obtain ⟨rfl, hrest⟩ := List.cons.inj heq
          rw [ih hpieces hothers hrest]
        | keyword surface singular => exact (hp.false_of_plain hq heq).elim
      | keyword surface singular =>
        cases q with
        | plain d => exact (hq.false_of_plain hp heq.symm).elim
        | keyword surface' singular' =>
          -- Each of the two is the longest form here, so they have one length.
          have heq : surface ++ covered pieces = surface' ++ covered others := heq
          have hle := hp.2.longest surface' ⟨hq.2.form, _, heq, hq.2.ends⟩
          have hge := hq.2.longest surface ⟨hp.2.form, _, heq.symm, hp.2.ends⟩
          obtain ⟨rfl, hrest⟩ := List.append_inj heq (by omega)
          have hsame := hp.2
          rw [hrest] at hsame
          rw [hsame.singular_unique hq.2, ih hpieces hothers hrest]

theorem Annotates.unique {t : Text} {pieces others : List Piece}
    (h : Annotates keywords irregularPlurals t pieces)
    (h' : Annotates keywords irregularPlurals t others) : others = pieces :=
  h'.placed.unique h.placed (h'.covers.trans h.covers.symm)

/-! ### The scan -/

namespace Matcher

/-- What a matcher finds is spelled by one of its entries. -/
theorem exists_of_hit? {m : Matcher} {t : Text} {hit : Hit} (h : m.hit? t = some hit) :
    ∃ e ∈ m.entries, ∃ surface rest, t = surface ++ rest ∧ atWordEnd rest = true ∧
      hit.length = surface.length ∧ e.Spelled surface hit.singular := by
  obtain ⟨e, he, hhit⟩ := List.exists_of_findSome?_eq_some h
  exact ⟨e, he, KeywordEntry.hit?_eq_some_iff.1 hhit⟩

/-- **Induction along the scan.**  A text is at its end; or a word begins with a keyword, or without
one; or no word begins. -/
theorem scan_induction {m : Matcher} {P : Bool → Text → List Piece → Prop}
    (nil : ∀ inWord, P inWord [] [])
    (hit : ∀ surface rest hit, (∃ c ∈ surface.head?, isWordChar c = true) →
      m.hit? (surface ++ rest) = some hit → hit.length = surface.length → atWordEnd rest = true →
      P true rest (m.scan true rest) →
      P false (surface ++ rest) (.keyword surface hit.singular :: m.scan true rest))
    (miss : ∀ c t, isWordChar c = true → m.hit? (c :: t) = none → P true t (m.scan true t) →
      P false (c :: t) (.plain c :: m.scan true t))
    (pass : ∀ inWord c t, (isWordChar c && !inWord) = false →
      P (isWordChar c) t (m.scan (isWordChar c) t) →
      P inWord (c :: t) (.plain c :: m.scan (isWordChar c) t))
    (inWord : Bool) (t : Text) : P inWord t (m.scan inWord t) := by
  fun_induction scan m inWord t with
  | case1 inWord => exact nil inWord
  | case2 inWord c t hstart found hfound ih =>
    obtain ⟨hc, hin⟩ : isWordChar c = true ∧ inWord = false := by simpa using hstart
    obtain ⟨e, -, surface, rest, heq, hends, hlength, -⟩ := exists_of_hit? hfound
    cases surface with
    | nil =>
      rw [List.nil_append] at heq
      rw [← heq, atWordEnd, hc] at hends
      cases hends
    | cons d surface =>
      obtain ⟨rfl, rfl⟩ : c = d ∧ t = surface ++ rest := by simpa using heq
      have htake : (c :: (surface ++ rest)).take found.length = c :: surface := by
        rw [hlength, ← List.cons_append, List.take_left]
      have hdrop : (surface ++ rest).drop (found.length - 1) = rest := by
        rw [hlength, List.length_cons, Nat.add_sub_cancel, List.drop_left]
      rw [hdrop] at ih
      rw [htake, hdrop, hin]
      exact hit (c :: surface) rest found ⟨c, rfl, hc⟩ hfound hlength hends ih
  | case3 inWord c t hstart hfound ih =>
    obtain ⟨hc, hin⟩ : isWordChar c = true ∧ inWord = false := by simpa using hstart
    rw [hin]
    exact miss c t hc hfound ih
  | case4 inWord c t hstart ih => exact pass inWord c t (by simpa using hstart) ih

/-- The pieces of a text cover it. -/
theorem covered_scan (m : Matcher) (inWord : Bool) (t : Text) : covered (m.scan inWord t) = t := by
  refine scan_induction (P := fun _ t pieces => covered pieces = t) (fun _ => rfl) ?_ ?_ ?_ inWord t
  · intro surface rest hit _ _ _ _ ih
    rw [covered_cons, ih, Piece.surface]
  · intro c t _ _ ih
    rw [covered_cons, ih, Piece.surface, List.singleton_append]
  · intro inWord c t _ ih
    rw [covered_cons, ih, Piece.surface, List.singleton_append]

/-- The keywords among the pieces are spellings of entries. -/
theorem spelled_of_mem_scan {m : Matcher} {inWord : Bool} {t surface : Text}
    {singular : Option Text} (h : .keyword surface singular ∈ m.scan inWord t) :
    ∃ e ∈ m.entries, e.Spelled surface singular := by
  refine scan_induction (m := m) (P := fun _ _ pieces => Piece.keyword surface singular ∈ pieces →
    ∃ e ∈ m.entries, e.Spelled surface singular) ?_ ?_ ?_ ?_ inWord t h
  · intro inWord hmem
    cases hmem
  · intro surface' rest hit _ hhit hlength _ ih hmem
    rcases List.mem_cons.1 hmem with heq | hmem
    · cases heq
      obtain ⟨e, he, spelling, behind, heq, -, hlength', hspelled⟩ := exists_of_hit? hhit
      obtain ⟨rfl, -⟩ := List.append_inj heq (hlength.symm.trans hlength')
      exact ⟨e, he, hspelled⟩
    · exact ih hmem
  · intro c t _ _ ih hmem
    exact ih (by simpa using hmem)
  · intro inWord c t _ ih hmem
    exact ih (by simpa using hmem)

/-- The flag of the scan is right behind a text: where a word character comes next, a word begins
exactly if the flag is not set. -/
def FlagFor (before t : Text) (inWord : Bool) : Prop :=
  ∀ c ∈ t.head?, isWordChar c = true →
    ((∀ d ∈ before.getLast?, isWordChar d = false) ↔ inWord = false)

theorem flagFor_append_singleton (before t : Text) (c : Char) :
    FlagFor (before ++ [c]) t (isWordChar c) := by
  intro d _ _
  simp

theorem flagFor_of_atWordEnd (before : Text) {t : Text} (h : atWordEnd t = true) (inWord : Bool) :
    FlagFor before t inWord := by
  intro c hc hword
  rw [atWordEnd_iff.1 h c hc] at hword
  cases hword

/-- **The pieces of a scan are in place.** -/
theorem allPlaced_scan {before : Text} {inWord : Bool} {t : Text} (h : FlagFor before t inWord) :
    AllPlaced (sought keywords) irregularPlurals before
      ((ofKeywords keywords irregularPlurals).scan inWord t) := by
  refine scan_induction (P := fun inWord t pieces => ∀ before, FlagFor before t inWord →
    AllPlaced (sought keywords) irregularPlurals before pieces) ?_ ?_ ?_ ?_ inWord t before h
  · intro _ before _
    exact allPlaced_nil before
  · intro surface rest hit ⟨c, hc, hword⟩ hhit hlength hends ih before hflag
    have hhead : c ∈ (surface ++ rest).head? := by
      rw [List.head?_append, hc]
      rfl
    obtain ⟨spelling, behind, heq, hlength', hlongest⟩ := longestForm_of_hit? hhit
    obtain ⟨rfl, rfl⟩ := List.append_inj heq (hlength.symm.trans hlength')
    refine allPlaced_cons.2 ⟨?_, ih _ (flagFor_of_atWordEnd _ hends true)⟩
    rw [covered_scan]
    exact ⟨⟨(hflag c hhead hword).2 rfl, c, hhead, hword⟩, hlongest⟩
  · intro c t hc hhit ih before hflag
    have hbehind := flagFor_append_singleton before t c
    rw [hc] at hbehind
    refine allPlaced_cons.2 ⟨fun _ => ?_, ih _ hbehind⟩
    rw [covered_scan]
    exact hit?_ofKeywords_eq_none_iff.1 hhit
  · intro inWord c t hstart ih before hflag
    refine allPlaced_cons.2 ⟨?_, ih _ (flagFor_append_singleton before t c)⟩
    rintro ⟨hbefore, d, hd, hword⟩
    obtain rfl : c = d := by simpa using hd
    rw [hword, (hflag c rfl hword).1 hbefore] at hstart
    cases hstart

theorem annotates_scan (t : Text) :
    Annotates (sought keywords) irregularPlurals t
      ((ofKeywords keywords irregularPlurals).scan false t) := by
  refine ⟨covered_scan _ false t, allPlaced_scan ?_⟩
  intro c _ _
  simp

/-! ### Highlighting -/

theorem highlight_of_untagged (m : Matcher) {t : Text} (h : Markup.Untagged t) :
    m.highlight t = m.highlightPlain t := by
  by_cases hnil : t = []
  · rw [hnil, highlight, Markup.split, highlightPlain, scan]
    rfl
  · rw [highlight, Markup.split_of_untagged h hnil, List.flatMap_cons, List.flatMap_nil,
      List.append_nil]

theorem highlight_eq_written (m : Matcher) {t : Text} (h : Markup.Untagged t) :
    m.highlight t = (m.scan false t).flatMap Piece.written := by
  have hwritten : Piece.render = Piece.written := funext Piece.render_eq_written
  rw [highlight_of_untagged m h, highlightPlain, hwritten]

/-- **Highlighting is the leftmost-longest annotation.**  Of a text without closed tags some pieces
are written out, the keywords between tags with their classes and the other characters as they are;
these pieces annotate the text with the nonempty keywords, and no others do. -/
theorem highlight_annotates (keywords : List Text) (irregularPlurals : List (Text × Text))
    {t : Text} (h : Markup.Untagged t) :
    ∃ pieces, (ofKeywords keywords irregularPlurals).highlight t = pieces.flatMap Piece.written ∧
      Annotates (sought keywords) irregularPlurals t pieces ∧
      ∀ others, Annotates (sought keywords) irregularPlurals t others → others = pieces :=
  ⟨_, highlight_eq_written _ h, annotates_scan t, fun _ => (annotates_scan t).unique⟩

/-- A text with brackets that do not make a tag, where a plural, a longer keyword and an irregular
plural have to be told apart. -/
theorem highlight_annotates_heals :
    let keywords : List Text := ["HEAL", "", "Health", "heals", "mice", "max health"]
    let irregularPlurals : List (Text × Text) := [("MICE", "MOUSE")]
    let t : Text := "5 > 3: max Healths, heals_ <heals MICE"
    Markup.Untagged t ∧
    ∃ pieces, (ofKeywords keywords irregularPlurals).highlight t = pieces.flatMap Piece.written ∧
      Annotates (sought keywords) irregularPlurals t pieces ∧
      ∀ others, Annotates (sought keywords) irregularPlurals t others → others = pieces :=
  have h : Markup.Untagged "5 > 3: max Healths, heals_ <heals MICE".toList := by decide
  ⟨h, highlight_annotates _ _ h⟩

/-- An empty keyword is left out on purpose: a lone "s" is a form of it, and stays plain. -/
theorem not_annotates_of_empty_keyword :
    Markup.Untagged ['s'] ∧
    ¬ ∃ pieces, (ofKeywords [[]] []).highlight ['s'] = pieces.flatMap Piece.written ∧
      Annotates [[]] [] ['s'] pieces := by
  have huntagged : Markup.Untagged ['s'] := by decide
  refine ⟨huntagged, ?_⟩
  rintro ⟨pieces, hrender, hcovers, hplaced⟩
  have hplain : (ofKeywords [[]] []).highlight ['s'] = ['s'] := by
    rw [highlight_of_untagged _ huntagged]
    simp [highlightPlain, scan, ofKeywords, hit?, upperAscii, Piece.render]
  rw [hplain] at hrender
  cases pieces with
  | nil => cases hcovers
  | cons p pieces =>
    cases p with
    | keyword surface singular =>
      -- A keyword would be written with a bracket in front.
      have hbracket := (List.cons.inj hrender).1
      cases hbracket
    | plain c =>
      obtain ⟨rfl, hrest⟩ := List.cons.inj hcovers
      have hplace := (allPlaced_cons.1 hplaced).1
      have hrest : covered pieces = [] := hrest
      rw [hrest] at hplace
      refine hplace ⟨by simp, 's', rfl, by decide⟩ ['s'] ?_
      exact ⟨⟨[], by simp, Or.inr (.refl _)⟩, [], rfl, rfl⟩

end Matcher

end Cardwright
