import Cardwright.Engine.Generator
import Cardwright.Proofs.Markup.CaseFree
import Cardwright.Tables.Bundled

/-!
# Marking a sentence part by part

Where two texts are joined at a character that belongs to no word and to no keyword, marking the
whole is marking each of them (`Matcher.highlight_append_break`), provided that the first one closes
its brackets.  The description of an active skill is put together from two marked parts with a space
between them, so it is the marked sentence (`Generator.skillDescription_eq`).

The reason is that at such a character everything is as at the end of the text: a keyword in front
of it ends there or before (`KeywordEntry.hit?_append_break`), the scan goes on behind it as from a
beginning (`Matcher.scan_append_break`), and no tag reaches across, because a text with closed
brackets is made of plain texts and whole tags (`Markup.closed_induction`).
-/

namespace Cardwright

open Text Markup

/-! ### Keywords in front of a break -/

section Break

variable {c : Char}

theorem atWordEnd_append_break (hc : isWordChar c = false) (t q : Text) :
    atWordEnd (t ++ c :: q) = atWordEnd t := by
  cases t with
  | nil => rw [List.nil_append, atWordEnd, atWordEnd, hc, Bool.not_false]
  | cons d t => rfl

/-- What the front of a text has none of stands behind it. -/
theorem exists_rest_of_append_eq {s r t q : Text} (hs : c ∉ s) (h : t ++ c :: q = s ++ r) :
    ∃ r', t = s ++ r' ∧ r = r' ++ c :: q := by
  rcases List.append_eq_append_iff.1 h with ⟨a, rfl, hq⟩ | ⟨r', rfl, rfl⟩
  · cases a with
    | nil => exact ⟨[], by simp, by simpa using hq.symm⟩
    | cons d a =>
      obtain ⟨rfl, -⟩ := List.cons.inj hq
      exact absurd (by simp) hs
  · exact ⟨r', rfl, rfl⟩

namespace KeywordEntry

/-- An entry is found in front of a break exactly as it is at the end of the text. -/
theorem hit?_append_break {e : KeywordEntry} (hc : isWordChar c = false) (he : c ∉ e.word)
    (t q : Text) : e.hit? (t ++ c :: q) = e.hit? t := by
  refine Option.ext fun hit => ?_
  rw [hit?_eq_some_iff, hit?_eq_some_iff]
  constructor
  · rintro ⟨surface, rest, heq, hends, hlength, hspelled⟩
    obtain ⟨rest, rfl, rfl⟩ := exists_rest_of_append_eq (hspelled.not_mem hc he) heq
    rw [atWordEnd_append_break hc] at hends
    exact ⟨surface, rest, rfl, hends, hlength, hspelled⟩
  · rintro ⟨surface, rest, rfl, hends, hlength, hspelled⟩
    rw [← atWordEnd_append_break hc rest q] at hends
    exact ⟨surface, rest ++ c :: q, List.append_assoc .., hends, hlength, hspelled⟩

end KeywordEntry

namespace Matcher

variable {m : Matcher}

theorem hit?_append_break (hc : isWordChar c = false) (hm : ∀ w ∈ m.keywords, c ∉ w)
    (t q : Text) : m.hit? (t ++ c :: q) = m.hit? t := by
  rw [hit?, hit?, ← List.head?_filterMap, ← List.head?_filterMap]
  refine congrArg List.head? (List.filterMap_congr fun e he => ?_)
  exact KeywordEntry.hit?_append_break hc (hm e.word (List.mem_map_of_mem he)) t q

/-- **The scan stops at a break and begins anew behind it.** -/
theorem scan_append_break (hc : isWordChar c = false) (hm : ∀ w ∈ m.keywords, c ∉ w)
    (inWord : Bool) (p q : Text) :
    m.scan inWord (p ++ c :: q) = m.scan inWord p ++ .plain c :: m.scan false q := by
  -- Induction on the scan of the first text: every rest of it stands in front of the same break.
  refine scan_induction (m := m) (P := fun inWord p pieces =>
    m.scan inWord (p ++ c :: q) = pieces ++ .plain c :: m.scan false q) ?_ ?_ ?_ ?_ inWord p
  · intro inWord
    rw [List.nil_append, scan_pass (by rw [hc, Bool.false_and]), hc, List.nil_append]
  · intro surface rest hit hword hhit hlength _ ih
    rw [← hit?_append_break hc hm _ q, List.append_assoc] at hhit
    rw [List.append_assoc, scan_hit hword hhit hlength, ih, List.cons_append]
  · intro d t hword hhit ih
    rw [← hit?_append_break hc hm _ q, List.cons_append] at hhit
    rw [List.cons_append, scan_miss hword hhit, ih, List.cons_append]
  · intro inWord d t hstart ih
    rw [List.cons_append, scan_pass hstart, ih, List.cons_append]

end Matcher

end Break

/-! ### Texts with closed brackets -/

namespace Markup

/-- **Induction on a text whose brackets are closed.**  It is plain, or plain text with a tag and
such a text behind it. -/
theorem closed_induction {P : Text → Prop} (plain : ∀ p, '<' ∉ p → P p)
    (tag : ∀ p x t, '<' ∉ p → IsTag x → P t → P (p ++ (x ++ t))) {t : Text} (h : Closed t) :
    P t := by
  refine tag_induction (P := fun t => Closed t → P t) ?_ ?_ t h
  · intro t huntagged hclosed
    refine plain t fun hmem => ?_
    obtain ⟨p, rest, heq, -⟩ := List.eq_append_cons_of_mem hmem
    exact huntagged p rest heq (hclosed p rest heq)
  · intro p x t hp hx ih hclosed
    exact tag p x t hp hx (ih (BehindOpenings.of_append hclosed).of_append)

end Markup

/-! ### Pieces of joined texts -/

namespace Matcher

variable {m : Matcher}

/-- The pieces of a segment; the characters of a tag are plain. -/
def segmentPieces (m : Matcher) : MarkupSegment → List Piece
  | .plain text => m.scan false text
  | .tag x => x.map .plain

theorem pieces_eq_flatMap (m : Matcher) (t : Text) :
    m.pieces t = (split t).flatMap m.segmentPieces := by
  refine List.flatMap_congr fun s _ => ?_
  cases s <;> rfl

/-- Plain text in front is scanned together with the plain text that a text begins with. -/
theorem pieces_append_of_not_mem {p : Text} (hp : '<' ∉ p) (t : Text) :
    m.pieces (p ++ t) = m.scan false (p ++ plainFront (split t)) ++
      (behindFront (split t)).flatMap m.segmentPieces := by
  rw [pieces_eq_flatMap]
  by_cases hne : p = []
  · rw [hne, List.nil_append, List.nil_append]
    match split t with
    | [] => rw [plainFront, behindFront, scan_nil, List.nil_append]
    | .plain _ :: _ => rfl
    | .tag _ :: _ => rw [plainFront, behindFront, scan_nil, List.nil_append]
  · rw [split_append_of_not_mem hp hne, List.flatMap_cons, segmentPieces]

theorem pieces_of_not_mem {p : Text} (hp : '<' ∉ p) : m.pieces p = m.scan false p := by
  have h := pieces_append_of_not_mem (m := m) hp []
  rwa [List.append_nil, split, plainFront, behindFront, List.append_nil, List.flatMap_nil,
    List.append_nil] at h

theorem pieces_append_tag {p x : Text} (hp : '<' ∉ p) (hx : IsTag x) (t : Text) :
    m.pieces (p ++ (x ++ t)) = m.scan false p ++ (x.map .plain ++ m.pieces t) := by
  rw [pieces_append_of_not_mem hp, split_tag_append hx, plainFront, behindFront, List.append_nil,
    List.flatMap_cons, segmentPieces, ← pieces_eq_flatMap]

/-- **Pieces of joined texts are joined.** -/
theorem pieces_append_break {c : Char} (hc : isWordChar c = false) (hbracket : c ≠ '<')
    (hm : ∀ w ∈ m.keywords, c ∉ w) {t : Text} (h : Closed t) (q : Text) :
    m.pieces (t ++ c :: q) = m.pieces t ++ .plain c :: m.pieces q := by
  refine closed_induction (P := fun t =>
    m.pieces (t ++ c :: q) = m.pieces t ++ .plain c :: m.pieces q) ?_ ?_ h
  · intro p hp
    have hbreak : '<' ∉ p ++ [c] := by
      rw [List.mem_append, List.mem_singleton, not_or]
      exact ⟨hp, Ne.symm hbracket⟩
    calc m.pieces (p ++ c :: q)
        = m.pieces ((p ++ [c]) ++ q) := by rw [List.append_assoc, List.singleton_append]
      _ = m.scan false (p ++ c :: plainFront (split q)) ++
            (behindFront (split q)).flatMap m.segmentPieces := by
          rw [pieces_append_of_not_mem hbreak, List.append_assoc p, List.singleton_append]
      _ = m.scan false p ++ .plain c :: (m.scan false (plainFront (split q)) ++
            (behindFront (split q)).flatMap m.segmentPieces) := by
          rw [scan_append_break hc hm, List.append_assoc, List.cons_append]
      _ = m.pieces p ++ .plain c :: m.pieces q := by
          have hq := pieces_append_of_not_mem (m := m) (p := []) List.not_mem_nil q
          rw [List.nil_append, List.nil_append] at hq
          rw [pieces_of_not_mem hp, hq]
  · intro p x t hp hx ih
    rw [List.append_assoc, List.append_assoc, pieces_append_tag hp hx, pieces_append_tag hp hx, ih,
      List.append_assoc, List.append_assoc]

/-- **Marking goes part by part.**  Let the first of two texts close its brackets, and let them be
joined at a character that belongs to no word, opens no tag and is in no keyword.  Marking them in
one is marking each of them. -/
theorem highlight_append_break {c : Char} (hc : isWordChar c = false) (hbracket : c ≠ '<')
    (hm : ∀ w ∈ m.keywords, c ∉ w) {t : Text} (h : Closed t) (q : Text) :
    m.highlight (t ++ c :: q) = m.highlight t ++ c :: m.highlight q := by
  rw [highlight_eq_pieces, highlight_eq_pieces, highlight_eq_pieces,
    pieces_append_break hc hbracket hm h, List.flatMap_append, List.flatMap_cons]
  rfl

theorem mem_keywords_ofKeywords {keywords : List Text} {irregularPlurals : List (Text × Text)}
    {w : Text} :
    w ∈ (ofKeywords keywords irregularPlurals).keywords ↔
      ∃ k ∈ sought keywords, w = upperAscii k := by
  constructor
  · intro h
    obtain ⟨e, he, rfl⟩ := List.mem_map.1 h
    obtain ⟨k, hk, rfl⟩ := mem_entries_ofKeywords.1 he
    exact ⟨k, hk, rfl⟩
  · rintro ⟨k, hk, rfl⟩
    exact List.mem_map.2 ⟨_, mem_entries_ofKeywords.2 ⟨k, hk, rfl⟩, rfl⟩

end Matcher

/-! ### Descriptions of skills -/

namespace Generator

/-- **The description of an active skill is one marked sentence.**  If no keyword has a space in it
and the trigger closes its brackets, then marking trigger and effect apart is marking the sentence
that they make up. -/
theorem skillDescription_eq (g : Generator) (hm : ∀ w ∈ g.matcher.keywords, ' ' ∉ w)
    {trigger : Text} (h : Closed trigger) (effect : Text) :
    g.skillDescription trigger effect =
      g.matcher.highlight (trigger ++ ' ' :: uncapitalize effect) ++ ['.'] := by
  rw [skillDescription, Matcher.highlight_append_break (by decide) (by decide) hm h]

/-- A plural right before the space, tags and stray brackets on both sides, and an effect that
begins with a keyword. -/
theorem skillDescription_eq_tagged :
    let g : Generator := ⟨.bundled, .ofKeywords ["HEAL", "", "Haste", "x-y"] []⟩
    let trigger : Text := "> When <b title=\"heal>\">you</b> haste or Heals"
    let effect : Text := "Heal <i>2</i> < 3 hastes"
    ((∀ w ∈ g.matcher.keywords, ' ' ∉ w) ∧ Closed trigger) ∧
    g.skillDescription trigger effect =
      g.matcher.highlight (trigger ++ ' ' :: uncapitalize effect) ++ ['.'] := by
  intro g trigger effect
  have hm : ∀ w ∈ g.matcher.keywords, ' ' ∉ w := by
    intro w hw
    obtain ⟨k, hk, rfl⟩ := Matcher.mem_keywords_ofKeywords.1 hw
    have hspace : ∀ k ∈ Matcher.sought ["HEAL", "", "Haste", "x-y"], ' ' ∉ upperAscii k := by decide
    exact hspace k hk
  have hclosed : Closed trigger := by decide
  exact ⟨⟨hm, hclosed⟩, skillDescription_eq g hm hclosed effect⟩

end Generator

end Cardwright
