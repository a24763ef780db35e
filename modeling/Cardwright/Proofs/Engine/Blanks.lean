import Cardwright.Proofs.Engine.Generation
import Cardwright.Proofs.Markup.Blanks

/-!
# Blanks in generated cards

Sentences are normalized when they are resolved, and several steps come behind that: first letters
are raised or lowered, keywords are marked, and sentences are joined.  None of them brings two
blanks together, whatever blanks the tables have, so long as the words that are marked have none
(`Generator.always_blanks_apart`).
-/

namespace Cardwright

open Draw Text

/-- The name of a card is normal, and no two blanks stand together in its description. -/
structure Card.WellSpaced (c : Card) : Prop where
  name : Normal c.name
  description : BlanksApart c.description

namespace Generator

variable {g : Generator}

/-! ### Descriptions -/

theorem blanksApart_sentence (hm : g.matcher.BlankFree) {plain : Text} (h : Tidy plain) :
    BlanksApart (g.matcher.sentence plain) := by
  have hperiod : BlankFree ['.'] := by decide
  exact hm.blanksApart_highlight (s := []) (h.append hperiod.tidy).apart

theorem blanksApart_skillDescription (hm : g.matcher.BlankFree) {trigger effect : Text}
    (htrigger : Tidy trigger) (heffect : Tidy (uncapitalize effect)) :
    BlanksApart (g.skillDescription trigger effect) := by
  have hperiod : BlankFree ['.'] := by decide
  have hsecond := heffect.append hperiod.tidy
  have hjoined : BlanksApart (trigger ++ ' ' :: (uncapitalize effect ++ ['.'])) :=
    htrigger.blanksApart_append
      (blanksApart_cons.2 ⟨fun d hd _ => hsecond.front d hd, hsecond.apart⟩)
  rw [List.append_cons] at hjoined
  -- The effect is marked behind the plain trigger, and the trigger in front of the marked effect.
  have hmarked := hm.blanksApart_highlight hjoined
  rw [← List.append_cons] at hmarked
  rw [skillDescription, List.append_assoc, List.cons_append]
  exact hm.blanksApart_highlight (s := []) hmarked

/-! ### Cards -/

/-- Normalizing leaves the plain texts of cards alone. -/
def Known.normal : Known where
  statement plain := normalize plain = plain
  effect plain := normalize plain = plain
  trigger plain := normalize plain = plain

theorem Finished.wellSpaced {shape : Shape} {c : Card} (hcard : g.Finished .normal shape c)
    (hm : g.matcher.BlankFree) : c.WellSpaced := by
  cases hcard with
  | passiveItem hplain hname =>
    exact ⟨.of_normalize_eq hname.normalize_eq, blanksApart_sentence hm (tidy_iff.2 hplain)⟩
  | passiveSkill hplain hname =>
    exact ⟨.of_normalize_eq hname.normalize_eq, blanksApart_sentence hm (tidy_iff.2 hplain)⟩
  | activeItem hplain _ _ hname =>
    exact ⟨.of_normalize_eq hname.normalize_eq,
      blanksApart_sentence hm (tidy_iff.2 (normalize_capitalize hplain))⟩
  | activeSkill hplain htrigger hname =>
    exact ⟨.of_normalize_eq hname.normalize_eq, blanksApart_skillDescription hm
      (tidy_iff.2 htrigger) (tidy_iff.2 (normalize_uncapitalize hplain))⟩

/-- **No two blanks stand together.**  From tables that are accepted and have no blank in a keyword
or a singular, every sentence is resolved to a normal text, triggers and statements are normal, and
so are the names of cards, in whose descriptions no blank stands right behind another one. -/
theorem always_blanks_apart (σ : Type) [WordSource σ] {t : Tables} (h : t.check = .ok ())
    (hkeywords : ∀ k ∈ t.keywords, BlankFree k)
    (hsingulars : ∀ e ∈ t.irregularPlurals, BlankFree e.2) :
    let g := Generator.ofTables t
    (∀ sentence, Always Normal (t.resolve sentence : Draw σ Text)) ∧
    Always Normal (g.drawTrigger : Draw σ Text) ∧
    Always Normal (g.drawPassive : Draw σ Text) ∧
    (∀ shape, Always Card.WellSpaced (g.generateShape shape : Draw σ Card)) ∧
    Always Card.WellSpaced (g.generate : Draw σ Card) := by
  intro g
  have hsound : g.tables.Sound := Tables.check_eq_ok_iff.1 h
  have hresolve := Tables.always_resolve_normal (σ := σ) hsound
  have htrigger : Always Known.normal.trigger (g.drawTrigger : Draw σ Text) :=
    always_drawTrigger_of hsound hresolve
  have hstatement : Always Known.normal.statement (g.drawPassive : Draw σ Text) := by
    refine (always_drawPassive_of hsound hresolve).mono ?_
    rintro plain ⟨resolved, hresolved, rfl⟩
    exact normalize_capitalize hresolved
  have hcards : ∀ shape, Always Card.WellSpaced (g.generateShape shape : Draw σ Card) := by
    intro shape
    have hfinished : Always (g.Finished .normal shape) (g.generateShape shape : Draw σ Card) :=
      always_generateShape hsound hstatement (fun e _ => hresolve e.text) htrigger shape
    exact hfinished.mono fun _ hcard =>
      hcard.wellSpaced (Matcher.blankFree_ofKeywords hkeywords hsingulars)
  refine ⟨fun sentence => ?_, ?_, ?_, hcards, always_generate_of hcards⟩
  · exact (hresolve sentence).mono fun _ => .of_normalize_eq
  · exact htrigger.mono fun _ => .of_normalize_eq
  · exact hstatement.mono fun _ => .of_normalize_eq

/-- The words that the bundled tables mark have no blanks. -/
theorem always_blanks_apart_bundled :
    let g := Generator.ofTables .bundled
    (Tables.bundled.check = .ok () ∧ (∀ k ∈ Tables.bundled.keywords, BlankFree k) ∧
      ∀ e ∈ Tables.bundled.irregularPlurals, BlankFree e.2) ∧
    (∀ sentence, Always Normal (Tables.bundled.resolve sentence : Draw SeededStream Text)) ∧
    Always Normal (g.drawTrigger : Draw SeededStream Text) ∧
    Always Normal (g.drawPassive : Draw SeededStream Text) ∧
    (∀ shape, Always Card.WellSpaced (g.generateShape shape : Draw SeededStream Card)) ∧
    Always Card.WellSpaced (g.generate : Draw SeededStream Card) := by
  have hkeywords : ∀ k ∈ Tables.bundled.keywords, BlankFree k := by decide +kernel
  have hsingulars : ∀ e ∈ Tables.bundled.irregularPlurals, BlankFree e.2 := by decide +kernel
  exact ⟨⟨Tables.check_bundled, hkeywords, hsingulars⟩,
    always_blanks_apart SeededStream Tables.check_bundled hkeywords hsingulars⟩

end Generator

end Cardwright
