import Cardwright.Proofs.Engine.Generation

/-!
# Visible names of cards

A card is named by words of its tables, and blanks are no part of a name.  From tables that are
accepted a card of a kind has a visible name if the words for that kind are spelled out
(`NamePools.Spelled`, `Generator.always_visible_name`).

The check of tables asks every pool for a word and no word for a letter, so being accepted is not
enough: `Generator.not_visible_name_of_blank_words`.
-/

namespace Cardwright.Generator

open Draw

variable {g : Generator}

theorem Finished.visible_name {known : Known} {shape : Shape} {c : Card}
    (hcard : g.Finished known shape c) (h : g.tables.naming.Spelled shape.kind) :
    Text.Visible c.name := by
  cases hcard with
  | passiveItem _ hname => exact NamePools.Spelled.visible_itemName h hname
  | passiveSkill _ hname => exact NamePools.Spelled.visible_skillName h hname
  | activeItem _ _ _ hname => exact NamePools.Spelled.visible_itemName h hname
  | activeSkill _ _ hname => exact NamePools.Spelled.visible_skillName h hname

/-- **Every card has a visible name** if the tables are accepted and the words for names are spelled
out: those for the kind that is asked for, or those for both kinds if a shape is drawn. -/
theorem always_visible_name (σ : Type) [WordSource σ] (h : g.tables.check = .ok ()) :
    (∀ shape, g.tables.naming.Spelled shape.kind →
      Always (fun c => Text.Visible c.name) (g.generateShape shape : Draw σ Card)) ∧
    ((∀ kind, g.tables.naming.Spelled kind) →
      Always (fun c => Text.Visible c.name) (g.generate : Draw σ Card)) := by
  have hsound := Tables.check_eq_ok_iff.1 h
  constructor
  · intro shape hspelled
    exact (always_generateShape_of_sound hsound shape).mono fun _ hcard =>
      hcard.visible_name hspelled
  · intro hspelled
    refine (always_generate hsound).mono ?_
    rintro c ⟨shape, hcard⟩
    exact hcard.visible_name (hspelled shape.kind)

/-- The words of the bundled tables are spelled out for both kinds. -/
theorem always_visible_name_bundled :
    Tables.bundled.check = .ok () ∧ (∀ kind, Tables.bundled.naming.Spelled kind) ∧
    (∀ shape, Always (fun c => Text.Visible c.name)
      ((Generator.ofTables .bundled).generateShape shape : Draw SeededStream Card)) ∧
    Always (fun c => Text.Visible c.name)
      ((Generator.ofTables .bundled).generate : Draw SeededStream Card) := by
  have hitems : Tables.bundled.naming.SpelledItems :=
    { themeWords := by decide +kernel
      defaultTheme := by decide +kernel
      tiers := .inl fun r => by cases r <;> decide +kernel }
  have hskills : Tables.bundled.naming.Spelled .skill := by
    unfold NamePools.Spelled
    decide +kernel
  have hspelled : ∀ kind, Tables.bundled.naming.Spelled kind := by
    intro kind
    cases kind with
    | item => exact hitems
    | skill => exact hskills
  obtain ⟨hshape, hdrawn⟩ :=
    always_visible_name SeededStream (g := .ofTables .bundled) Tables.check_bundled
  exact ⟨Tables.check_bundled, hspelled, fun shape => hshape shape (hspelled shape.kind),
    hdrawn hspelled⟩

/-- With a blank word in each pool for skills the bundled tables are still accepted, and then no
passive skill has a visible name. -/
theorem not_visible_name_of_blank_words :
    let naming : NamePools := { Bundled.naming with skill := ⟨[""], [""], [""], [""], [""]⟩ }
    let t : Tables := { Tables.bundled with naming := naming }
    t.check = .ok () ∧
    Always (fun c => c.name = [])
      ((Generator.ofTables t).generateShape ⟨.skill, .passive⟩ : Draw SeededStream Card) ∧
    ¬ Always (fun c => Text.Visible c.name)
      ((Generator.ofTables t).generateShape ⟨.skill, .passive⟩ : Draw SeededStream Card) := by
  intro naming t
  have hnaming : naming.Sound :=
    { Bundled.sound_naming with
      skillSpeed := by decide
      skillPower := by decide
      skillQuirky := by decide
      skillElemental := by decide
      skillActions := by decide }
  have hsound : t.Sound := { Tables.sound_bundled with naming := hnaming }
  have hwords : ∀ pool ∈ naming.skillPools, ∀ word ∈ pool, word = [] := by decide
  have hname : ∀ text name, naming.SkillName text name → name = [] := by
    rintro text name ⟨pool, word, hpool, hword, hname⟩
    obtain rfl := hwords pool hpool.mem word hword
    rcases hname with rfl | ⟨action, haction, rfl⟩
    · rfl
    · obtain rfl := hwords naming.skill.actions (by decide) action haction
      decide
  have hblank : Always (fun c => c.name = [])
      ((Generator.ofTables t).generateShape ⟨.skill, .passive⟩ : Draw SeededStream Card) := by
    refine (always_generateShape_of_sound hsound ⟨.skill, .passive⟩).mono fun c hcard => ?_
    cases hcard with
    | passiveSkill _ h => exact hname _ _ h
  refine ⟨Tables.check_eq_ok_iff.2 hsound, hblank, fun hvisible => ?_⟩
  obtain ⟨c, _, -, hempty, x, hx, -⟩ :=
    (hblank.and_returns hvisible.returns) (SeededStream.ofSeed 0)
  rw [hempty] at hx
  cases hx

end Cardwright.Generator
