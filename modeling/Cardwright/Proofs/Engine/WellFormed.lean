import Cardwright.Proofs.Engine.Generation
import Cardwright.Proofs.Number.Binary32
import Cardwright.Proofs.Text.Mapping

/-!
# Well-formed cards

A card that is generated for a shape is *well-formed* (`Generator.WellFormed`): it has that kind and
activity; it has statistics exactly if it is an item, with a cooldown and a multicast that go with
its activity; and its description is put together from texts of the tables in the way of its shape
(`Generator.Shows`).

The run lemma for cards (`Generator.always_generateShape`) is used with the origin of the plain
texts as what is known of them (`Known.origin`), and every engine that can be set up makes
well-formed cards only, for itself and for others (`Engine.wellFormed_of_build`).
-/

namespace Cardwright

open Draw

namespace Generator

variable (σ : Type) [WordSource σ] (g : Generator)

/-! ### Where texts come from -/

/-- A statement with its slots filled: a drawn tag has a drawn modifier for one of its attributes.
-/
def IsStatement (resolved : Text) : Prop :=
  ∃ tag : DrawnTag, (g.tables.drawTag : Draw σ DrawnTag).CanGive tag ∧ ∃ a ∈ ItemAttribute.all,
    ∃ m, (Modifier.draw g.tables a : Draw σ Modifier).CanGive m ∧
      (g.tables.resolve (m.statement tag.text a) : Draw σ Text).CanGive resolved

/-- An effect of the tables with its slots filled. -/
def IsEffect (resolved : Text) : Prop :=
  ∃ effect ∈ g.tables.effects, (g.tables.resolve effect.text : Draw σ Text).CanGive resolved

/-- A phrasing of a trigger of the tables with its slots filled. -/
def IsTrigger (resolved : Text) : Prop :=
  ∃ trigger ∈ g.tables.triggers, ∃ variant,
    (g.tables.resolve (trigger.phrase variant) : Draw σ Text).CanGive resolved

/-- The plain texts of cards come from the tables. -/
def Known.origin : Known where
  statement plain := ∃ resolved, g.IsStatement σ resolved ∧ plain = Text.capitalize resolved
  effect := g.IsEffect σ
  trigger := g.IsTrigger σ

/-! ### Well-formed cards -/

/-- The descriptions of cards of each shape: a statement or the effect of an item, with its first
letter raised, or a trigger and the effect of a skill, with its first letter lowered. -/
inductive Shows : Shape → Text → Prop
  | passive {kind : Kind} {statement raised : Text} (h : g.IsStatement σ statement)
      (hraised : Text.RaisesFirst statement raised) :
      Shows ⟨kind, .passive⟩ (g.matcher.highlight raised ++ ['.'])
  | activeItem {effect raised : Text} (h : g.IsEffect σ effect)
      (hraised : Text.RaisesFirst effect raised) :
      Shows ⟨.item, .active⟩ (g.matcher.highlight raised ++ ['.'])
  | activeSkill {trigger effect lowered : Text} (h : g.IsTrigger σ trigger)
      (h' : g.IsEffect σ effect) (hlowered : Text.LowersFirst effect lowered) :
      Shows ⟨.skill, .active⟩
        (g.matcher.highlight trigger ++ ' ' :: g.matcher.highlight lowered ++ ['.'])

/-- The statistics of items of each activity: no cooldown and no multicast, or a cooldown from half
a second to fifteen seconds, in half seconds, and one of the multicasts. -/
inductive HasStats : Activity → ItemStats → Prop
  | passive {s : ItemStats} (hcooldown : s.cooldown.value = .finite false 0)
      (hmulticast : s.multicast = 0) : HasStats .passive s
  | active {s : ItemStats} {halves : Nat} (hhalves : 1 ≤ halves ∧ halves ≤ 30)
      (hcooldown : s.cooldown.value = .finite false (halves * Binary32.unitsPerHalf))
      (hmulticast : s.multicast ∈ ([0, 2, 3, 4] : List UInt8)) : HasStats .active s

/-- A well-formed card of a shape. -/
structure WellFormed (shape : Shape) (c : Card) : Prop where
  kind : c.kind = shape.kind
  activity : c.activity = shape.activity
  /-- Items have statistics, and nothing else has. -/
  item_iff : c.item.isSome ↔ shape.kind = .item
  stats : ∀ s, c.item = some s → HasStats shape.activity s
  description : g.Shows σ shape c.description

variable {σ g}

/-- A finished card is well-formed if its texts come from the tables. -/
theorem Finished.wellFormed {shape : Shape} {c : Card} (h : g.Finished (.origin σ g) shape c) :
    g.WellFormed σ shape c := by
  cases h with
  | passiveItem hplain =>
    obtain ⟨statement, hstatement, rfl⟩ := hplain
    have hraised := Text.raisesFirst_capitalize statement
    refine ⟨rfl, rfl, by simp, fun s hs => ?_, .passive hstatement hraised⟩
    obtain rfl := Option.some.inj hs
    exact .passive (Binary32.value_ofHalves (Nat.zero_le 30)) rfl
  | passiveSkill hplain =>
    obtain ⟨statement, hstatement, rfl⟩ := hplain
    have hraised := Text.raisesFirst_capitalize statement
    exact ⟨rfl, rfl, by simp, nofun, .passive hstatement hraised⟩
  | @activeItem effect _ _ _ _ _ hplain hhalves hmulticast =>
    have hraised := Text.raisesFirst_capitalize effect
    refine ⟨rfl, rfl, by simp, fun s hs => ?_, .activeItem hplain hraised⟩
    obtain rfl := Option.some.inj hs
    exact .active hhalves (Binary32.value_ofHalves hhalves.2) hmulticast
  | @activeSkill effect _ _ hplain htrigger =>
    have hlowered := Text.lowersFirst_uncapitalize effect
    exact ⟨rfl, rfl, by simp, nofun, .activeSkill htrigger hplain hlowered⟩

/-! ### Draws -/

theorem always_drawPassive_origin (h : g.tables.Sound) :
    Always (Known.origin σ g).statement (g.drawPassive : Draw σ Text) := by
  rw [drawPassive]
  refine (Tables.always_drawTag h).canGive.bind fun tag htag => ?_
  refine (always_pick (by decide)).bind fun a ha => ?_
  refine (Modifier.succeeds_draw h a).canGive.bind fun m hm => ?_
  rw [drawStatement]
  refine (Tables.succeeds_resolve h _).canGive.bind fun resolved hresolved => ?_
  exact always_pure ⟨resolved, ⟨tag, htag.2, a, ha, m, hm.2, hresolved.2⟩, rfl⟩

theorem always_drawTrigger_origin (h : g.tables.Sound) :
    Always (g.IsTrigger σ) (g.drawTrigger : Draw σ Text) := by
  rw [drawTrigger]
  refine (Tables.always_drawTriggerVariant h).bind fun drawn htrigger => ?_
  obtain ⟨trigger, variant⟩ := drawn
  refine (Tables.succeeds_resolve h _).canGive.mono fun resolved hresolved => ?_
  exact ⟨trigger, htrigger, variant, hresolved.2⟩

/-- Every shape leads to a finished card whose texts come from the tables. -/
theorem always_generateShape_origin (h : g.tables.Sound) (shape : Shape) :
    Always (g.Finished (.origin σ g) shape) (g.generateShape shape : Draw σ Card) := by
  have heffect : ∀ effect ∈ g.tables.effects,
      Always (g.IsEffect σ) (g.tables.resolve effect.text : Draw σ Text) := fun effect hmem =>
    (Tables.succeeds_resolve h effect.text).canGive.mono fun _ hresolved =>
      ⟨effect, hmem, hresolved.2⟩
  exact always_generateShape h (always_drawPassive_origin h) heffect (always_drawTrigger_origin h)
    shape

theorem always_wellFormed_generateShape (h : g.tables.Sound) (shape : Shape) :
    Always (g.WellFormed σ shape) (g.generateShape shape : Draw σ Card) :=
  (always_generateShape_origin h shape).mono fun _ hcard => hcard.wellFormed

/-- A card for which a shape is drawn first is a well-formed card of that shape. -/
theorem wellFormed_generate (h : g.tables.Sound) (stream : σ) :
    ∃ shape stream₁ card stream₂, Shape.draw stream = some (shape, stream₁) ∧
      g.generate stream = some (card, stream₂) ∧ g.WellFormed σ shape card := by
  obtain ⟨shape, stream₁, hshape, -⟩ := succeeds_shape stream
  obtain ⟨card, stream₂, hcard, hwell⟩ := always_wellFormed_generateShape h shape stream₁
  refine ⟨shape, stream₁, card, stream₂, hshape, ?_, hwell⟩
  simp only [generate, bind, StateT.bind, hshape, Option.bind_some, hcard]

end Generator

/-! ### Engines -/

namespace Engine

/-- **Cards are well-formed.**  An engine that is set up, from whatever tables, makes a well-formed
card of any shape that is asked for, from any stream; a card from any stream is a well-formed card
of the shape that is drawn from it first; and so is each card of the engine's own sequence, however
many cards come before it. -/
theorem wellFormed_of_build (σ : Type) [WordSource σ] {files : Text → FileState} {s : Setup}
    {e : Engine} (h : s.build files = .ok e) :
    (∀ (shape : Shape) (stream : σ), ∃ card stream',
      e.generator.generateShape shape stream = some (card, stream') ∧
        e.generator.WellFormed σ shape card) ∧
    (∀ stream : σ, ∃ shape stream₁ card stream₂, Shape.draw stream = some (shape, stream₁) ∧
      e.generator.generate stream = some (card, stream₂) ∧
        e.generator.WellFormed σ shape card) ∧
    ∀ n, ∃ shape stream card,
      Shape.draw (SeededStream.ofSeed (s.seed + UInt64.ofNat n)) = some (shape, stream) ∧
      generate { e with count := n } = some (card, { e with count := n + 1 }) ∧
        e.generator.WellFormed SeededStream shape card := by
  have hsound := Tables.check_eq_ok_iff.1 (Setup.checked_of_build h)
  refine ⟨?_, Generator.wellFormed_generate hsound, fun n => ?_⟩
  · exact Generator.always_wellFormed_generateShape hsound
  · obtain ⟨t, -, rfl⟩ := Setup.build_eq_ok_iff.1 h
    obtain ⟨shape, stream, card, stream', hshape, hcard, hwell⟩ :=
      Generator.wellFormed_generate hsound (SeededStream.ofSeed (s.seed + UInt64.ofNat n))
    refine ⟨shape, stream, card, hshape, generate_eq_some.2 ⟨?_, rfl⟩, hwell⟩
    show (Generator.generate _ (SeededStream.ofSeed (s.seed + UInt64.ofNat n))).map _ = _
    exact congrArg (Option.map Prod.fst) hcard

/-- An active skill of the bundled tables, a card from a stream of its own and card 3 of seed 7. -/
theorem wellFormed_of_build_bundled :
    let g := Generator.ofTables .bundled
    Setup.build (fun _ => .missing) { seed := 7 } = .ok (start g 7) ∧
    (∃ card stream,
      g.generateShape ⟨.skill, .active⟩ (SeededStream.ofSeed 1) = some (card, stream) ∧
        g.WellFormed SeededStream ⟨.skill, .active⟩ card) ∧
    (∃ shape stream₁ card stream₂, Shape.draw (SeededStream.ofSeed 2) = some (shape, stream₁) ∧
      g.generate (SeededStream.ofSeed 2) = some (card, stream₂) ∧
        g.WellFormed SeededStream shape card) ∧
    ∃ shape stream card, Shape.draw (SeededStream.ofSeed 10) = some (shape, stream) ∧
      generate { start g 7 with count := 3 } = some (card, { start g 7 with count := 4 }) ∧
        g.WellFormed SeededStream shape card := by
  intro g
  have hbuild : Setup.build (fun _ => .missing) { seed := 7 } = .ok (start g 7) :=
    Setup.build_bundled 7
  obtain ⟨hshape, hdrawn, hown⟩ := wellFormed_of_build SeededStream hbuild
  exact ⟨hbuild, hshape ⟨.skill, .active⟩ (SeededStream.ofSeed 1), hdrawn (SeededStream.ofSeed 2),
    hown 3⟩

end Engine

end Cardwright
