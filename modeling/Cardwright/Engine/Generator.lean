import Cardwright.Markup.Keyword
import Cardwright.Name
import Cardwright.Phrase.Modifier

/-!
# Generating a card

A card is generated from one random source in a fixed order of draws: its text, then the statistics
of an item, then the name, and for an active skill the trigger. The name is chosen by the plain
text; the description is that text with its keywords marked.

The order matters beyond the card at hand: since a draw may reject words, what is drawn first
decides which words are left for the rest.
-/

namespace Cardwright

/-- What cards are generated from. -/
structure Generator where
  tables : Tables
  matcher : Matcher
deriving DecidableEq, Repr

/-- The generator that marks the keywords of its own tables. -/
def Generator.ofTables (t : Tables) : Generator := ⟨t, .ofTables t⟩

variable {σ : Type} [WordSource σ]

/-- Draw a shape: every second card is an item, and independently three in ten are passive. -/
def Shape.draw : Draw σ Shape := do
  let isItem ← Draw.chance 0.5
  let isPassive ← Draw.chance 0.3
  pure (.ofFlags isItem isPassive)

namespace Generator

/-! ### Texts -/

/-- Draw a trigger phrase with its slots filled, such as "When you use an item,". -/
def drawTrigger (g : Generator) : Draw σ Text := do
  let (trigger, variant) ← g.tables.drawTriggerVariant
  g.tables.resolve (trigger.phrase variant)

/-- The statement of a modifier with its slots filled and its first letter raised. -/
def drawStatement (g : Generator) (tag : Text) (m : Modifier) (a : ItemAttribute) :
    Draw σ Text := do
  let resolved ← g.tables.resolve (m.statement tag a)
  pure (Text.capitalize resolved)

/-- Draw the statement of a passive card. -/
def drawPassive (g : Generator) : Draw σ Text := do
  let tag ← g.tables.drawTag
  let a ← ItemAttribute.draw
  let m ← Modifier.draw g.tables a
  g.drawStatement tag.text m a

/-- The description of an active skill: the trigger, and the effect going on with its sentence. Each
is marked on its own. -/
def skillDescription (g : Generator) (trigger effect : Text) : Text :=
  g.matcher.highlight trigger ++ ' ' :: g.matcher.highlight (Text.uncapitalize effect) ++ ['.']

/-! ### Cards -/

/-- Draw a passive card: its statement, and for an item a size and a rarity. -/
def passiveCard (g : Generator) (kind : Kind) : Draw σ Card := do
  let plain ← g.drawPassive
  let description := g.matcher.sentence plain
  match kind with
  | .item =>
    let size ← Draw.pick Size.all
    let rarity ← Draw.pick Rarity.all
    let cooldown := Binary32.ofHalves 0
    let name ← g.tables.naming.drawItemName plain cooldown size rarity
    pure ⟨kind, .passive, name, description, some ⟨cooldown, size, rarity, 0⟩⟩
  | .skill =>
    let name ← g.tables.naming.drawSkillName plain
    pure ⟨kind, .passive, name, description, none⟩

/-- The multicast counts of active items; zero stands for none. -/
def multicastChoices : List UInt8 := [0, 2, 3, 4]

/-- Draw an active card: its effect, then for an item its statistics and a name, for a skill a name
and the trigger. Cooldowns are from 1 to 30 half seconds. -/
def activeCard (g : Generator) (kind : Kind) : Draw σ Card := do
  let effect ← g.tables.drawEffect
  let plain ← g.tables.resolve effect.text
  match kind with
  | .item =>
    let plain := Text.capitalize plain
    let halves ← Draw.natBetween 1 30
    let cooldown := Binary32.ofHalves halves
    let size ← Draw.pick Size.all
    let rarity ← Draw.pick Rarity.all
    let multicast ← Draw.pick multicastChoices
    let name ← g.tables.naming.drawItemName plain cooldown size rarity
    pure ⟨kind, .active, name, g.matcher.sentence plain, some ⟨cooldown, size, rarity, multicast⟩⟩
  | .skill =>
    let name ← g.tables.naming.drawSkillName plain
    let trigger ← g.drawTrigger
    pure ⟨kind, .active, name, g.skillDescription trigger plain, none⟩

/-- Draw a card of a given shape. -/
def generateShape (g : Generator) (shape : Shape) : Draw σ Card :=
  match shape.activity with
  | .passive => g.passiveCard shape.kind
  | .active => g.activeCard shape.kind

/-- Draw a shape and a card of it. -/
def generate (g : Generator) : Draw σ Card := do
  let shape ← Shape.draw
  g.generateShape shape

end Generator

end Cardwright
