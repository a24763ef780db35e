import Cardwright.Record.Decode

/-!
# Cards in record notation

A card is written as a structure without its own name, every field in order, and read with its
fields in any order. `Card.render` and `Card.read?` are the two directions.
-/

namespace Cardwright

open Record (Node Layout)

/-! ### Writing -/

/-- The statistics of an item as a structure. -/
def ItemStats.toNode (s : ItemStats) : Node :=
  .fields [] [("cooldown", .number s.cooldown.text), ("size", .symbol s.size.label),
    ("rarity", .symbol s.rarity.label), ("multicast", .number (Text.decimal s.multicast.toNat))]

namespace Card

/-- A card as a structure. -/
def toNode (c : Card) : Node :=
  .fields [] [("kind", .symbol c.kind.label), ("activity", .symbol c.activity.label),
    ("name", .string c.name), ("description", .string c.description),
    ("item", match c.item with
      | none => .absent
      | some s => .present s.toNode)]

/-- The text of a card in record notation. -/
def render (c : Card) : Text := c.toNode.render

end Card

/-! ### Reading -/

/-- Interpret a structure as the statistics of an item. -/
def ItemStats.ofNode? (n : Node) : Option ItemStats := do
  let fs ← n.fieldsOf? "ItemStats"
  let cooldown ← Node.required? fs "cooldown" Node.binary32?
  let size ← Node.required? fs "size" (Node.oneOf? Size.all Size.label)
  let rarity ← Node.required? fs "rarity" (Node.oneOf? Rarity.all Rarity.label)
  let multicast ← Node.required? fs "multicast" Node.byte?
  pure ⟨cooldown, size, rarity, multicast⟩

namespace Card

/-- How a card is laid out. -/
def layout : Layout := .fields [("item", .optional .anything)]

/-- Interpret a structure as a card. -/
def ofNode? (n : Node) : Option Card := do
  let fs ← n.fieldsOf? "Descriptor"
  let kind ← Node.required? fs "kind" (Node.oneOf? [.item, .skill] Kind.label)
  let activity ← Node.required? fs "activity" (Node.oneOf? [.active, .passive] Activity.label)
  let name ← Node.required? fs "name" Node.text?
  let description ← Node.required? fs "description" Node.text?
  let item ← Node.defaulted? fs "item" none (Node.optional? ItemStats.ofNode?)
  pure ⟨kind, activity, name, description, item⟩

/-- Read a text as a card in record notation. -/
def read? (t : Text) : Option Card := (Node.read? layout t).bind ofNode?

end Card

end Cardwright
