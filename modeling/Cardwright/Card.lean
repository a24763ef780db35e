import Cardwright.Number.Binary32

/-!
# Cards

The finished product: an item or a skill, active or passive, with a name, a description that carries
its markup, and the statistics that only items have.
-/

namespace Cardwright

/-- Whether a card is an item or a skill. -/
inductive Kind
  | item
  | skill
deriving DecidableEq, Repr

/-- Whether a card does something when used, or modifies others while it is in play. -/
inductive Activity
  | active
  | passive
deriving DecidableEq, Repr

/-- The size of an item. -/
inductive Size
  | small
  | medium
  | large
deriving DecidableEq, Repr

/-- The rarity of an item. -/
inductive Rarity
  | bronze
  | silver
  | gold
  | legendary
deriving DecidableEq, Repr

def Kind.label : Kind → Text
  | item => "Item"
  | skill => "Skill"

def Activity.label : Activity → Text
  | active => "Active"
  | passive => "Passive"

namespace Size

/-- All sizes, from small to large. -/
def all : List Size := [small, medium, large]

def label : Size → Text
  | small => "Small"
  | medium => "Medium"
  | large => "Large"

theorem mem_all (s : Size) : s ∈ all := by cases s <;> decide

end Size

namespace Rarity

/-- All rarities, from common to rare. -/
def all : List Rarity := [bronze, silver, gold, legendary]

def label : Rarity → Text
  | bronze => "Bronze"
  | silver => "Silver"
  | gold => "Gold"
  | legendary => "Legendary"

theorem mem_all (r : Rarity) : r ∈ all := by cases r <;> decide

end Rarity

/-! ### Shapes -/

/-- The two decisions that a card starts from. -/
structure Shape where
  kind : Kind
  activity : Activity
deriving DecidableEq, Repr

/-- The shape given by two flags. -/
def Shape.ofFlags (isItem isPassive : Bool) : Shape :=
  ⟨if isItem then .item else .skill, if isPassive then .passive else .active⟩

/-! ### Cards -/

/-- The statistics of an item. -/
structure ItemStats where
  /-- The cooldown in seconds: whole half seconds, and zero for a passive item. -/
  cooldown : Binary32
  size : Size
  rarity : Rarity
  /-- How often the item acts at once; zero stands for once. -/
  multicast : UInt8
deriving DecidableEq, Repr

/-- The cooldown with one decimal and its unit, such as "4.5s". -/
def ItemStats.cooldownLabel (s : ItemStats) : Text := s.cooldown.tenths ++ ['s']

/-- A finished card. -/
structure Card where
  kind : Kind
  activity : Activity
  name : Text
  /-- The text of the card, with its keywords marked. -/
  description : Text
  /-- Statistics, which only items have. -/
  item : Option ItemStats
deriving DecidableEq, Repr

namespace Card

/-- Whether the card is an item. -/
def isItem (c : Card) : Bool := c.kind == .item

/-- Whether the card is passive. -/
def isPassive (c : Card) : Bool := c.activity == .passive

/-- The line above a card, such as "Item (Passive)" or "Skill". -/
def heading (c : Card) : Text :=
  match c.activity with
  | .active => c.kind.label
  | .passive => c.kind.label ++ " (Passive)"

/-- Whether two cards agree, cooldowns being compared as numbers. -/
def agrees (c d : Card) : Bool :=
  let stats : Option ItemStats → Option ItemStats → Bool
    | none, none => true
    | some s, some t =>
      s.cooldown.numEq t.cooldown && s.size == t.size && s.rarity == t.rarity
        && s.multicast == t.multicast
    | _, _ => false
  c.kind == d.kind && c.activity == d.activity && c.name == d.name
    && c.description == d.description && stats c.item d.item

end Card

end Cardwright
