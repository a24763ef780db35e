import Cardwright.Phrase.Draw

/-!
# Standing modifiers

What a passive card states: the items of a tag have something added to one of their attributes,
either a flat amount with its sign or a phrase that the attribute scales with.
-/

namespace Cardwright

/-- The attributes that a passive card can modify. -/
inductive ItemAttribute
  | cooldown
  | cooldownPercent
  | regen
  | heal
  | shield
  | damage
  | poison
  | burn
deriving DecidableEq, Repr

namespace ItemAttribute

/-- All attributes. -/
def all : List ItemAttribute :=
  [cooldown, cooldownPercent, regen, heal, shield, damage, poison, burn]

/-- The word for an attribute. A cooldown in percent has its sign on the amount, not on the word. -/
def label : ItemAttribute → Text
  | cooldown | cooldownPercent => "Cooldown"
  | regen => "Regen"
  | heal => "Heal"
  | shield => "Shield"
  | damage => "Damage"
  | poison => "Poison"
  | burn => "Burn"

end ItemAttribute

/-- What is added to an attribute. -/
inductive Modifier
  | flat (amount : Text)
  | scaling (phrase : Text)
deriving DecidableEq, Repr

/-- A whole number with its sign, zero having none. -/
def signedAmount (n : Int) : Text :=
  if 0 < n then '+' :: Text.signedDecimal n else Text.signedDecimal n

/-- A number of tenths with its sign, as a number with one decimal. -/
def signedTenths (n : Int) : Text :=
  let magnitude := Text.decimal (n.natAbs / 10) ++ '.' :: Text.decimal (n.natAbs % 10)
  if 0 < n then '+' :: magnitude else if n < 0 then '-' :: magnitude else magnitude

/-- The statement that the items of a tag have something added to an attribute. -/
def Modifier.statement (tag : Text) (m : Modifier) (a : ItemAttribute) : Text :=
  match m with
  | flat amount => tag ++ " has " ++ amount ++ " " ++ a.label
  | scaling phrase => tag ++ " has " ++ phrase ++ " as " ++ a.label

variable {σ : Type} [WordSource σ]

/-- Draw an attribute. -/
def ItemAttribute.draw : Draw σ ItemAttribute := Draw.pick all

/-- Draw a flat amount in the range of an attribute. -/
def ItemAttribute.drawAmount (a : ItemAttribute) : Draw σ Text :=
  match a with
  | cooldown => do return signedAmount (← Draw.between (-10) 10) ++ ['s']
  | cooldownPercent => do return signedTenths (← Draw.between (-1000) 1000) ++ ['%']
  | heal | shield | damage => signedAmount <$> Draw.between (-100) 100
  | regen | poison | burn => signedAmount <$> Draw.between (-10) 10

/-- Draw what is added to an attribute: half of the time a phrase to scale with, if the value drawn
has one, else a flat amount. -/
def Modifier.draw (t : Tables) (a : ItemAttribute) : Draw σ Modifier := do
  if ← Draw.chance 0.5 then
    match ← t.drawScaling with
    | some phrase => pure (.scaling phrase)
    | none => .flat <$> a.drawAmount
  else .flat <$> a.drawAmount

end Cardwright
