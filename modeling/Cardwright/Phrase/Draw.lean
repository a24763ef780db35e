import Cardwright.Phrase.Form
import Cardwright.Random.Draw
import Cardwright.Template.Fill

/-!
# Drawing phrases

The draws that put the tables into words. Every ratio is a constant of the game. A draw reports the
choices it made beside the text that they lead to, and `Tables.resolve` fills the slots of a
sentence by such draws.
-/

namespace Cardwright

/-! ### What was drawn -/

/-- A tag with the choices made for it. -/
structure DrawnTag where
  tag : Tag
  side : Side
  form : TagForm
  text : Text
deriving DecidableEq, Repr

/-- A value with the choices made for it. -/
structure DrawnValue where
  value : Value
  side : Side
  multiplier : Multiplier
  text : Text
  /-- Whether a bare number took the place of a value before "as", which then drops out. -/
  dropsAs : Bool
deriving DecidableEq, Repr

variable {σ : Type} [WordSource σ]

/-- A multiplier: once, unless the value may be multiplied and half of the time even then. Nothing
is drawn for a value that may not. -/
def Multiplier.draw (multipliable : Bool) : Draw σ Multiplier :=
  if multipliable then do
    if ← Draw.chance 0.5 then Draw.pick all else pure once
  else pure once

namespace Tables

/-! ### Draws from the tables -/

/-- Draw a tag, a side, a form, and for an amount a number from 2 to 5. -/
def drawTag (t : Tables) : Draw σ DrawnTag := do
  let tag ← Draw.pick t.tags
  let side := Side.ofFlag (← Draw.chance 0.5)
  let form := TagForm.ofRoll (← Draw.roll)
  let count ← if form = .amount then Draw.natBetween 2 5 else pure 0
  pure ⟨tag, side, form, tag.render side form count⟩

/-- Draw a value and a side. `asAhead` says that the sentence goes on with "as". -/
def drawValue (t : Tables) (asAhead : Bool) : Draw σ DrawnValue := do
  let value ← Draw.pick t.values
  let side := Side.ofFlag (← Draw.chance 0.5)
  match value.kind with
  | .plainNumber =>
    let n ← Draw.natBetween 0 100
    pure ⟨value, side, .once, Text.decimal n, asAhead⟩
  | .phrase p =>
    let multiplier ← Multiplier.draw p.multipliable
    pure ⟨value, side, multiplier, multiplier.lead ++ p.forSide side, false⟩

/-- Draw a phrase, for your own side, that something can scale with. A plain number has none. -/
def drawScaling (t : Tables) : Draw σ (Option Text) := do
  let value ← Draw.pick t.values
  match value.kind with
  | .plainNumber => pure none
  | .phrase p =>
    let multiplier ← Multiplier.draw p.multipliable
    pure (some (multiplier.lead ++ p.own))

/-- Draw a duration: nine times out of ten from 1 to 8 half seconds, else a value. -/
def drawDuration (t : Tables) : Draw σ Duration := do
  if ← Draw.chance 0.9 then
    let halves ← Draw.natBetween 1 8
    pure (.seconds (.ofHalves halves))
  else
    let value ← Draw.pick t.values
    match value.kind with
    | .plainNumber => .number <$> Draw.natBetween 0 100
    | .phrase p => pure (.phrase p.own)

/-- Draw a percentage. -/
def drawPercent : Draw σ Nat := Draw.natBetween 0 100

/-- Draw a number of occurrences, from 2 to 9 if it is not a single one. -/
def drawTimes : Draw σ Times := do
  let roll ← Draw.roll
  let count ← if roll < 0.75 then pure 0 else Draw.natBetween 2 9
  pure (.ofRoll roll count)

/-- Draw a trigger and one of its variants. -/
def drawTriggerVariant (t : Tables) : Draw σ (Trigger × TriggerVariant) := do
  let trigger ← Draw.pick t.triggers
  let roll ← Draw.roll
  pure (trigger, .ofRoll roll)

/-- Draw an effect. -/
def drawEffect (t : Tables) : Draw σ Effect := Draw.pick t.effects

/-! ### Filling sentences -/

/-- Fill one slot by a draw from the tables. -/
def fill (t : Tables) (kind : Placeholder) (asAhead : Bool) : Draw σ Fill :=
  match kind with
  | .tag => do return .plain (← t.drawTag).text
  | .times => do return .plain (← drawTimes).render
  | .value => do
    let v ← t.drawValue asAhead
    pure ⟨v.text, v.dropsAs⟩
  | .duration => do return .plain (← t.drawDuration).render
  | .percent => do return .plain (Text.decimal (← drawPercent) ++ ['%'])

/-- Fill every slot of a sentence by draws from the tables. -/
def resolve (t : Tables) (sentence : Text) : Draw σ Text := Template.resolveWith t.fill sentence

end Tables

end Cardwright
