import Cardwright.Tables.Check

/-!
# Forms of phrases

A phrase of the tables is put into a sentence in one of several forms: for one side of the board or
the other, one item or all of them or a number of them, the first few times or every time. This
module holds the forms, the partition of the unit interval that chooses between them, and their
wording.
-/

namespace Cardwright

/-! ### Sides -/

/-- Whose cards a phrase is about. -/
inductive Side
  | own
  | opponent
deriving DecidableEq, Repr

/-- The side given by a flag. -/
def Side.ofFlag (isOpponent : Bool) : Side := if isOpponent then .opponent else .own

/-! ### Tags -/

/-- The grammatical form of a tag. -/
inductive TagForm
  | amount
  | plural
  | single
deriving DecidableEq, Repr

/-- Of the rolls in `[0, 1)`, the first fifth gives an amount, the next two fifths a plural, and the
rest the single form. -/
def TagForm.ofRoll (roll : Float) : TagForm :=
  if roll < 0.2 then .amount else if roll < 0.6 then .plural else .single

/-- The forms of a tag for one side. -/
def Tag.forms (t : Tag) : Side → TagForms
  | .own => t.own
  | .opponent => t.opponent

/-- Put a number in the place that an amount form keeps for it. -/
def fillNumber (count : Nat) (amount : Text) : Text :=
  Text.replaceAll numberToken (Text.decimal count) amount

/-- The wording of a tag. Only the amount form mentions the count. -/
def Tag.render (t : Tag) (side : Side) (form : TagForm) (count : Nat) : Text :=
  match form with
  | .amount => fillNumber count (t.forms side).amount
  | .plural => (t.forms side).plural
  | .single => (t.forms side).single

/-! ### Values -/

/-- How many times over a value counts. -/
inductive Multiplier
  | once
  | twice
  | triple
deriving DecidableEq, Repr

namespace Multiplier

/-- All multipliers. -/
def all : List Multiplier := [once, twice, triple]

/-- The word in front of a value, with the space behind it. -/
def lead : Multiplier → Text
  | once => ""
  | twice => "twice "
  | triple => "triple "

end Multiplier

/-- The phrase of a value for one side. -/
def ValuePhrases.forSide (p : ValuePhrases) : Side → Text
  | .own => p.own
  | .opponent => p.opponent

/-! ### Durations -/

/-- How long an effect lasts. -/
inductive Duration
  | seconds (n : Binary32)
  | number (n : Nat)
  | phrase (text : Text)
deriving DecidableEq, Repr

/-- The wording of a duration. -/
def Duration.render : Duration → Text
  | seconds n => n.tenths ++ ['s']
  | number n => Text.decimal n
  | phrase text => text

/-! ### Occurrences -/

/-- How many occurrences "the first …" counts. -/
inductive Times
  | once
  | count (n : Nat)
deriving DecidableEq, Repr

/-- Of the rolls in `[0, 1)`, the first three quarters count a single occurrence. -/
def Times.ofRoll (roll : Float) (count : Nat) : Times := if roll < 0.75 then .once else .count count

/-- The wording behind "the first". -/
def Times.render : Times → Text
  | once => "time"
  | count n => Text.decimal n ++ " times"

/-! ### Triggers -/

/-- Which of its four phrasings a trigger takes. -/
inductive TriggerVariant
  | ownFirstN
  | opponentFirstN
  | opponent
  | own
deriving DecidableEq, Repr

/-- Of the rolls in `[0, 1)`, two fifths count your own first occurrences, the next tenth your
opponent's, the next quarter is about your opponent, and the last one about you. -/
def TriggerVariant.ofRoll (roll : Float) : TriggerVariant :=
  if roll < 0.4 then .ownFirstN
  else if roll < 0.5 then .opponentFirstN
  else if roll < 0.75 then .opponent
  else .own

/-- The phrase of a trigger in one of its variants. -/
def Trigger.phrase (t : Trigger) : TriggerVariant → Text
  | .ownFirstN => t.ownFirstN
  | .opponentFirstN => t.opponentFirstN
  | .opponent => t.opponent
  | .own => t.own

end Cardwright
