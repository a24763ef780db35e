import Cardwright.Random.Draw
import Cardwright.Tables.Basic
import Cardwright.Text.Blank
import Cardwright.Text.Case

/-!
# Names

A card is named after itself: the theme that its text touches, its rarity, size and speed choose the
pools, and a pattern puts the words together. Skills have names of one or two words.
-/

namespace Cardwright

/-! ### Pools -/

/-- How quickly an item acts. -/
inductive SpeedBucket
  | fast
  | balanced
  | heavy
deriving DecidableEq, Repr

/-- Below three seconds an item is fast, above ten it is heavy. -/
def SpeedBucket.ofCooldown (cooldown : Binary32) : SpeedBucket :=
  if cooldown.lt (.ofHalves 6) then .fast
  else if (Binary32.ofHalves 20).lt cooldown then .heavy
  else .balanced

namespace NamePools

/-- The first theme whose key occurs in a text, which is taken in lower case. -/
def theme? (p : NamePools) (text : Text) : Option Theme :=
  let lower := Text.lowerAll text
  p.themes.find? fun theme => Text.occurs theme.key lower

/-- The nouns for a text: those of its theme, else the default ones. -/
def themeWords (p : NamePools) (text : Text) : List Text :=
  match p.theme? text with
  | some theme => theme.words
  | none => p.defaultTheme

/-- The adjectives for a cooldown. -/
def speedWords (p : NamePools) (cooldown : Binary32) : List Text :=
  match SpeedBucket.ofCooldown cooldown with
  | .fast => p.speed.fast
  | .balanced => p.speed.balanced
  | .heavy => p.speed.heavy

end NamePools

/-! ### Patterns -/

/-- The ways in which the name of an item is put together. -/
inductive NamePattern
  /-- Such as "Gilded Ember". -/
  | adjectiveNoun
  /-- Such as "Swift Ember". -/
  | speedNoun
  /-- Such as "Gilded Trinket". -/
  | adjectiveSizeNoun
  /-- Such as "Ember of Trinket". -/
  | nounOfSizeNoun
  /-- Such as "Gilded Ember of Trinket". -/
  | adjectiveNounOfSizeNoun
  /-- Such as "Gilded Ember of Ashes". -/
  | adjectiveNounOfFlavor
  /-- Such as "Ember Engine". -/
  | nounFrame
  /-- Such as "Ember". -/
  | noun
deriving DecidableEq, Repr

/-- All patterns. -/
def NamePattern.all : List NamePattern :=
  [adjectiveNoun, speedNoun, adjectiveSizeNoun, nounOfSizeNoun, adjectiveNounOfSizeNoun,
    adjectiveNounOfFlavor, nounFrame, noun]

/-- One word for each place of a pattern. -/
structure NameWords where
  /-- The word for the rarity. -/
  adjective : Text
  noun : Text
  sizeNoun : Text
  speed : Text
  flavor : Text
  frame : Text
deriving DecidableEq, Repr

/-- The words in the places of a pattern, as they stand. -/
def NameWords.arrange (w : NameWords) : NamePattern → Text
  | .adjectiveNoun => w.adjective ++ " " ++ w.noun
  | .speedNoun => w.speed ++ " " ++ w.noun
  | .adjectiveSizeNoun => w.adjective ++ " " ++ w.sizeNoun
  | .nounOfSizeNoun => w.noun ++ " of " ++ w.sizeNoun
  | .adjectiveNounOfSizeNoun => w.adjective ++ " " ++ w.noun ++ " of " ++ w.sizeNoun
  | .adjectiveNounOfFlavor => w.adjective ++ " " ++ w.noun ++ " of " ++ w.flavor
  | .nounFrame => w.noun ++ " " ++ w.frame
  | .noun => w.noun

/-- The name that a pattern makes of the words. -/
def NameWords.assemble (w : NameWords) (pattern : NamePattern) : Text :=
  Text.normalize (w.arrange pattern)

/-- Raise the first letter of every word and put single spaces between them. -/
def capitalizeWords (t : Text) : Text := [' '].intercalate ((Text.words t).map Text.capitalize)

/-! ### Draws -/

namespace NamePools

variable {σ : Type} [WordSource σ]

/-- Draw a word for every place, from the pools that suit a text, a cooldown, a size and a rarity.
-/
def drawWords (p : NamePools) (text : Text) (cooldown : Binary32) (size : Size) (rarity : Rarity) :
    Draw σ NameWords := do
  let adjective ← Draw.pick (p.rarity rarity)
  let noun ← Draw.pick (p.themeWords text)
  let sizeNoun ← Draw.pick (p.size size)
  let speed ← Draw.pick (p.speedWords cooldown)
  let flavor ← Draw.pick p.flavorWords
  let frame ← Draw.pick p.frameNouns
  pure ⟨adjective, noun, sizeNoun, speed, flavor, frame⟩

/-- Draw the name of an item. -/
def drawItemName (p : NamePools) (text : Text) (cooldown : Binary32) (size : Size)
    (rarity : Rarity) : Draw σ Text := do
  let words ← p.drawWords text cooldown size rarity
  let pattern ← Draw.pick NamePattern.all
  pure (words.assemble pattern)

/-- The words that make a skill elemental, quick or powerful, in order of precedence, each group
with the pool that it selects. -/
def skillGroups (s : SkillPools) : List (List Text × List Text) :=
  [(["poison", "burn", "freeze"], s.elemental), (["haste", "cooldown"], s.speed),
    (["damage", "destroy"], s.power)]

/-- The pool for a skill: that of the first group with a member in its text, else any of four. -/
def drawSkillPool (p : NamePools) (text : Text) : Draw σ (List Text) :=
  let lower := Text.lowerAll text
  match (skillGroups p.skill).find? fun group => group.1.any (Text.occurs · lower) with
  | some group => pure group.2
  | none => Draw.pick [p.skill.quirky, p.skill.actions, p.skill.speed, p.skill.power]

/-- Draw the name of a skill, two times out of five with an action behind it. -/
def drawSkillName (p : NamePools) (text : Text) : Draw σ Text := do
  let pool ← p.drawSkillPool text
  let word ← Draw.pick pool
  if ← Draw.chance 0.4 then
    let action ← Draw.pick p.skill.actions
    pure (capitalizeWords (word ++ ' ' :: action))
  else pure (capitalizeWords word)

end NamePools

end Cardwright
