import Cardwright.Card

/-!
# Content tables

The data that cards are made from: tags, effects, values and triggers with their phrases, the
keywords that are marked in finished text, and the word pools that names are drawn from. Tables are
plain data; which of them a generator accepts is the subject of `Cardwright.Tables.Check`.

The maps of a table set are lists of pairs with distinct keys, kept by `insertEntry`, so that their
order is part of the data. Main statement: `lookup_insertEntry` (the last entry of a key counts).
-/

namespace Cardwright

/-! ### Entries of a map -/

/-- Enter a value for a key. An entry of the same key is replaced where it stands. -/
def insertEntry {κ α : Type} [DecidableEq κ] (key : κ) (value : α) : List (κ × α) → List (κ × α)
  | [] => [(key, value)]
  | (k, v) :: entries =>
    if k = key then (key, value) :: entries else (k, v) :: insertEntry key value entries

theorem lookup_cons {κ α : Type} [DecidableEq κ] (k a : κ) (v : α) (entries : List (κ × α)) :
    ((a, v) :: entries).lookup k = if k = a then some v else entries.lookup k := by
  rw [List.lookup_cons]
  by_cases h : k = a
  · simp [h]
  · rw [beq_false_of_ne h, if_neg h]

/-- After an entry its key has the new value, and every other key what it had. -/
theorem lookup_insertEntry {κ α : Type} [DecidableEq κ] (key k : κ) (value : α)
    (entries : List (κ × α)) :
    (insertEntry key value entries).lookup k =
      if k = key then some value else entries.lookup k := by
  induction entries with
  | nil => rw [insertEntry, lookup_cons]
  | cons e entries ih =>
    obtain ⟨a, v⟩ := e
    by_cases ha : a = key
    · simp only [insertEntry, ha, if_true, lookup_cons]
      split <;> rfl
    · simp only [insertEntry, ha, if_false, lookup_cons, ih]
      split
      · next h => rw [if_neg (h ▸ ha)]
      · rfl

/-! ### Phrases -/

/-- The three forms of a tag for one side of the board. -/
structure TagForms where
  /-- One of them: "an item". -/
  single : Text
  /-- All of them: "your items". -/
  plural : Text
  /-- A number of them, with `{Number}` for the number. -/
  amount : Text
deriving DecidableEq, Repr

/-- A class of items that effects and triggers refer to. -/
structure Tag where
  id : Text
  own : TagForms
  opponent : TagForms
deriving DecidableEq, Repr

/-- Something a card does, as a template. -/
structure Effect where
  id : Text
  text : Text
deriving DecidableEq, Repr

/-- The phrases of a value that effects scale with. -/
structure ValuePhrases where
  own : Text
  opponent : Text
  /-- The phrase for the card itself, if there is one. -/
  singleItem : Option Text
  /-- Whether "twice" or "triple" may stand in front. -/
  multipliable : Bool
deriving DecidableEq, Repr

/-- How a value is put into words. -/
inductive ValueKind
  /-- A bare number, which lets a following "as" drop out of the sentence. -/
  | plainNumber
  | phrase (phrases : ValuePhrases)
deriving DecidableEq, Repr

/-- A value that effects refer to. -/
structure Value where
  id : Text
  kind : ValueKind
deriving DecidableEq, Repr

/-- The phrase of a value for the card itself, if there is one. -/
def Value.singleItem? (v : Value) : Option Text :=
  match v.kind with
  | .phrase p => p.singleItem
  | .plainNumber => none

/-- An occasion on which a skill acts, in four phrasings. -/
structure Trigger where
  id : Text
  own : Text
  opponent : Text
  ownFirstN : Text
  opponentFirstN : Text
deriving DecidableEq, Repr

/-! ### Word pools -/

/-- Nouns for the texts in which a key occurs. -/
structure Theme where
  key : Text
  words : List Text
deriving DecidableEq, Repr

/-- Adjectives by cooldown. -/
structure SpeedPools where
  fast : List Text
  balanced : List Text
  heavy : List Text
deriving DecidableEq, Repr

/-- The words of skill names. -/
structure SkillPools where
  speed : List Text
  power : List Text
  quirky : List Text
  elemental : List Text
  actions : List Text
deriving DecidableEq, Repr

/-- Every word pool that names are drawn from. -/
structure NamePools where
  /-- Themes in order: the first one whose key occurs in a text counts. -/
  themes : List Theme
  defaultTheme : List Text
  rarityWords : List (Rarity × List Text)
  sizeNouns : List (Size × List Text)
  speed : SpeedPools
  /-- The closing words of "X of Y" names. -/
  flavorWords : List Text
  /-- The closing nouns of "X Engine" names. -/
  frameNouns : List Text
  skill : SkillPools
deriving DecidableEq, Repr

namespace NamePools

/-- The words of a rarity, none if the tier is missing. -/
def rarity (p : NamePools) (r : Rarity) : List Text := (p.rarityWords.lookup r).getD []

/-- The nouns of a size, none if the tier is missing. -/
def size (p : NamePools) (s : Size) : List Text := (p.sizeNouns.lookup s).getD []

end NamePools

/-! ### The whole set -/

/-- A complete set of tables. -/
structure Tables where
  /-- The words that are marked in finished text. -/
  keywords : List Text
  /-- Keywords that are irregular plurals, each with its singular. -/
  irregularPlurals : List (Text × Text)
  tags : List Tag
  effects : List Effect
  values : List Value
  triggers : List Trigger
  naming : NamePools
deriving DecidableEq, Repr

end Cardwright
