import Cardwright.Markup.Keyword
import Cardwright.Template.Basic
import Cardwright.Text.Blank
import Cardwright.Text.Case
import Cardwright.Text.Quoted

/-!
# Linting tables

The linter looks for spots that the check of tables lets pass: identifiers that occur twice, braces
that will never be filled, themes that no effect touches, pools that make names repeat, and name
words that would be marked as keywords. The first are errors, the others warnings.

Pools are visited in the order of their names, so the report does not depend on the order of the
maps they are kept in.
-/

namespace Cardwright

/-- What the linter found. -/
structure LintReport where
  errors : List Text
  warnings : List Text
deriving DecidableEq, Repr

namespace Lint

/-! ### Identifiers and braces -/

/-- The members of a list that occurred before, `seen` being what came before the list. -/
def repeated (seen : List Text) : List Text → List Text
  | [] => []
  | id :: ids => if seen.contains id then id :: repeated seen ids else repeated (id :: seen) ids

/-- One error for every identifier of a table that occurred before. -/
def duplicateIds (table : Text) (ids : List Text) : List Text :=
  (repeated [] ids).map fun id => "Table '" ++ table ++ "' has duplicate id '" ++ id ++ "'"

/-- The literals of a text that hold a brace, which will never be filled. -/
def strayLiterals (text : Text) : List Text :=
  (Template.parse text).filterMap fun
    | .literal l => if l.contains '{' || l.contains '}' then some l else none
    | .slot _ => none

/-- One warning for every literal of a text that holds a brace. -/
def strayBraces (table id text : Text) : List Text :=
  (strayLiterals text).map fun l =>
    table ++ " '" ++ id ++ "' has text that will not be filled: " ++ Text.quote false l

/-! ### Themes and pools -/

/-- One warning for every theme whose key occurs in no effect. -/
def idleThemes (t : Tables) : List Text :=
  let effects := t.effects.map fun e => Text.lowerAll e.text
  let idle := t.naming.themes.filter fun theme => !effects.any (Text.occurs theme.key ·)
  idle.map fun theme =>
    "Theme '" ++ theme.key ++ "' never matches an effect; only passives can select it"

/-- A pool of words with the name it is reported under. -/
abbrev NamedPool := Text × List Text

/-- All pools, by name. Pools of one name keep the order of the themes they belong to. -/
def pools (n : NamePools) : List NamedPool :=
  let fixed : List NamedPool :=
    [("default_theme", n.defaultTheme), ("speed.fast", n.speed.fast),
      ("speed.balanced", n.speed.balanced), ("speed.heavy", n.speed.heavy),
      ("flavor_words", n.flavorWords), ("frame_nouns", n.frameNouns),
      ("skill.speed", n.skill.speed), ("skill.power", n.skill.power),
      ("skill.quirky", n.skill.quirky), ("skill.elemental", n.skill.elemental),
      ("skill.actions", n.skill.actions)]
  let themes : List NamedPool := n.themes.map fun t => (("themes." : Text) ++ t.key, t.words)
  let rarities : List NamedPool :=
    n.rarityWords.map fun e => (("rarity_prefixes." : Text) ++ e.1.label, e.2)
  let sizes : List NamedPool := n.sizeNouns.map fun e => (("size_nouns." : Text) ++ e.1.label, e.2)
  (fixed ++ themes ++ rarities ++ sizes).mergeSort fun a b => Text.inOrder a.1 b.1

/-- Pools with fewer words than this make names repeat. -/
def minPoolWords : Nat := 3

/-- A warning if a pool is small. -/
def smallPool (p : NamedPool) : List Text :=
  if p.2.length < minPoolWords then
    ["Pool '" ++ p.1 ++ "' has only " ++ Text.decimal p.2.length ++ " words (minimum "
      ++ Text.decimal minPoolWords ++ " recommended)"]
  else []

/-- The first word of a phrase that is a keyword. -/
def keywordIn? (m : Matcher) (phrase : Text) : Option Text := (Text.words phrase).find? m.isKeyword

/-- One warning for every phrase of a pool with a keyword in it. -/
def keywordPhrases (m : Matcher) (p : NamedPool) : List Text :=
  p.2.filterMap fun phrase => (keywordIn? m phrase).map fun word =>
    "Pool '" ++ p.1 ++ "' word '" ++ phrase ++ "' contains keyword '" ++ word ++ "'"

end Lint

/-! ### The report -/

/-- Lint a set of tables, looking for the keywords of a matcher. -/
def Tables.lint (t : Tables) (m : Matcher) : LintReport :=
  { errors :=
      Lint.duplicateIds "tags" (t.tags.map (·.id))
        ++ Lint.duplicateIds "effects" (t.effects.map (·.id))
        ++ Lint.duplicateIds "values" (t.values.map (·.id))
        ++ Lint.duplicateIds "triggers" (t.triggers.map (·.id))
    warnings :=
      t.effects.flatMap (fun e => Lint.strayBraces "effect" e.id e.text)
        ++ t.triggers.flatMap (fun g =>
          [g.own, g.opponent, g.ownFirstN, g.opponentFirstN].flatMap
            (Lint.strayBraces "trigger" g.id))
        ++ Lint.idleThemes t
        ++ (Lint.pools t.naming).flatMap fun p => Lint.smallPool p ++ Lint.keywordPhrases m p }

end Cardwright
