import Cardwright.Tables.Bundled.Words

/-!
# Bundled tables

The set of tables that generators use unless they are given another one.
-/

namespace Cardwright

/-- The word pools that come with the library. -/
def Bundled.naming : NamePools :=
  { themes := themes
    defaultTheme := defaultTheme
    rarityWords := rarityWords
    sizeNouns := sizeNouns
    speed := speed
    flavorWords := flavorWords
    frameNouns := frameNouns
    skill := skill }

/-- The tables that come with the library. -/
def Tables.bundled : Tables :=
  { keywords := Bundled.keywords
    irregularPlurals := Bundled.irregularPlurals
    tags := Bundled.tags
    effects := Bundled.effects
    values := Bundled.values
    triggers := Bundled.triggers
    naming := Bundled.naming }

end Cardwright
