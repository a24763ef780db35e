import Cardwright.Tables.Bundled.Phrases

/-!
# Bundled tables: word pools

The words that the names of bundled cards are drawn from.
-/

namespace Cardwright.Bundled

/-- Nouns by what a card's text mentions. -/
def themes : List Theme :=
  [⟨"poison",
      texts
        ["Toxin", "Vial", "Venom", "Serpent", "Pestle", "Plague", "Cauldron", "Ichor", "Spore",
         "Fang", "Mire", "Miasma", "Basilisk", "Rot", "Brew", "Elixir", "Scarab", "Wisp"]⟩,
    ⟨"burn",
      texts
        ["Cinder", "Ash", "Blaze", "Flame", "Brand", "Coal", "Ember", "Inferno", "Pyre", "Torch",
         "Kindle", "Scorch", "Furnace", "Char", "Singe", "Spark", "Soot", "Lantern"]⟩,
    ⟨"freeze",
      texts
        ["Frost", "Shard", "Icicle", "Snow", "Chill", "Crystal", "Glacier", "Hail", "Rime", "Flake",
         "Drift", "Permafrost", "Hoarfrost", "Winter", "Gale", "Borealis"]⟩,
    ⟨"haste",
      texts
        ["Whirl", "Pulse", "Spur", "Drive", "Motor", "Wing", "Gale", "Zephyr", "Dash", "Surge",
         "Rush", "Quiver", "Flicker", "Breeze", "Impulse", "Jolt", "Leap"]⟩,
    ⟨"slow",
      texts
        ["Stone", "Anchor", "Weight", "Tar", "Mud", "Clock", "Boulder", "Moss", "Sludge", "Snail",
         "Tide", "Root", "Stasis", "Mire", "Lagoon", "Stillness"]⟩,
    ⟨"heal",
      texts
        ["Balm", "Draught", "Lily", "Vessel", "Remedy", "Tonic", "Salve", "Poultice", "Herb",
         "Bloom", "Spring", "Mender", "Elixir", "Panacea", "Petal", "Sap", "Dew"]⟩,
    ⟨"shield",
      texts
        ["Bulwark", "Guard", "Barrier", "Wall", "Aegis", "Ward", "Bastion", "Mantle", "Shell",
         "Rampart", "Screen", "Dome", "Plate", "Palisade", "Cover"]⟩]

/-- Nouns for texts without a theme. -/
def defaultTheme : List Text :=
  texts
    ["Relic", "Charm", "Echo", "Engine", "Spindle", "Lens", "Totem", "Sigil", "Glyph", "Idol",
     "Prism", "Matrix", "Obelisk", "Talisman", "Compass", "Orb", "Crest", "Medallion", "Fragment",
     "Tablet", "Scroll", "Crown", "Diadem", "Band", "Loop", "Pendant", "Brooch", "Token", "Rune",
     "Mark", "Thread", "Fiber", "Spool", "Rod", "Wand", "Pillar", "Spire", "Helix", "Node", "Focus",
     "Beacon"]

/-- Adjectives by rarity. -/
def rarityWords : List (Rarity × List Text) :=
  [(.bronze,
      texts
        ["Rusty", "Old", "Cracked", "Worn", "Dented", "Patched", "Tarnished", "Weathered", "Faded",
         "Antique", "Dusty", "Aged", "Battered", "Oxidized", "Rough"]),
    (.silver,
      texts
        ["Polished", "Refined", "Noble", "Runed", "Gleaming", "Shining", "Lustrous", "Etched",
         "Engraved", "Sterling", "Bright", "Mirrored", "Chased", "Ornate", "Elegant"]),
    (.gold,
      texts
        ["Royal", "Blessed", "Radiant", "Empowered", "Imbued", "Gilded", "Luminous", "Opulent",
         "Majestic", "Glorious", "Resplendent", "Shimmering", "Celestial", "Auric", "Exalted"]),
    (.legendary,
      texts
        ["The", "Ancient", "Eternal", "Prime", "Forbidden", "Mythic", "Fabled", "Lost", "Arcane",
         "Primordial", "Unbound", "Transcendent", "Enigmatic", "Unseen", "Unspoken"])]

/-- Nouns by size. -/
def sizeNouns : List (Size × List Text) :=
  [(.small,
      texts
        ["Trinket", "Charm", "Shard", "Coin", "Pebble", "Miniature", "Chip", "Bead", "Droplet",
         "Sprig", "Button", "Gem", "Nugget", "Ojime", "Tumi", "Kokoshnik", "Fibula", "Netsuke",
         "Amulet", "Talisman", "Torii", "Nazarlik", "Maneki", "Matryoshka", "Scarabaeus",
         "Lunula"]),
    (.medium,
      texts
        ["Device", "Artifact", "Focus", "Prism", "Module", "Relic", "Stone", "Tablet", "Medallion",
         "Band", "Loop", "Crest", "Token", "Boomerang", "Khopesh", "Kora", "Djembe", "Didgeridoo",
         "Kylix", "Targe", "Churinga", "Kundu", "Censer", "Astrolabe", "Sistrum", "Gong"]),
    (.large,
      texts
        ["Monolith", "Engine", "Construct", "Beacon", "Obelisk", "Pillar", "Column", "Statue",
         "Totem", "Spire", "Tower", "Golem", "Boulder", "Moai", "Dolmen", "Stupa", "Torana",
         "Menhir", "Oba Head", "Ziggurat", "Pagoda", "Kurgan", "Sphinx", "Chorten", "Moongate",
         "Stele"])]

/-- Adjectives by cooldown. -/
def speed : SpeedPools :=
  { fast :=
      texts
        ["Swift", "Quick", "Rapid", "Blink", "Fleet", "Nimble", "Brisk", "Spry", "Zippy", "Agile",
         "Snappy", "Lively"]
    balanced :=
      texts
        ["Balanced", "Attuned", "Weighted", "Steady", "Even", "Measured", "Poised", "Stable",
         "Harmonic"]
    heavy :=
      texts
        ["Heavy", "Enduring", "Slumbering", "Stalwart", "Massive", "Bulky", "Lumbering", "Sturdy",
         "Solid", "Immovable"] }

/-- The closing words of "X of Y" names. -/
def flavorWords : List Text :=
  texts
    ["Echoes", "Dreams", "Dust", "Ashes", "Legends", "Wonders", "Secrets", "Shadows", "Visions",
     "Myths", "Stars", "Ages", "Cycles", "Origins", "Fates", "Hopes", "Night", "Dawn", "Twilight",
     "Storms", "Tides"]

/-- The closing nouns of "X Engine" names. -/
def frameNouns : List Text :=
  texts
    ["Engine", "Core", "Construct", "Matrix", "Node", "Helix", "Array", "Frame", "Shell", "Cage",
     "Sphere", "Loop", "Lens", "Prism", "Band", "Thread", "Fiber", "Spool"]

/-- The words of skill names. -/
def skill : SkillPools :=
  { speed :=
      texts
        ["Swift", "Rapid", "Instant", "Quick Strike", "Blinding", "Lightning", "Fleetfoot", "Hasty",
         "Blinking", "Darting", "Vivid", "Vigorous", "Hurried", "Spry", "Nimble", "Dashing",
         "Whirling", "Fleeting"]
    power :=
      texts
        ["Devastating", "Mighty", "Brutal Impact", "Colossal", "Thunderous", "Savage", "Ferocious",
         "Titanic", "Crushing", "Unstoppable", "Relentless", "Ironclad", "Forceful", "Rampaging",
         "Overwhelming"]
    quirky :=
      texts
        ["Sleepy", "Sneaky", "Clumsy", "Wobbly", "Bouncy", "Jumpy", "Goofy", "Oddball", "Zany",
         "Wonky", "Loopy", "Cheeky", "Funky", "Quirky", "Mischievous", "Bizarre"]
    elemental :=
      texts
        ["Burning", "Freezing", "Poisoned", "Shocking", "Icy", "Molten", "Toxic", "Stormy",
         "Fuming", "Frosted", "Scalding", "Sparking", "Chilling", "Searing", "Gusty", "Voltaic"]
    actions :=
      texts
        ["Strike", "Smash", "Cast", "Regenerate", "Crash", "Pulse", "Surge", "Twist", "Snap",
         "Flick", "Burst", "Sweep", "Spin", "Leap", "Jolt", "Flicker", "Glance", "Lunge", "Pounce",
         "Slam", "Tumble", "Vault"] }

end Cardwright.Bundled
