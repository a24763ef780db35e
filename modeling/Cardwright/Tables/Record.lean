import Cardwright.Record.Decode
import Cardwright.Tables.Check

/-!
# Content tables in record notation

Tables are authored as one structure in record notation. Reading interprets it field by field;
loading also checks what was read.
-/

namespace Cardwright

open Record (Node Layout)

/-! ### Interpreting -/

namespace TagForms

/-- Interpret a structure as the forms of a tag. -/
def ofNode? (n : Node) : Option TagForms := do
  let fs ← n.fieldsOf? "TagForms"
  let single ← Node.required? fs "single" Node.text?
  let plural ← Node.required? fs "plural" Node.text?
  let amount ← Node.required? fs "amount" Node.text?
  pure ⟨single, plural, amount⟩

end TagForms

namespace Tag

/-- Interpret a structure as a tag. -/
def ofNode? (n : Node) : Option Tag := do
  let fs ← n.fieldsOf? "Tag"
  let id ← Node.required? fs "id" Node.text?
  let own ← Node.required? fs "own" TagForms.ofNode?
  let opponent ← Node.required? fs "opponent" TagForms.ofNode?
  pure ⟨id, own, opponent⟩

end Tag

namespace Effect

/-- Interpret a structure as an effect. -/
def ofNode? (n : Node) : Option Effect := do
  let fs ← n.fieldsOf? "Effect"
  let id ← Node.required? fs "id" Node.text?
  let text ← Node.required? fs "text" Node.text?
  pure ⟨id, text⟩

end Effect

namespace ValueKind

/-- How the wording of a value is laid out. -/
def layout : Layout := .alternatives [("single_item", .optional .anything)]

/-- Interpret a bare name or a structure as the wording of a value. -/
def ofNode? : Node → Option ValueKind
  | .symbol name => if name = ("PlainNumber" : Text) then some .plainNumber else none
  | .fields name fs => do
    guard (name = ("Phrase" : Text))
    let own ← Node.required? fs "own" Node.text?
    let opponent ← Node.required? fs "opponent" Node.text?
    let singleItem ← Node.defaulted? fs "single_item" none (Node.optional? Node.text?)
    let multipliable ← Node.defaulted? fs "multipliable" false Node.boolean?
    pure (.phrase ⟨own, opponent, singleItem, multipliable⟩)
  | _ => none

end ValueKind

namespace Value

/-- How a value is laid out. -/
def layout : Layout := .fields [("kind", ValueKind.layout)]

/-- Interpret a structure as a value. -/
def ofNode? (n : Node) : Option Value := do
  let fs ← n.fieldsOf? "ValueDescriptor"
  let id ← Node.required? fs "id" Node.text?
  let kind ← Node.required? fs "kind" ValueKind.ofNode?
  pure ⟨id, kind⟩

end Value

namespace Trigger

/-- Interpret a structure as a trigger. -/
def ofNode? (n : Node) : Option Trigger := do
  let fs ← n.fieldsOf? "SkillTrigger"
  let id ← Node.required? fs "id" Node.text?
  let own ← Node.required? fs "own" Node.text?
  let opponent ← Node.required? fs "opponent" Node.text?
  let ownFirstN ← Node.required? fs "own_first_n" Node.text?
  let opponentFirstN ← Node.required? fs "opponent_first_n" Node.text?
  pure ⟨id, own, opponent, ownFirstN, opponentFirstN⟩

end Trigger

/-- Interpret a list of strings as a word pool. -/
def wordsOfNode? : Node → Option (List Text) := Node.listOf? Node.text?

namespace Theme

/-- Interpret a structure as a theme. -/
def ofNode? (n : Node) : Option Theme := do
  let fs ← n.fieldsOf? "ThemePool"
  let key ← Node.required? fs "key" Node.text?
  let words ← Node.required? fs "words" wordsOfNode?
  pure ⟨key, words⟩

end Theme

namespace SpeedPools

/-- Interpret a structure as the adjectives by cooldown. -/
def ofNode? (n : Node) : Option SpeedPools := do
  let fs ← n.fieldsOf? "SpeedPools"
  let fast ← Node.required? fs "fast" wordsOfNode?
  let balanced ← Node.required? fs "balanced" wordsOfNode?
  let heavy ← Node.required? fs "heavy" wordsOfNode?
  pure ⟨fast, balanced, heavy⟩

end SpeedPools

namespace SkillPools

/-- Interpret a structure as the words of skill names. -/
def ofNode? (n : Node) : Option SkillPools := do
  let fs ← n.fieldsOf? "SkillNamePools"
  let speed ← Node.required? fs "speed" wordsOfNode?
  let power ← Node.required? fs "power" wordsOfNode?
  let quirky ← Node.required? fs "quirky" wordsOfNode?
  let elemental ← Node.required? fs "elemental" wordsOfNode?
  let actions ← Node.required? fs "actions" wordsOfNode?
  pure ⟨speed, power, quirky, elemental, actions⟩

end SkillPools

namespace NamePools

/-- Interpret a structure as the word pools. -/
def ofNode? (n : Node) : Option NamePools := do
  let fs ← n.fieldsOf? "NamingPools"
  let themes ← Node.required? fs "themes" (Node.listOf? Theme.ofNode?)
  let defaultTheme ← Node.required? fs "default_theme" wordsOfNode?
  let rarityWords ← Node.required? fs "rarity_prefixes"
    (Node.mapOf? (Node.oneOf? Rarity.all Rarity.label) wordsOfNode?)
  let sizeNouns ← Node.required? fs "size_nouns"
    (Node.mapOf? (Node.oneOf? Size.all Size.label) wordsOfNode?)
  let speed ← Node.required? fs "speed" SpeedPools.ofNode?
  let flavorWords ← Node.required? fs "flavor_words" wordsOfNode?
  let frameNouns ← Node.required? fs "frame_nouns" wordsOfNode?
  let skill ← Node.required? fs "skill" SkillPools.ofNode?
  pure ⟨themes, defaultTheme, rarityWords, sizeNouns, speed, flavorWords, frameNouns, skill⟩

end NamePools

namespace Tables

/-- How a set of tables is laid out. -/
def layout : Layout := .fields [("values", .listOf Value.layout)]

/-- Interpret a structure as a set of tables. -/
def ofNode? (n : Node) : Option Tables := do
  let fs ← n.fieldsOf? "ContentTables"
  let keywords ← Node.required? fs "keywords" wordsOfNode?
  let irregularPlurals ←
    Node.defaulted? fs "irregular_plurals" [] (Node.mapOf? Node.text? Node.text?)
  let tags ← Node.required? fs "tags" (Node.listOf? Tag.ofNode?)
  let effects ← Node.required? fs "effects" (Node.listOf? Effect.ofNode?)
  let values ← Node.required? fs "values" (Node.listOf? Value.ofNode?)
  let triggers ← Node.required? fs "triggers" (Node.listOf? Trigger.ofNode?)
  let naming ← Node.required? fs "naming" NamePools.ofNode?
  pure ⟨keywords, irregularPlurals, tags, effects, values, triggers, naming⟩

/-- Read a text as a set of tables in record notation, without checking it. -/
def read? (t : Text) : Option Tables := (Node.read? layout t).bind ofNode?

end Tables

/-! ### Loading -/

/-- Why tables could not be loaded. -/
inductive LoadFault
  /-- The file cannot be read as text. -/
  | unreadable
  /-- The text is not a set of tables in record notation. -/
  | malformed
  /-- The tables were read but do not pass the check. -/
  | refused (fault : TableFault)
deriving DecidableEq, Repr

/-- The report of a fault. What the system or the reader has to say follows the first two. -/
def LoadFault.message : LoadFault → Text
  | unreadable => "IO error: "
  | malformed => "RON deserialization error: "
  | refused fault => fault.message

namespace Tables

/-- Accept a set of tables that passes the check. -/
def checked (t : Tables) : Except LoadFault Tables :=
  match t.check with
  | .ok () => .ok t
  | .error fault => .error (.refused fault)

/-- Read tables from a text in record notation and check them. -/
def load (t : Text) : Except LoadFault Tables :=
  match read? t with
  | some tables => tables.checked
  | none => .error .malformed

end Tables

end Cardwright
