import Cardwright.Text.Quoted

/-!
# Record notation: values and their text

Tables and cards are kept in RON, a notation of nested values: numbers, quoted text, lists, maps,
and structures with named fields. `Node` is such a value as it is written, before anything is known
about its meaning, and `Node.render` is its compact text.
-/

namespace Cardwright.Record

/-- A value of the notation. -/
inductive Node
  | boolean (value : Bool)
  /-- A number, by its lexeme. -/
  | number (lexeme : Text)
  | character (value : Char)
  | string (value : Text)
  /-- The text `None`. -/
  | absent
  /-- The text `Some(value)`. -/
  | present (value : Node)
  | list (items : List Node)
  | map (entries : List (Node × Node))
  /-- A structure without field names; its own name may be missing. -/
  | tuple (name : Text) (items : List Node)
  /-- A structure with named fields; its own name may be missing. -/
  | fields (name : Text) (entries : List (Text × Node))
  /-- A bare name. -/
  | symbol (name : Text)
deriving Inhabited

namespace Node

/-- Put a comma between neighbours. -/
def commas (items : List Text) : Text := [','].intercalate items

mutual

/-- The text of a value without any optional blank or comma. -/
def render : Node → Text
  | boolean true => "true"
  | boolean false => "false"
  | number lexeme => lexeme
  | character c => '\x27' :: Text.escapeChar true c ++ ['\x27']
  | string value => Text.quote true value
  | absent => "None"
  | present value => "Some(" ++ render value ++ ")"
  | list items => '[' :: commas (renderItems items) ++ [']']
  | map entries => '{' :: commas (renderEntries entries) ++ ['}']
  | tuple name items => name ++ '(' :: commas (renderItems items) ++ [')']
  | fields name entries => name ++ '(' :: commas (renderFields entries) ++ [')']
  | symbol name => name

/-- The texts of some values. -/
def renderItems : List Node → List Text
  | [] => []
  | item :: items => render item :: renderItems items

/-- The texts of the entries of a map. -/
def renderEntries : List (Node × Node) → List Text
  | [] => []
  | entry :: entries => renderEntry entry :: renderEntries entries

/-- The text of an entry of a map. -/
def renderEntry : Node × Node → Text
  | (key, value) => render key ++ ':' :: render value

/-- The texts of the fields of a structure. -/
def renderFields : List (Text × Node) → List Text
  | [] => []
  | f :: rest => renderField f :: renderFields rest

/-- The text of a field of a structure. -/
def renderField : Text × Node → Text
  | (name, value) => name ++ ':' :: render value

end

end Node

end Cardwright.Record
