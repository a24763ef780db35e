import Cardwright.Record.Layout
import Cardwright.Record.Lexeme
import Cardwright.Record.Node

/-!
# Record notation: reading

`Node.read?` reads a whole text: the extensions it enables, then one value of an expected layout,
which must not be nested too deeply. Blanks and comments may stand between any two parts, a comma
may follow the last member of a sequence, and under the extension `implicit_some` a value that may
be absent can be given without `Some(…)`.

`none` says that the text is not well-formed.
-/

namespace Cardwright.Record

/-! ### Sequences -/

/-- Take a comma off, with the blanks around it, and say whether there was one. -/
def comma? (t : Text) : Option (Bool × Text) := do
  match ← skipBlanks t with
  | ',' :: t => do
    let t ← skipBlanks t
    pure (true, t)
  | t => pure (false, t)

/-- Take off members separated by commas, up to and including the closing character. `separated`
says that another member may begin here. -/
def sequence? {α : Type} (close : Char) (member : Reader α) (separated : Bool) (t : Text) :
    Option (List α × Text) := do
  match ← skipBlanks t with
  | [] => none
  | c :: inner =>
    if c = close then some ([], inner)
    else if separated then
      let (x, behind) ← member (c :: inner)
      let (more, rest) ← comma? behind
      if rest.length < t.length then
        let (xs, rest) ← sequence? close member more rest
        pure (x :: xs, rest)
      else none
    else none
termination_by t.length

/-- Take off a colon with the blanks around it. -/
def colon? (t : Text) : Option Text := do
  match ← skipBlanks t with
  | ':' :: t => skipBlanks t
  | _ => none

/-- Take off an entry of a map. -/
def keyed? (value : Reader Node) : Reader (Node × Node) := fun t => do
  let (k, t) ← value t
  let t ← colon? t
  let (v, t) ← value t
  pure ((k, v), t)

/-- Take off a named field, its value being read as its name asks for. -/
def field? (value : Text → Reader Node) : Reader (Text × Node) := fun t => do
  let (name, t) ← name? t
  let t ← colon? t
  let (v, t) ← value name t
  pure ((name, v), t)

/-! ### Compound values -/

/-- Take off the members of a structure, from behind its opening parenthesis. They are fields if the
first of them begins with a name and a colon. -/
def structure? (member : Layout → Reader Node) (layout : Layout) (name : Text) : Reader Node :=
  fun t => do
    let inner ← skipBlanks t
    let isFields ← match name? inner with
      | none => some false
      | some (_, t) => do
        match ← skipBlanks t with
        | [] => none
        | c :: _ => some (c == ':')
    if isFields then
      let (entries, t) ← sequence? ')' (field? fun name => member (layout.field name)) true t
      pure (.fields name entries, t)
    else
      let (items, t) ← sequence? ')' (member .anything) true t
      pure (.tuple name items, t)

/-- Take off a list, map or structure, from its opening bracket on. -/
def compound? (member : Layout → Reader Node) (layout : Layout) : Reader Node
  | '(' :: t => structure? member layout [] t
  | '[' :: t =>
    (sequence? ']' (member layout.item) true t).map fun (items, t) => (.list items, t)
  | '{' :: t =>
    (sequence? '}' (keyed? (member .anything)) true t).map fun (es, t) => (.map es, t)
  | _ => none

/-! ### Values that may be absent -/

/-- Take off what follows `Some`: a value in parentheses, or under `implicitSome` a bare one. -/
def present? (implicitSome : Bool) (value : Reader Node) : Reader Node := fun t => do
  match ← skipBlanks t with
  | '(' :: t =>
    let t ← skipBlanks t
    let (v, t) ← value t
    let (_, t) ← comma? t
    match t with
    | ')' :: t => pure (.present v, t)
    | _ => none
  | t =>
    if implicitSome then
      let (v, t) ← value t
      pure (.present v, t)
    else none

/-- Take off a value that may be absent, where one is expected: no gap is needed behind `None` and
`Some`, and under `implicitSome` a text that begins with neither is a bare value. -/
def optional? (implicitSome : Bool) (value : Reader Node) : Reader Node := fun t =>
  match Text.afterStart? "None" t with
  | some t => some (.absent, t)
  | none =>
    match Text.afterStart? "Some" t with
    | some t => present? implicitSome value t
    | none =>
      if implicitSome then (value t).map fun (v, t) => (.present v, t)
      else none

/-! ### Values -/

/-- How the parts of a value are read. -/
structure Parts where
  /-- Whether lists, maps and structures may begin here. -/
  opens : Bool
  /-- Reads the members of lists, maps and structures. -/
  member : Layout → Reader Node
  /-- Reads what takes just one level more, such as a value behind `Some`. -/
  inner : Layout → Reader Node

/-- Take off a value that does not begin with a word. -/
def punctuated? (parts : Parts) (layout : Layout) : Reader Node
  | [] => none
  | c :: t =>
    if c = '(' ∨ c = '[' ∨ c = '{' then
      (if parts.opens then compound? parts.member layout (c :: t) else none)
    else if c = '"' ∨ c = 'r' then (string? (c :: t)).map fun (s, t) => (.string s, t)
    else if c = '\x27' then (character? (c :: t)).map fun (d, t) => (.character d, t)
    else if c.isDigit || c == '+' || c == '-' then
      (number? (c :: t)).map fun (lexeme, t) => (.number lexeme, t)
    else if c = '.' then (decimalLexeme? (c :: t)).map fun (lexeme, t) => (.number lexeme, t)
    else none

/-- Take off a value that begins with a name: a structure, if one may begin, or the name alone. -/
def named? (parts : Parts) (layout : Layout) (name : Text) : Reader Node := fun t => do
  match ← skipBlanks t with
  | '(' :: t => if parts.opens then structure? parts.member layout name t else none
  | t => pure (.symbol name, t)

/-- The words that are values of their own. -/
def word? (t : Text) : Option (Node × Text) :=
  let words : List (Text × Node) :=
    [("true", .boolean true), ("false", .boolean false), ("None", .absent), ("inf", .number "inf"),
      ("NaN", .number "NaN")]
  words.findSome? fun (word, node) => (afterWord? word t).map (node, ·)

/-- Take off a value by its own looks. The unit `()`, written without a gap, opens no structure. -/
def plain? (implicitSome : Bool) (parts : Parts) (layout : Layout) : Reader Node := fun t =>
  match word? t with
  | some found => some found
  | none =>
    match Text.afterStart? "()" t with
    | some t => some (.tuple [] [], t)
    | none =>
      match afterWord? "Some" t with
      | some t => present? implicitSome (parts.inner .anything) t
      | none =>
        match name? t with
        | some (name, t) => named? parts layout name t
        | none => punctuated? parts layout t

/-- Take off a value of the expected layout, its parts being read as given. -/
def valueWith? (implicitSome : Bool) (parts : Parts) : Layout → Reader Node
  | .optional layout => optional? implicitSome (parts.inner layout)
  | .alternatives known => parts.inner (.fields known)
  | layout => plain? implicitSome parts layout

/-- Take off a value within a number of levels. A list, map or structure takes one level for itself
and another one for its members; `Some`, written or left out, takes one, and so does a choice
between alternatives. -/
def value? (implicitSome : Bool) : (levels : Nat) → Layout → Reader Node
  | 0 => valueWith? implicitSome ⟨false, fun _ _ => none, fun _ _ => none⟩
  | 1 => valueWith? implicitSome ⟨true, fun _ _ => none, value? implicitSome 0⟩
  | levels + 2 =>
    valueWith? implicitSome ⟨true, value? implicitSome levels, value? implicitSome (levels + 1)⟩

/-! ### Documents -/

/-- The number of levels within which the value of a document has to stay. -/
def levelLimit : Nat := 128

/-- The extensions that a document can enable. -/
def knownExtensions : List Text := ["unwrap_newtypes", "implicit_some", "unwrap_variant_newtypes"]

/-- Take off parts in order, with the blanks behind each. -/
def afterParts? : List Text → Text → Option Text
  | [], t => some t
  | part :: parts, t => do afterParts? parts (← skipBlanks (← Text.afterStart? part t))

/-- Take off one list of extensions, from its number sign on. -/
def extensions? : Reader (List Text) := fun t => do
  let t ← afterParts? ["#", "!", "[", "enable", "("] t
  let (names, t) ← sequence? ')' name? true t
  let t ← afterParts? ["]"] (← skipBlanks t)
  if names.isEmpty || !names.all (knownExtensions.contains ·) then none else pure (names, t)

/-- Take off all lists of extensions at the beginning of a document, with the blanks around them. -/
def allExtensions? (t : Text) : Option (List Text × Text) := do
  match ← skipBlanks t with
  | '#' :: inner =>
    let (names, rest) ← extensions? ('#' :: inner)
    if rest.length < t.length then
      let (more, rest) ← allExtensions? rest
      pure (names ++ more, rest)
    else none
  | t => pure ([], t)
termination_by t.length

/-- Read a whole text as a value of the expected layout. -/
def Node.read? (layout : Layout) (t : Text) : Option Node := do
  let (extensions, t) ← allExtensions? t
  let implicitSome := extensions.contains "implicit_some".toList
  let (root, t) ← value? implicitSome levelLimit layout t
  match ← skipBlanks t with
  | [] => pure root
  | _ => none

end Cardwright.Record
