import Cardwright.Record.Reader
import Cardwright.Tables.Basic

/-!
# Record notation: interpreting values

What a value means depends on what is expected in its place. Each function here interprets a value
as one kind of thing, `none` saying that it is none. Structures are interpreted by their fields,
which may come in any order; a field that is not asked for may hold anything.
-/

namespace Cardwright.Record.Node

/-! ### Simple values -/

/-- A string. -/
def text? : Node → Option Text
  | string value => some value
  | _ => none

/-- A truth value. -/
def boolean? : Node → Option Bool
  | boolean value => some value
  | _ => none

/-- A number from 0 to 255. -/
def byte? : Node → Option UInt8
  | number lexeme => byteOfLexeme? lexeme
  | _ => none

/-- A binary32 number. -/
def binary32? : Node → Option Binary32
  | number lexeme => Binary32.ofText? lexeme
  | _ => none

/-- One of several things, each of which has a name. -/
def oneOf? {α : Type} (things : List α) (name : α → Text) : Node → Option α
  | symbol s => things.find? fun x => name x == s
  | _ => none

/-! ### Compound values -/

/-- A list whose members are interpreted alike. -/
def listOf? {α : Type} (item : Node → Option α) : Node → Option (List α)
  | list items => items.mapM item
  | _ => none

/-- A map. Of the entries with one key the last one counts. -/
def mapOf? {κ α : Type} [DecidableEq κ] (key : Node → Option κ) (value : Node → Option α) :
    Node → Option (List (κ × α))
  | map entries =>
    entries.foldlM (fun m e => do return insertEntry (← key e.1) (← value e.2) m) []
  | _ => none

/-- Something that may be absent. -/
def optional? {α : Type} (value : Node → Option α) : Node → Option (Option α)
  | absent => some none
  | present n => (value n).map some
  | _ => none

/-! ### Structures -/

/-- The fields of a structure, whose name may be left out but must not be another one. -/
def fieldsOf? (typeName : Text) : Node → Option (List (Text × Node))
  | fields name entries => if name.isEmpty || name == typeName then some entries else none
  | _ => none

/-- A field that must be there, once. -/
def required? {α : Type} (entries : List (Text × Node)) (name : Text) (value : Node → Option α) :
    Option α :=
  match entries.filter (·.1 == name) with
  | [(_, n)] => value n
  | _ => none

/-- A field that may be missing but not be there twice. -/
def defaulted? {α : Type} (entries : List (Text × Node)) (name : Text) (default : α)
    (value : Node → Option α) : Option α :=
  match entries.filter (·.1 == name) with
  | [] => some default
  | [(_, n)] => value n
  | _ => none

end Cardwright.Record.Node
