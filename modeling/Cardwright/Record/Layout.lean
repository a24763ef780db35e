import Cardwright.Text.Basic

/-!
# Record notation: layouts

How a text is read depends in two respects on what is expected there. A value that may be absent
begins with `None` or `Some` even if letters follow without a gap, and may be given bare under the
extension `implicit_some`; and a structure that is one of several alternatives takes a level more
than one that stands alone. A `Layout` says where such values are expected. What it leaves open is
read by its own looks, so a reader needs to know the layout only down to the last of those places.
-/

namespace Cardwright.Record

/-- What is expected of a value, as far as reading it depends on that. -/
inductive Layout
  /-- A value that is read by its own looks. -/
  | anything
  /-- A value that may be absent. -/
  | optional (value : Layout)
  /-- A list whose members are expected alike. -/
  | listOf (item : Layout)
  /-- A structure. A field that is not named here can hold anything. -/
  | fields (known : List (Text × Layout))
  /-- One of several alternatives, which may be a structure with these fields. -/
  | alternatives (known : List (Text × Layout))

namespace Layout

/-- What is expected of the members of a list. -/
def item : Layout → Layout
  | listOf item => item
  | _ => anything

/-- What is expected of a field of a structure. -/
def field (name : Text) : Layout → Layout
  | fields known => (known.lookup name).getD anything
  | _ => anything

end Layout

end Cardwright.Record
