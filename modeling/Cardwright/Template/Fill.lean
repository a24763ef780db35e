import Cardwright.Template.Basic
import Cardwright.Text.Blank

/-!
# Filling templates

The slots of a template are filled in five passes, one for each kind of placeholder, each pass going
from left to right. The text that fills a slot is itself read as a template and spliced in, so it
may bring slots of the kinds that are still to come; slots of its own or an earlier kind stay open.

A value may stand in front of the word "as", as in "Deal {Value} as damage". Whoever fills the slot
is told so, and may answer that the word is to be dropped: "Deal 42 damage".

The passes run in any monad, so that a fill may draw from a random source, keep a state or log its
calls. Main statement: `length_dropAs_le` (dropping the word never lengthens a text).
-/

namespace Cardwright

/-- What a slot is filled with. -/
structure Fill where
  text : Text
  /-- Whether the word "as" that follows the slot is to be dropped. -/
  dropsAs : Bool
deriving DecidableEq, Repr

/-- A fill that leaves the text behind it alone. -/
def Fill.plain (text : Text) : Fill := ⟨text, false⟩

namespace Template

/-! ### The word behind a slot -/

/-- What follows the word "as" and the blanks behind it, if a text begins with that word. Blanks may
stand before the word, and one must stand behind it. -/
def behindAs? (t : Text) : Option Text :=
  match Text.trimStart t with
  | a :: s :: c :: rest =>
    if a.toLower = 'a' ∧ s.toLower = 's' ∧ Text.isBlank c = true then some (Text.trimStart rest)
    else none
  | _ => none

/-- Drop the word "as" with the blanks behind it; the blanks before it stay. -/
def dropAs (t : Text) : Text :=
  match behindAs? t with
  | some rest => t.takeWhile Text.isBlank ++ rest
  | none => t

/-- Whether the word "as" comes next in a template. -/
def asAhead : Template → Bool
  | .literal text :: _ => (behindAs? text).isSome
  | _ => false

/-- Dropping the word never lengthens a text. -/
theorem length_dropAs_le (t : Text) : (dropAs t).length ≤ t.length := by
  unfold dropAs
  split
  · next rest h =>
    have halves := congrArg List.length (List.takeWhile_append_dropWhile (p := Text.isBlank)
      (l := t))
    unfold behindAs? at h
    split at h
    · next a s c r hr =>
      split at h
      · have shorter := List.Sublist.length_le (List.dropWhile_sublist (l := r) Text.isBlank)
        have whole := congrArg List.length hr
        cases h
        simp only [Text.trimStart, List.length_cons, List.length_append] at *
        omega
      · cases h
    · cases h
  · exact Nat.le_refl _

/-! ### Passes -/

variable {m : Type → Type} [Monad m]

/-- Fill the slots of one kind, from left to right. `drops` says that the slot just filled asked for
the word "as" behind it to be dropped. -/
def fillPass (fill : Placeholder → Bool → m Fill) (kind : Placeholder) :
    (drops : Bool) → Template → m Template
  | _, [] => pure []
  | drops, .literal text :: t => do
    let rest ← fillPass fill kind false t
    pure (consLiteral (if drops then dropAs text else text) rest)
  | _, .slot p :: t =>
    if p = kind then do
      let flag := kind == .value && asAhead t
      let filled ← fill kind flag
      let rest ← fillPass fill kind (flag && filled.dropsAs) t
      pure (splice (parse filled.text) rest)
    else do
      let rest ← fillPass fill kind false t
      pure (.slot p :: rest)

/-- Fill the slots of the given kinds, one kind after another. -/
def fillAll (fill : Placeholder → Bool → m Fill) (kinds : List Placeholder) (t : Template) :
    m Template :=
  kinds.foldlM (fun t kind => fillPass fill kind false t) t

/-- Fill every slot of a text and collapse its blanks. `fill` is told the kind of a slot and whether
the word "as" stands behind it. -/
def resolveWith (fill : Placeholder → Bool → m Fill) (text : Text) : m Text := do
  let t ← fillAll fill Placeholder.all (parse text)
  pure (Text.normalize (render t))

end Template

end Cardwright
