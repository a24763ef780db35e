import Cardwright.Markup.Segment
import Cardwright.Tables.Basic
import Cardwright.Text.Ascii

/-!
# Keywords

Keywords are marked in finished text by `<span>` tags whose class names the word. A keyword is found
where a word begins, up to the case of ASCII letters, and has to end where a word ends; a single "s"
may stand behind it as a regular plural. Of the keywords that fit at a place the longest one counts.

`Matcher.scan` divides plain text into pieces, the keywords found and the characters between them,
and `Piece.render` writes them out.
-/

namespace Cardwright

/-! ### Matching -/

/-- A keyword as it is looked for. -/
structure KeywordEntry where
  /-- The keyword, its ASCII letters raised. -/
  word : Text
  /-- The singular, if the keyword is an irregular plural. -/
  singular : Option Text
deriving DecidableEq, Repr

/-- A keyword found at the front of a text. -/
structure Hit where
  /-- How many characters it takes up. -/
  length : Nat
  /-- The word that it is a plural of, if it is one. -/
  singular : Option Text
deriving DecidableEq, Repr

/-- Whether a single "s" stands here and ends its word. -/
def pluralEnding : Text → Bool
  | [] => false
  | c :: t => c.toLower == 's' && Text.atWordEnd t

/-- Find an entry at the front of a text, with a plural ending or as it is. -/
def KeywordEntry.hit? (e : KeywordEntry) (t : Text) : Option Hit :=
  match Text.afterStartIgnoringCase? e.word t with
  | none => none
  | some rest =>
    if pluralEnding rest then some ⟨e.word.length + 1, some e.word⟩
    else if Text.atWordEnd rest then some ⟨e.word.length, e.singular⟩
    else none

/-- The keywords in the order in which they are tried. -/
structure Matcher where
  entries : List KeywordEntry
deriving DecidableEq, Repr

namespace Matcher

/-- The matcher for some keywords: the longest are tried first, those of the same length in the
order given, and empty ones never. Lengths are taken in UTF-8 bytes. -/
def ofKeywords (keywords : List Text) (irregularPlurals : List (Text × Text)) : Matcher :=
  let words := (keywords.map Text.upperAscii).filter fun w => !w.isEmpty
  let entries := words.map fun w => ⟨w, irregularPlurals.lookup w⟩
  ⟨entries.mergeSort fun a b => Text.byteLength b.word ≤ Text.byteLength a.word⟩

/-- The matcher for the keywords of a set of tables. -/
def ofTables (t : Tables) : Matcher := ofKeywords t.keywords t.irregularPlurals

/-- The keywords in the order in which they are tried. -/
def keywords (m : Matcher) : List Text := m.entries.map (·.word)

/-- The first entry found at the front of a text. -/
def hit? (m : Matcher) (t : Text) : Option Hit := m.entries.findSome? (·.hit? t)

/-- Whether a word is, as a whole, a keyword or a keyword with a plural ending. -/
def isKeyword (m : Matcher) (word : Text) : Bool :=
  match m.hit? word with
  | some hit => hit.length == word.length
  | none => false

end Matcher

/-! ### Marking -/

/-- The class of a word: only its first letter is raised. -/
def keywordClass (word : Text) : Text :=
  "keyword-" ++
    match Text.lowerAscii word with
    | [] => []
    | c :: t => c.toUpper :: t

/-- A piece of plain text: a character, or a keyword as it stands there. -/
inductive Piece
  | plain (c : Char)
  | keyword (surface : Text) (singular : Option Text)
deriving DecidableEq, Repr

/-- The text that a piece covers. -/
def Piece.surface : Piece → Text
  | plain c => [c]
  | keyword surface _ => surface

/-- The opening tag of a keyword: its own class, and that of its singular if it is a plural. -/
def openingTag (surface : Text) (singular : Option Text) : Text :=
  let second := match singular with
    | some word => ' ' :: keywordClass word
    | none => []
  "<span class=\"" ++ keywordClass surface ++ second ++ "\">"

/-- The closing tag of a keyword. -/
def closingTag : Text := "</span>"

/-- Write a piece, a keyword between its tags. -/
def Piece.render : Piece → Text
  | plain c => [c]
  | keyword surface singular => openingTag surface singular ++ surface ++ closingTag

namespace Matcher

/-- Divide a plain text into pieces. `inWord` says whether the character before it belongs to a
word; a keyword can begin only where none does. -/
def scan (m : Matcher) (inWord : Bool) : Text → List Piece
  | [] => []
  | c :: t =>
    if Text.isWordChar c && !inWord then
      match m.hit? (c :: t) with
      | some hit =>
        .keyword ((c :: t).take hit.length) hit.singular :: scan m true (t.drop (hit.length - 1))
      | none => .plain c :: scan m true t
    else .plain c :: scan m (Text.isWordChar c) t
termination_by t => t.length

/-- Mark the keywords of a plain text. -/
def highlightPlain (m : Matcher) (t : Text) : Text := (m.scan false t).flatMap Piece.render

/-- Mark the keywords of a text, leaving the tags in it as they are. -/
def highlight (m : Matcher) (t : Text) : Text :=
  (Markup.split t).flatMap fun
    | .plain text => m.highlightPlain text
    | .tag text => text

/-- A marked sentence with its period. -/
def sentence (m : Matcher) (t : Text) : Text := m.highlight t ++ ['.']

end Matcher

end Cardwright
