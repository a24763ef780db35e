import Cardwright.Card
import Cardwright.Card.Record
import Cardwright.Console
import Cardwright.Engine.Basic
import Cardwright.Engine.Generator
import Cardwright.Engine.Setup
import Cardwright.Lint
import Cardwright.Lint.Tool
import Cardwright.Main
import Cardwright.Markup.Keyword
import Cardwright.Markup.Segment
import Cardwright.Name
import Cardwright.Number.Binary32
import Cardwright.Number.Decimal
import Cardwright.Phrase.Draw
import Cardwright.Phrase.Form
import Cardwright.Phrase.Modifier
import Cardwright.Preview.Display
import Cardwright.Preview.Options
import Cardwright.Preview.Shell
import Cardwright.Proofs.Card.Record
import Cardwright.Proofs.Engine.Attributes
import Cardwright.Proofs.Engine.Blanks
import Cardwright.Proofs.Engine.Generation
import Cardwright.Proofs.Engine.Naming
import Cardwright.Proofs.Engine.Run
import Cardwright.Proofs.Engine.Sections
import Cardwright.Proofs.Engine.WellFormed
import Cardwright.Proofs.Lint
import Cardwright.Proofs.Lint.Keywords
import Cardwright.Proofs.Lint.Order
import Cardwright.Proofs.Markup.Annotation
import Cardwright.Proofs.Markup.Blanks
import Cardwright.Proofs.Markup.Bytes.Mark
import Cardwright.Proofs.Markup.Bytes.Search
import Cardwright.Proofs.Markup.Bytes.Split
import Cardwright.Proofs.Markup.CaseFree
import Cardwright.Proofs.Markup.Decomposition
import Cardwright.Proofs.Markup.Hit
import Cardwright.Proofs.Markup.Keyword
import Cardwright.Proofs.Markup.Seam
import Cardwright.Proofs.Markup.Spans
import Cardwright.Proofs.Name
import Cardwright.Proofs.Number.Binary32
import Cardwright.Proofs.Number.Decimal
import Cardwright.Proofs.Phrase.Braces
import Cardwright.Proofs.Phrase.Draw
import Cardwright.Proofs.Phrase.Number
import Cardwright.Proofs.Phrase.Slots
import Cardwright.Proofs.Phrase.Wording
import Cardwright.Proofs.Preview.Display
import Cardwright.Proofs.Preview.Input
import Cardwright.Proofs.Preview.Shell
import Cardwright.Proofs.Preview.Statistics
import Cardwright.Proofs.Random.Coupling
import Cardwright.Proofs.Random.Outcome
import Cardwright.Proofs.Record.Lexeme
import Cardwright.Proofs.Record.Reader
import Cardwright.Proofs.Tables.Bundled
import Cardwright.Proofs.Tables.Check
import Cardwright.Proofs.Template.Braces
import Cardwright.Proofs.Template.DroppedWords
import Cardwright.Proofs.Template.Forest
import Cardwright.Proofs.Template.Passes
import Cardwright.Proofs.Template.Reading
import Cardwright.Proofs.Template.Substitution
import Cardwright.Proofs.Template.Weave
import Cardwright.Proofs.Text.Ascii
import Cardwright.Proofs.Text.Case
import Cardwright.Proofs.Text.Mapping
import Cardwright.Proofs.Text.Order
import Cardwright.Proofs.Text.Replace
import Cardwright.Proofs.Text.Tidy
import Cardwright.Proofs.Text.Utf8
import Cardwright.Proofs.Text.Words
import Cardwright.Random.Draw
import Cardwright.Random.SeededStream
import Cardwright.Record.Decode
import Cardwright.Record.Layout
import Cardwright.Record.Lexeme
import Cardwright.Record.Node
import Cardwright.Record.Reader
import Cardwright.Tables.Basic
import Cardwright.Tables.Bundled
import Cardwright.Tables.Bundled.Phrases
import Cardwright.Tables.Bundled.Words
import Cardwright.Tables.Check
import Cardwright.Tables.Record
import Cardwright.Template.Basic
import Cardwright.Template.Fill
import Cardwright.Text.Ascii
import Cardwright.Text.Basic
import Cardwright.Text.Blank
import Cardwright.Text.Case
import Cardwright.Text.CaseTable
import Cardwright.Text.Quoted
import Cardwright.Text.VisibleTable
