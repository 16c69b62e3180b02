import FormFill.Command.Arguments
import FormFill.Command.Order
import FormFill.Command.Output
import FormFill.Command.Reach
import FormFill.Command.Run
import FormFill.Config
import FormFill.Datum
import FormFill.Decimal.Binary64
import FormFill.Decimal.Shortest
import FormFill.Dictionary
import FormFill.Disk
import FormFill.Disk.Change
import FormFill.Fault
import FormFill.Fill
import FormFill.Form.Basic
import FormFill.Form.Collapse
import FormFill.Form.Payload
import FormFill.Form.Summary
import FormFill.Form.Tree
import FormFill.Json.Reader
import FormFill.Json.Value
import FormFill.Json.Writer
import FormFill.Main
import FormFill.Markup.Attribute
import FormFill.Markup.Element
import FormFill.Markup.Marker
import FormFill.Pattern.Branch
import FormFill.Pattern.Escape
import FormFill.Pattern.Fault
import FormFill.Pattern.Group
import FormFill.Pattern.Match
import FormFill.Pattern.Memory
import FormFill.Pattern.Options
import FormFill.Pattern.Reader
import FormFill.Pattern.Reading
import FormFill.Pattern.Repetition
import FormFill.Pattern.Syntax
import FormFill.Pattern.Token
import FormFill.Profile
import FormFill.Proofs.Command.Effect
import FormFill.Proofs.Command.Folder
import FormFill.Proofs.Command.History
import FormFill.Proofs.Command.Input
import FormFill.Proofs.Command.Output
import FormFill.Proofs.Config
import FormFill.Proofs.Dictionary.Reading
import FormFill.Proofs.Dictionary.RoundTrip
import FormFill.Proofs.Dictionary.Unclosed
import FormFill.Proofs.Disk
import FormFill.Proofs.Document.Basic
import FormFill.Proofs.Document.Choices
import FormFill.Proofs.Document.Printing
import FormFill.Proofs.Document.RoundTrip
import FormFill.Proofs.Fill
import FormFill.Proofs.Fill.Checking
import FormFill.Proofs.Fill.Faults
import FormFill.Proofs.Fill.Missing
import FormFill.Proofs.Fill.Releases
import FormFill.Proofs.Form.Blocks
import FormFill.Proofs.Form.Codes
import FormFill.Proofs.Form.Collapsing
import FormFill.Proofs.Form.Filling
import FormFill.Proofs.Form.Markers
import FormFill.Proofs.Form.Paths
import FormFill.Proofs.Form.Payload
import FormFill.Proofs.Form.Selectors
import FormFill.Proofs.Form.Source
import FormFill.Proofs.Form.Surfacing
import FormFill.Proofs.Json.Entry
import FormFill.Proofs.Json.Grammar
import FormFill.Proofs.Json.LineEnds
import FormFill.Proofs.Json.Reading
import FormFill.Proofs.Json.Token
import FormFill.Proofs.Ledger.Issue
import FormFill.Proofs.Ledger.Numbering
import FormFill.Proofs.Marker.Grammar
import FormFill.Proofs.Marker.Split
import FormFill.Proofs.Markup.Attribute
import FormFill.Proofs.Markup.AttributeList
import FormFill.Proofs.Markup.AttributeSearch
import FormFill.Proofs.Markup.Elements
import FormFill.Proofs.Markup.Locality
import FormFill.Proofs.Markup.Naming
import FormFill.Proofs.Markup.Outermost
import FormFill.Proofs.Markup.Pairing
import FormFill.Proofs.Markup.Record
import FormFill.Proofs.Markup.Search
import FormFill.Proofs.Markup.Spans
import FormFill.Proofs.Markup.Tag
import FormFill.Proofs.Pattern.Counting
import FormFill.Proofs.Pattern.Reading
import FormFill.Proofs.Service.Field
import FormFill.Proofs.Service.Filling
import FormFill.Proofs.Service.Trail
import FormFill.Proofs.Service.Upload
import FormFill.Proofs.Substitution.Exact
import FormFill.Proofs.Substitution.Sequence
import FormFill.Proofs.Surfaces
import FormFill.Proofs.Table
import FormFill.Proofs.Text
import FormFill.Proofs.Text.LineEnds
import FormFill.Proofs.Text.Search
import FormFill.Proofs.Text.Utf8
import FormFill.Proofs.Validation
import FormFill.Proofs.Yaml.Datum
import FormFill.Proofs.Yaml.Node
import FormFill.Proofs.Yaml.Token
import FormFill.Schema
import FormFill.Service.Event
import FormFill.Service.Field
import FormFill.Service.Handler
import FormFill.Service.Refusal
import FormFill.Service.Request
import FormFill.Service.Route
import FormFill.Service.Settings
import FormFill.Service.Upload
import FormFill.Substitution
import FormFill.Substitution.Payload
import FormFill.Table
import FormFill.Template.Extraction
import FormFill.Template.Ledger
import FormFill.Template.Outline
import FormFill.Template.Parameter
import FormFill.Text.Basic
import FormFill.Text.Blank
import FormFill.Text.CharacterName
import FormFill.Text.CharacterName.Abugida
import FormFill.Text.CharacterName.Alphabet
import FormFill.Text.CharacterName.Ancient
import FormFill.Text.CharacterName.EastAsia
import FormFill.Text.CharacterName.Further
import FormFill.Text.CharacterName.Letterform
import FormFill.Text.CharacterName.Logogram
import FormFill.Text.CharacterName.Marking
import FormFill.Text.CharacterName.Pictograph
import FormFill.Text.CharacterName.Presentation
import FormFill.Text.CharacterName.Run
import FormFill.Text.CharacterName.Sign
import FormFill.Text.Digit
import FormFill.Text.Identifier
import FormFill.Text.Integer
import FormFill.Text.LetterCase
import FormFill.Text.LineEnds
import FormFill.Text.Printable
import FormFill.Text.Quoted
import FormFill.Text.RangeTable
import FormFill.Text.Search
import FormFill.Text.SmallForm
import FormFill.Text.Terminal
import FormFill.Text.Utf8
import FormFill.Text.Word
import FormFill.Validation
import FormFill.Values
import FormFill.Yaml.Binary
import FormFill.Yaml.Cursor
import FormFill.Yaml.Fault
import FormFill.Yaml.Moment
import FormFill.Yaml.Node
import FormFill.Yaml.Node.Reader
import FormFill.Yaml.Number
import FormFill.Yaml.Reader
import FormFill.Yaml.Scalar.Block
import FormFill.Yaml.Scalar.Plain
import FormFill.Yaml.Scalar.Quoted
import FormFill.Yaml.Tag
import FormFill.Yaml.Token
import FormFill.Yaml.Token.Property
import FormFill.Yaml.Token.Reader
import FormFill.Proofs.Yaml.StandIn
import FormFill.Proofs.Document.Numbering
