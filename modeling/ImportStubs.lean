import ImportStubs.Command
import ImportStubs.Command.Arguments
import ImportStubs.Command.Usage
import ImportStubs.Console
import ImportStubs.Console.Emoji
import ImportStubs.Console.Emoji.Codes
import ImportStubs.Console.Lines
import ImportStubs.Console.Markup
import ImportStubs.Console.Markup.Parameters
import ImportStubs.Console.Panel
import ImportStubs.Console.Style
import ImportStubs.Console.Style.ColorNames
import ImportStubs.Console.StyledText
import ImportStubs.Console.Table
import ImportStubs.Console.Theme
import ImportStubs.Correlation
import ImportStubs.Database
import ImportStubs.Database.Entity
import ImportStubs.Database.Error
import ImportStubs.Database.Fields
import ImportStubs.Database.Nid
import ImportStubs.Display
import ImportStubs.Elf.Header
import ImportStubs.Elf.Image
import ImportStubs.Elf.SectionHeader
import ImportStubs.Json.Reader
import ImportStubs.Json.Writer
import ImportStubs.LoadError
import ImportStubs.Log
import ImportStubs.Log.Call
import ImportStubs.Log.Line
import ImportStubs.Log.Reading
import ImportStubs.Log.Threshold
import ImportStubs.Main
import ImportStubs.Moment
import ImportStubs.Number.Binary64
import ImportStubs.Number.Binary64.Places
import ImportStubs.Number.Binary64.Shortest
import ImportStubs.Number.Numeral
import ImportStubs.Number.Radix
import ImportStubs.Number.Rounding
import ImportStubs.Proofs.Elf.Reading
import ImportStubs.Proofs.Record.Stitching
import ImportStubs.Record
import ImportStubs.Resolution
import ImportStubs.Session
import ImportStubs.Settings
import ImportStubs.Source
import ImportStubs.Stub
import ImportStubs.Stub.Fields
import ImportStubs.Stub.Kind
import ImportStubs.Stub.Table
import ImportStubs.Symbol
import ImportStubs.Symbol.Table
import ImportStubs.Template
import ImportStubs.Template.Error
import ImportStubs.Template.Piece
import ImportStubs.Text
import ImportStubs.Text.Blank
import ImportStubs.Text.Cells
import ImportStubs.Text.Digit
import ImportStubs.Text.Grapheme
import ImportStubs.Text.LetterCase
import ImportStubs.Text.LowerCase
import ImportStubs.Text.Printable
import ImportStubs.Text.Quoted
import ImportStubs.Text.Utf8
import ImportStubs.Text.WordPoint
import ImportStubs.Toml.Document
import ImportStubs.Toml.Quoted
import ImportStubs.Toml.Reader
import ImportStubs.Toml.Scalar
import ImportStubs.Validation
import ImportStubs.Value
import ImportStubs.Word
import ImportStubs.Proofs.Session.Steps
import ImportStubs.Proofs.Session.Chains
import ImportStubs.Proofs.Session.PieceSize
import ImportStubs.Proofs.Elf.Opening
import ImportStubs.Proofs.Elf.Layout
import ImportStubs.Proofs.Symbol.ExtendedIndexes
import ImportStubs.Proofs.Elf.Tables
import ImportStubs.Proofs.Session.Assembly
import ImportStubs.Proofs.Correlation.Attachment
import ImportStubs.Proofs.Session.Contents
import ImportStubs.Proofs.Session.Passes
import ImportStubs.Proofs.Session.Correlated
import ImportStubs.Proofs.Symbol.Payload
import ImportStubs.Proofs.Correlation.ReservedIndexes
import ImportStubs.Proofs.Text.Encoding
import ImportStubs.Proofs.Elf.Acceptance
import ImportStubs.Proofs.Elf.Closing
import ImportStubs.Proofs.Elf.Defects
import ImportStubs.Proofs.Elf.Writing
import ImportStubs.Proofs.Elf.RoundTrip
import ImportStubs.Proofs.Session.Frame
import ImportStubs.Proofs.Session.Precedence
import ImportStubs.Proofs.Session.Outcome
import ImportStubs.Proofs.Resolution.Outcome
import ImportStubs.Proofs.Resolution.Repetition
import ImportStubs.Proofs.Database.Descriptor
import ImportStubs.Proofs.Database.Acceptance
import ImportStubs.Proofs.Database.Faults
import ImportStubs.Proofs.Json.Readers
import ImportStubs.Proofs.Json.Plain
import ImportStubs.Proofs.Number.LongNumeral
import ImportStubs.Proofs.LoadError
import ImportStubs.Proofs.Database.Endings
import ImportStubs.Proofs.Session.Lifecycle
import ImportStubs.Proofs.Session.Steady
import ImportStubs.Proofs.Console.Escaping
import ImportStubs.Proofs.Console.Rendering
import ImportStubs.Proofs.Console.Printing
import ImportStubs.Proofs.Display.Names
import ImportStubs.Proofs.Text.Decoding
import ImportStubs.Proofs.Json.LongNumber
import ImportStubs.Proofs.Json.Escapes
import ImportStubs.Proofs.Json.Numerals
import ImportStubs.Proofs.Json.Regular
import ImportStubs.Proofs.Json.RoundTrip
import ImportStubs.Proofs.Database.Files
import ImportStubs.Proofs.Database.Names
import ImportStubs.Proofs.Session.Summaries
import ImportStubs.Proofs.Command.Document
import ImportStubs.Proofs.Command.Steps
import ImportStubs.Proofs.Command.LoggedOutput
import ImportStubs.Proofs.Toml.Hexadecimal
import ImportStubs.Proofs.Toml.Names
import ImportStubs.Proofs.Settings.Tables
import ImportStubs.Proofs.Settings.Acceptance
import ImportStubs.Proofs.Command.Outcome
import ImportStubs.Proofs.Record.Acceptance
import ImportStubs.Proofs.Correlation.Attachable
import ImportStubs.Proofs.Correlation.Refusal
import ImportStubs.Proofs.Symbol.Requests
import ImportStubs.Proofs.Symbol.IndexTables
import ImportStubs.Proofs.Stub.Packing
import ImportStubs.Proofs.Elf.Calls
import ImportStubs.Proofs.Text.Replacement
import ImportStubs.Proofs.Elf.Strings
import ImportStubs.Proofs.Number.Spellings
import ImportStubs.Proofs.Database.NidSpellings
import ImportStubs.Proofs.Database.Registration
import ImportStubs.Proofs.Database.Keys
import ImportStubs.Proofs.Console.EmojiCodes
import ImportStubs.Proofs.Console.Literal
import ImportStubs.Proofs.Display.NameCells
import ImportStubs.Proofs.Text.Surrogates
import ImportStubs.Proofs.Json.Lines
import ImportStubs.Proofs.Log.Scopes
import ImportStubs.Proofs.Log.Hierarchy
import ImportStubs.Proofs.Log.Lines
import ImportStubs.Proofs.Log.Operations
import ImportStubs.Proofs.Members
