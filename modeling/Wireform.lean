import Wireform.Binary64.Basic
import Wireform.Binary64.Digits
import Wireform.Binary64.Reading
import Wireform.Binary64.Scientific
import Wireform.Calendar
import Wireform.Command.Options
import Wireform.Command.Run
import Wireform.Compiler
import Wireform.Document.Content
import Wireform.Document.Cursor
import Wireform.Document.Error
import Wireform.Document.File
import Wireform.Document.Merge
import Wireform.Document.Node
import Wireform.Document.Scalar
import Wireform.Document.ScalarValue
import Wireform.Document.Tag
import Wireform.Document.Token
import Wireform.Gcode.Line
import Wireform.Gcode.Machine
import Wireform.Log.Basic
import Wireform.Log.Instant
import Wireform.Log.Record
import Wireform.Log.Template
import Wireform.Main
import Wireform.Notice
import Wireform.Program.Expansion
import Wireform.Program.Fault
import Wireform.Program.Instruction
import Wireform.Program.LengthUnit
import Wireform.Program.Statement
import Wireform.Proofs.Command.Arguments
import Wireform.Proofs.Command.Delivery
import Wireform.Proofs.Command.Escape
import Wireform.Proofs.Command.Stages
import Wireform.Proofs.Compiler.Outcome
import Wireform.Proofs.Gcode.Block
import Wireform.Proofs.Gcode.Event
import Wireform.Proofs.Gcode.Pin
import Wireform.Proofs.Log.Lines
import Wireform.Proofs.Program.BlockTree
import Wireform.Proofs.Program.Brackets
import Wireform.Proofs.Program.DeadBlock
import Wireform.Proofs.Program.Displacement
import Wireform.Proofs.Program.FaultPosition
import Wireform.Proofs.Program.Forward
import Wireform.Proofs.Program.Line
import Wireform.Proofs.Program.Literal
import Wireform.Proofs.Program.Nesting
import Wireform.Proofs.Program.Recognition
import Wireform.Proofs.Program.Source
import Wireform.Proofs.Program.Spelling
import Wireform.Proofs.Program.SurplusEnd
import Wireform.Proofs.Program.Turns
import Wireform.Proofs.Refusal
import Wireform.Proofs.Settings.Loading
import Wireform.Proofs.Settings.Validity
import Wireform.Proofs.Storage.Folders
import Wireform.Proofs.Storage.Path
import Wireform.Proofs.Storage.Replace
import Wireform.Proofs.Storage.Steps
import Wireform.Proofs.Storage.Tree
import Wireform.Settings.Basic
import Wireform.Settings.Document
import Wireform.Storage.Path
import Wireform.Storage.Tree
import Wireform.Storage.Write
import Wireform.Text.Blank
import Wireform.Text.CodePoint
import Wireform.Text.DecimalDigit
import Wireform.Text.Hex
import Wireform.Text.LetterCase
import Wireform.Text.Printable
import Wireform.Text.Quoted
import Wireform.Text.Stream
import Wireform.Text.Utf8
import Wireform.Text.WordPart
import Wireform.Value
import Wireform.Value.Json
import Wireform.Proofs.Gcode.Continuation
import Wireform.Proofs.Settings.Layers
import Wireform.Proofs.Binary64.Rounding
import Wireform.Proofs.Binary64.Shortest
import Wireform.Proofs.Binary64.Plain
import Wireform.Proofs.Gcode.PinPosition
import Wireform.Proofs.Gcode.Coordinate
import Wireform.Proofs.Compiler.Coordinates
import Wireform.Proofs.Binary64.Places
import Wireform.Proofs.Gcode.Rate
import Wireform.Proofs.Gcode.NegativeZero
import Wireform.Proofs.Settings.Sections
import Wireform.Proofs.Storage.Atomic
import Wireform.Proofs.Program.Joined
import Wireform.Proofs.Settings.Overriding
import Wireform.Proofs.Gcode.Counterpart
import Wireform.Proofs.Gcode.History
import Wireform.Proofs.Binary64.Value
import Wireform.Proofs.Binary64.ReadBack
import Wireform.Proofs.Gcode.Rendering
import Wireform.Proofs.Log.Outlets
import Wireform.Proofs.Value.Decoding
import Wireform.Proofs.Value.Escapes
import Wireform.Proofs.Value.RoundTrip
import Wireform.Proofs.Log.JsonLine
import Wireform.Proofs.Program.BlockEnd
