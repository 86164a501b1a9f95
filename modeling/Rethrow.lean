import Rethrow.Archive.Inflate
import Rethrow.Archive.Open
import Rethrow.Archive.Zip
import Rethrow.Batch
import Rethrow.Command.Arguments
import Rethrow.Command.Reach
import Rethrow.Command.Run
import Rethrow.Disk.Access
import Rethrow.Disk.Basic
import Rethrow.Disk.Path
import Rethrow.Failure
import Rethrow.Folder
import Rethrow.Fragment.Collapse
import Rethrow.Fragment.Dedent
import Rethrow.Fragment.TextBlock
import Rethrow.Grammar.Pattern
import Rethrow.Grammar.Regex
import Rethrow.Java.Chart
import Rethrow.Java.Fault
import Rethrow.Java.Lexeme
import Rethrow.Java.Network
import Rethrow.Java.Rule
import Rethrow.Java.Terminal
import Rethrow.Java.Tree
import Rethrow.Log.Basic
import Rethrow.Log.Filter
import Rethrow.Lookup
import Rethrow.Main
import Rethrow.Narration
import Rethrow.Proofs.Archive.Open
import Rethrow.Proofs.Batch.Frame
import Rethrow.Proofs.Batch.Independence
import Rethrow.Proofs.Batch.Lookup
import Rethrow.Proofs.Batch.Outputs
import Rethrow.Proofs.Batch.Stopping
import Rethrow.Proofs.Command.Processing
import Rethrow.Proofs.Disk.Delivery
import Rethrow.Proofs.Disk.Making
import Rethrow.Proofs.Disk.Names
import Rethrow.Proofs.Disk.Overlay
import Rethrow.Proofs.Disk.Paths
import Rethrow.Proofs.Disk.Tree
import Rethrow.Proofs.Disk.Ways
import Rethrow.Proofs.Java.Calls
import Rethrow.Proofs.Java.Trail
import Rethrow.Proofs.Lexical.Collapse
import Rethrow.Proofs.Lexical.Comments
import Rethrow.Proofs.Lexical.Dedent
import Rethrow.Proofs.Lexical.Flags
import Rethrow.Proofs.Lexical.Joints
import Rethrow.Proofs.Lexical.LineEnds
import Rethrow.Proofs.Lexical.LineStarts
import Rethrow.Proofs.Lexical.Normalised
import Rethrow.Proofs.Lexical.Recollapse
import Rethrow.Proofs.Lexical.Reindent
import Rethrow.Proofs.Lexical.Rows
import Rethrow.Proofs.Lexical.Scanner
import Rethrow.Proofs.Lexical.Significant
import Rethrow.Proofs.Lookup.Files
import Rethrow.Proofs.Lookup.History
import Rethrow.Proofs.Lookup.Search
import Rethrow.Proofs.Reading.Children
import Rethrow.Proofs.Reading.Comments
import Rethrow.Proofs.Reading.Containers
import Rethrow.Proofs.Reading.Declarations
import Rethrow.Proofs.Reading.Delegation
import Rethrow.Proofs.Reading.Extents
import Rethrow.Proofs.Reading.Ledger
import Rethrow.Proofs.Reading.Statements
import Rethrow.Proofs.Reading.Tree
import Rethrow.Proofs.Session.Delegation
import Rethrow.Proofs.Session.Orders
import Rethrow.Proofs.Text.Blanks
import Rethrow.Proofs.Text.Lines
import Rethrow.Proofs.Text.Literal
import Rethrow.Proofs.Text.Replace
import Rethrow.Proofs.Unit.Comments
import Rethrow.Proofs.Unit.Depth
import Rethrow.Proofs.Unit.Layout
import Rethrow.Proofs.Unit.Lexing
import Rethrow.Proofs.Unit.Pieces
import Rethrow.Proofs.Unit.Tokens
import Rethrow.Proofs.Wrapper.Again
import Rethrow.Proofs.Wrapper.Image
import Rethrow.Proofs.Wrapper.Message
import Rethrow.Proofs.Wrapper.Refusal
import Rethrow.Proofs.Wrapper.Strip
import Rethrow.Session
import Rethrow.Settings.Basic
import Rethrow.Settings.Document
import Rethrow.Settings.Load
import Rethrow.Settings.Quoted
import Rethrow.Source
import Rethrow.Text.Basic
import Rethrow.Text.Escape
import Rethrow.Text.Lines
import Rethrow.Text.Quoted
import Rethrow.Text.Word
import Rethrow.Unit.Basic
import Rethrow.Unit.Build
import Rethrow.Unit.Equality
import Rethrow.Unit.Layout
import Rethrow.Unit.Reading
import Rethrow.UnitId
import Rethrow.Wrapper.Enhance
import Rethrow.Wrapper.Options
import Rethrow.Wrapper.Rename
import Rethrow.Wrapper.Strip
import Rethrow.Wrapper.Wrap
