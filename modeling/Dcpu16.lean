import Dcpu16.Action
import Dcpu16.Arithmetic
import Dcpu16.Config.Basic
import Dcpu16.Config.Build
import Dcpu16.Config.Load
import Dcpu16.Config.Read
import Dcpu16.Decimal.Binary64
import Dcpu16.Decimal.Shortest
import Dcpu16.Decimal.Text
import Dcpu16.Execute
import Dcpu16.Folder
import Dcpu16.Image
import Dcpu16.Instruction
import Dcpu16.Listing
import Dcpu16.Machine
import Dcpu16.Numeral.Digit
import Dcpu16.Numeral.Integer
import Dcpu16.Operand
import Dcpu16.Proofs.Aliasing
import Dcpu16.Proofs.BoundedRun
import Dcpu16.Proofs.Building
import Dcpu16.Proofs.Calls
import Dcpu16.Proofs.Cancellation
import Dcpu16.Proofs.Computation
import Dcpu16.Proofs.Cycle
import Dcpu16.Proofs.Description
import Dcpu16.Proofs.Display
import Dcpu16.Proofs.Fault
import Dcpu16.Proofs.Frame
import Dcpu16.Proofs.Hexadecimal
import Dcpu16.Proofs.ImageLines
import Dcpu16.Proofs.ImageWords
import Dcpu16.Proofs.Journal
import Dcpu16.Proofs.Kept
import Dcpu16.Proofs.Layout
import Dcpu16.Proofs.Length
import Dcpu16.Proofs.LineByLine
import Dcpu16.Proofs.ListingText
import Dcpu16.Proofs.Literals
import Dcpu16.Proofs.Loading
import Dcpu16.Proofs.LowBits
import Dcpu16.Proofs.MemoryImage
import Dcpu16.Proofs.Operands
import Dcpu16.Proofs.OptionalKeys
import Dcpu16.Proofs.Origin
import Dcpu16.Proofs.Reachable
import Dcpu16.Proofs.ReadSet
import Dcpu16.Proofs.Rendering
import Dcpu16.Proofs.Resolution
import Dcpu16.Proofs.Routine
import Dcpu16.Proofs.Skip
import Dcpu16.Proofs.Snapshot
import Dcpu16.Proofs.Spelling
import Dcpu16.Proofs.Stack
import Dcpu16.Proofs.StraightLine
import Dcpu16.Proofs.Sweep
import Dcpu16.Proofs.Trace
import Dcpu16.Proofs.Unwritten
import Dcpu16.Proofs.Wrapping
import Dcpu16.Register
import Dcpu16.Run
import Dcpu16.Session
import Dcpu16.Space.Basic
import Dcpu16.Space.Lemmas
import Dcpu16.Table
import Dcpu16.Text.Basic
import Dcpu16.Text.Case
import Dcpu16.Text.Layout
import Dcpu16.Text.Printable
import Dcpu16.Text.Quoted
import Dcpu16.Value
import Dcpu16.Word
import Dcpu16.Yaml.Block
import Dcpu16.Yaml.Cursor
import Dcpu16.Yaml.Document
import Dcpu16.Yaml.Error
import Dcpu16.Yaml.Filling
import Dcpu16.Yaml.Graph
import Dcpu16.Yaml.Merge
import Dcpu16.Yaml.Plain
import Dcpu16.Yaml.Quoted
import Dcpu16.Yaml.Scalar
import Dcpu16.Yaml.Token
