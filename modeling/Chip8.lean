import Chip8.Axis
import Chip8.Board
import Chip8.Cadence
import Chip8.Calendar
import Chip8.CommandLine.Options
import Chip8.CommandLine.Session
import Chip8.Config.Load
import Chip8.Config.Merge
import Chip8.Config.Settings
import Chip8.Decimal.Binary
import Chip8.Decimal.ByteCount
import Chip8.Decimal.Print
import Chip8.Decimal.Read
import Chip8.Disassembly
import Chip8.Display
import Chip8.Display.Named
import Chip8.Event
import Chip8.Failure
import Chip8.Fault
import Chip8.Files.Directory
import Chip8.Files.Path
import Chip8.Files.Tree
import Chip8.Host.Keyboard
import Chip8.Inspect.MemoryDump
import Chip8.Inspect.Snapshot
import Chip8.Keypad
import Chip8.Log.Conversion
import Chip8.Log.File
import Chip8.Log.Format
import Chip8.Log.Record
import Chip8.Log.Target
import Chip8.Machine.Basic
import Chip8.Machine.Control
import Chip8.Machine.Report
import Chip8.Machine.Run
import Chip8.Machine.Step
import Chip8.Main
import Chip8.Memo
import Chip8.Memory
import Chip8.Mnemonic
import Chip8.Program
import Chip8.ProgramFile
import Chip8.Proofs.Act
import Chip8.Proofs.Alike
import Chip8.Proofs.Arithmetic
import Chip8.Proofs.Assembly
import Chip8.Proofs.Awaiting
import Chip8.Proofs.Bounds
import Chip8.Proofs.CallStack
import Chip8.Proofs.Change
import Chip8.Proofs.Countdown
import Chip8.Proofs.Dispatch
import Chip8.Proofs.Drawing
import Chip8.Proofs.Dump
import Chip8.Proofs.Encoding
import Chip8.Proofs.Erasure
import Chip8.Proofs.Executing
import Chip8.Proofs.Execution
import Chip8.Proofs.Faults
import Chip8.Proofs.Flow
import Chip8.Proofs.Footprint
import Chip8.Proofs.Halting
import Chip8.Proofs.HeldLines
import Chip8.Proofs.Hex
import Chip8.Proofs.Images
import Chip8.Proofs.Instruction
import Chip8.Proofs.KeyWait
import Chip8.Proofs.Keyboard
import Chip8.Proofs.Keypad
import Chip8.Proofs.Lines
import Chip8.Proofs.Listeners
import Chip8.Proofs.Loading
import Chip8.Proofs.Lockstep
import Chip8.Proofs.Lookup
import Chip8.Proofs.Meaning
import Chip8.Proofs.Memory
import Chip8.Proofs.Merging
import Chip8.Proofs.Nesting
import Chip8.Proofs.News
import Chip8.Proofs.Pace
import Chip8.Proofs.Past
import Chip8.Proofs.Perform
import Chip8.Proofs.Pictures
import Chip8.Proofs.Polls
import Chip8.Proofs.ProgramFiles
import Chip8.Proofs.Reach
import Chip8.Proofs.Registers
import Chip8.Proofs.Requests
import Chip8.Proofs.Residents
import Chip8.Proofs.Sprite
import Chip8.Proofs.Stopwatch
import Chip8.Proofs.Store
import Chip8.Proofs.Tempo
import Chip8.Proofs.Throttle
import Chip8.Proofs.Timeless
import Chip8.Proofs.Timers
import Chip8.Proofs.Traces
import Chip8.Proofs.Tracing
import Chip8.Proofs.Transfers
import Chip8.Proofs.Transparent
import Chip8.Proofs.Trees
import Chip8.Proofs.Turns
import Chip8.Proofs.Untraced
import Chip8.Proofs.Uptime
import Chip8.Proofs.Validation
import Chip8.Registers
import Chip8.Stopwatch
import Chip8.Text.Columns
import Chip8.Text.Digit
import Chip8.Text.Hex
import Chip8.Text.Lines
import Chip8.Text.Markup
import Chip8.Text.Picture
import Chip8.Text.Printable
import Chip8.Text.Quoted
import Chip8.Text.Ranges
import Chip8.Text.Table
import Chip8.Text.Utf8
import Chip8.Text.Word
import Chip8.Text.Wrap
import Chip8.Time
import Chip8.Toml.Document
import Chip8.Toml.Lexeme
import Chip8.Toml.Moment
import Chip8.Toml.Nest
import Chip8.Tone.Samples
import Chip8.Tone.Switch
import Chip8.Value
import Chip8.Whole
import Chip8.Word
