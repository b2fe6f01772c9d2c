import LineFraming.Console
import LineFraming.Dialogue
import LineFraming.Draft
import LineFraming.History
import LineFraming.Json.Reader
import LineFraming.LineKind
import LineFraming.Main
import LineFraming.Prompt
import LineFraming.Proofs.Block
import LineFraming.Proofs.Console.Conservation
import LineFraming.Proofs.Console.Input
import LineFraming.Proofs.Console.Interrupting
import LineFraming.Proofs.Console.Interspersing
import LineFraming.Proofs.Console.Mirroring
import LineFraming.Proofs.Console.Prefilling
import LineFraming.Proofs.Console.Prompting
import LineFraming.Proofs.Console.Quoting
import LineFraming.Proofs.Console.Rest
import LineFraming.Proofs.Console.Run
import LineFraming.Proofs.Console.Running
import LineFraming.Proofs.Console.Typing
import LineFraming.Proofs.Dialogue.Ending
import LineFraming.Proofs.Dialogue.Rendering
import LineFraming.Proofs.Framer.Answers
import LineFraming.Proofs.Framer.Closing
import LineFraming.Proofs.Framer.Composition
import LineFraming.Proofs.Framer.Frame
import LineFraming.Proofs.Framer.Grounds
import LineFraming.Proofs.Framer.Joining
import LineFraming.Proofs.Framer.Keeping
import LineFraming.Proofs.Framer.Likeness
import LineFraming.Proofs.Framer.Outcome
import LineFraming.Proofs.Framer.Overflow
import LineFraming.Proofs.Framer.Parting
import LineFraming.Proofs.Framer.Rest
import LineFraming.Proofs.Framer.Schedule
import LineFraming.Proofs.Framer.Slot
import LineFraming.Proofs.Framer.Splitting
import LineFraming.Proofs.Framer.Stock
import LineFraming.Proofs.History
import LineFraming.Proofs.Json.RoundTrip
import LineFraming.Proofs.Pieces
import LineFraming.Proofs.Settings.Store
import LineFraming.Proofs.Splitter
import LineFraming.Proofs.Text.Lines
import LineFraming.Proofs.Worker.Asking
import LineFraming.Proofs.Worker.Backing
import LineFraming.Proofs.Worker.Delivery
import LineFraming.Proofs.Worker.Flags
import LineFraming.Proofs.Worker.Hang
import LineFraming.Proofs.Worker.Message
import LineFraming.Proofs.Worker.Session
import LineFraming.Proofs.Worker.Turn
import LineFraming.Rehearsal
import LineFraming.ScriptedInterpreter
import LineFraming.Settings.File
import LineFraming.Text.Lines
import LineFraming.Toml.Reader
import LineFraming.Trial
import LineFraming.Worker.Launch
import LineFraming.Worker.Run
