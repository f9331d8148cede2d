import HarvardBench.File
import HarvardBench.Session
import HarvardBench.Proofs.Attempt
import HarvardBench.Proofs.Failure
import HarvardBench.Proofs.Text.Trimming
import HarvardBench.Proofs.Text.Decimal
import HarvardBench.Proofs.Assembly.Reading
import HarvardBench.Proofs.Assembly.Operands
import HarvardBench.Proofs.Assembly.Reference
import HarvardBench.Proofs.Isa.Encoding
import HarvardBench.Proofs.Assembly.SoleReference
import HarvardBench.Proofs.Assembly.Outline
import HarvardBench.Proofs.Assembly.Acceptance
import HarvardBench.Proofs.Assembly.Codes
import HarvardBench.Proofs.Assembly.Addressing
import HarvardBench.Proofs.Assembly.Instructions
import HarvardBench.Proofs.Assembly.Printing
import HarvardBench.Proofs.Assembly.Listing
import HarvardBench.Proofs.Assembly.Grammar
import HarvardBench.Proofs.Assembly.Derivation
import HarvardBench.Proofs.Assembly.Language
import HarvardBench.Proofs.Assembly.Linking
import HarvardBench.Proofs.Assembly.Rearrangement
import HarvardBench.Proofs.Assembly.Rejection
import HarvardBench.Proofs.Assembly.Localization
import HarvardBench.Proofs.Assembly.Overlong
import HarvardBench.Proofs.Assembly.Containment
import HarvardBench.Proofs.Machine.WellFormed
import HarvardBench.Proofs.Machine.Processor
import HarvardBench.Proofs.Machine.Table
import HarvardBench.Proofs.Memory.Undo
import HarvardBench.Proofs.Machine.Frame
import HarvardBench.Proofs.Machine.CallStack
import HarvardBench.Proofs.Machine.Extension
import HarvardBench.Proofs.Machine.LongSubtraction
import HarvardBench.Proofs.Debugging.History
import HarvardBench.Proofs.Debugging.Rewind
import HarvardBench.Proofs.Debugging.Run
import HarvardBench.Proofs.Debugging.Replay
import HarvardBench.Proofs.Debugging.Conditions
import HarvardBench.Proofs.Session.Bounds
import HarvardBench.Proofs.Session.Atomicity
import HarvardBench.Proofs.Source.Interpreter
import HarvardBench.Proofs.Source.Realization
import HarvardBench.Proofs.Source.Lockstep
import HarvardBench.Proofs.Assembly.Reassembly
import HarvardBench.Proofs.Session.Display
import HarvardBench.Proofs.Session.Restart
import HarvardBench.Proofs.Assembly.Resolution
import HarvardBench.Proofs.Machine.LongAddition
import HarvardBench.Proofs.Memory.Images
import HarvardBench.Proofs.Memory.Trace
import HarvardBench.Proofs.Memory.Procedures
import HarvardBench.Proofs.Memory.Refinement
import HarvardBench.Proofs.Configuration.Demands
import HarvardBench.Proofs.Text.Integer
import HarvardBench.Proofs.Text.LetterCase
import HarvardBench.Proofs.Configuration.Writing
import HarvardBench.Proofs.Configuration.Building
import HarvardBench.Proofs.Assembly.Literals
import HarvardBench.Proofs.Assembly.Progress
import HarvardBench.Proofs.Isa.Window
