import ArduOS.Config
import ArduOS.HAL.Consumers
import ArduOS.HAL.Delivery
import ArduOS.HAL.Held
import ArduOS.HAL.Receiver
import ArduOS.HAL.Resync
import ArduOS.Kernel.Allocation
import ArduOS.Kernel.Blocks
import ArduOS.Kernel.CardImage
import ArduOS.Kernel.Communication
import ArduOS.Kernel.HeapOwnership
import ArduOS.Kernel.Memory
import ArduOS.Kernel.Records
import ArduOS.Kernel.Scheduler
import ArduOS.Kernel.State
import ArduOS.Kernel.Syscall
import ArduOS.Kernel.Tasks
import ArduOS.Kernel.VirtualMachine
import ArduOS.Library.Bits
import ArduOS.Library.FirstFit
import ArduOS.Library.Framing
import ArduOS.Library.Ledger
import ArduOS.Library.Loops
import ArduOS.Library.Orbits
import ArduOS.Library.Repetition
import ArduOS.StreamProtocol.Codec
import ArduOS.StreamProtocol.Fields
import ArduOS.StreamProtocol.RoundTrip
import ArduOS.Kernel.Outcomes
import ArduOS.Kernel.Touches
import ArduOS.Kernel.Turns
import ArduOS.Kernel.Runs
import ArduOS.Library.Waits
import ArduOS.Kernel.Waiting
import ArduOS.Kernel.Leaks
import ArduOS.Kernel.Effects
import ArduOS.Kernel.Footprint
import ArduOS.Kernel.Instructions
import ArduOS.Kernel.Requests
import ArduOS.Kernel.StackBounds
import ArduOS.Kernel.Isolation
import ArduOS.Kernel.Fetching
import ArduOS.StreamProtocol.EncoderImage
import ArduOS.Library.ShiftRegister
import ArduOS.StreamProtocol.BurstErrors
import ArduOS.Kernel.Placement
import ArduOS.Kernel.Segments
import ArduOS.Kernel.AllocatedMemory
import ArduOS.Kernel.RequestBuffer
import ArduOS.Kernel.HeapStrings
import ArduOS.Kernel.RemoteExec
import ArduOS.Kernel.SyscallBounds
import ArduOS.Kernel.Jumps
import ArduOS.Kernel.Listing
import ArduOS.VmTools.Assembler
import ArduOS.VmTools.CodeLayout
import ArduOS.HAL.TwoConsumers
import ArduOS.Kernel.SharedInput
import ArduOS.Kernel.ZeroCell
import ArduOS.Kernel.AllOrNothing
import ArduOS.Kernel.PathBuffer
import ArduOS.Library.Cells
import ArduOS.Kernel.Rendering
import ArduOS.Client.ReceiveLoop
import ArduOS.Client.Blocks
import ArduOS.Library.Traced
import ArduOS.StreamProtocol.Accesses
import ArduOS.StreamProtocol.Bounds
import ArduOS.HAL.Announced
import ArduOS.Kernel.OwnSteps
import ArduOS.Kernel.Bystanders
import ArduOS.Kernel.Sleeping
import ArduOS.Kernel.Directories
import ArduOS.Kernel.ParentDirectories
import ArduOS.HAL.RawBuffer
import ArduOS.VmTools.ReadBack
import ArduOS.Kernel.EndOfCode
import ArduOS.Kernel.Footing
import ArduOS.VmTools.StackMachine
import ArduOS.VmTools.StackSteps
import ArduOS.VmTools.ProgramRuns
import ArduOS.VmTools.Shell
import ArduOS.VmTools.MemoryMachine
import ArduOS.VmTools.ShellCd
import ArduOS.VmTools.SourceProgram
import ArduOS.VmTools.Preservation
import ArduOS.Kernel.Messages
import ArduOS.Kernel.Values
import ArduOS.Kernel.ProperSteps
import ArduOS.Kernel.Printing
import ArduOS.Client.Console
import ArduOS.Client.Session
import ArduOS.Client.Typing
import ArduOS.Kernel.AbsolutePaths
import ArduOS.Kernel.Replies
import ArduOS.Kernel.ExecReplies
import ArduOS.Kernel.LastWords
import ArduOS.VmTools.DescribedPrograms
import ArduOS.Kernel.StackTops
import ArduOS.Kernel.Calls
import ArduOS.Client.Cutting
import ArduOS.Kernel.AtRest
import ArduOS.VmTools.ShellSource
