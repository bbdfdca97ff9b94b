import ToyKernel.Library.Transition
import ToyKernel.Library.Chain
import ToyKernel.Library.DoublyLinked
import ToyKernel.Library.TwoListQueue
import ToyKernel.Library.RoundRobin
import ToyKernel.Library.CheckThenAct
import ToyKernel.Library.StableInsertion
import ToyKernel.Library.BitLength
import ToyKernel.Common
import ToyKernel.Cpu
import ToyKernel.BitArray
import ToyKernel.StampId
import ToyKernel.Mutex.Defs
import ToyKernel.Mutex.Queue
import ToyKernel.Mutex.System
import ToyKernel.Mutex.Invariant
import ToyKernel.Mutex.Exclusion
import ToyKernel.Mutex.Fifo
import ToyKernel.Scheduler.Defs
import ToyKernel.Scheduler.Fields
import ToyKernel.Scheduler.RunQueue
import ToyKernel.Scheduler.Lists
import ToyKernel.Scheduler.Summary
import ToyKernel.Scheduler.Refinement
import ToyKernel.Scheduler.Invariant
import ToyKernel.Scheduler.System
import ToyKernel.Scheduler.Conservation
import ToyKernel.Scheduler.Contexts
import ToyKernel.PageMap.Defs
import ToyKernel.PageMap.RoundTrip
import ToyKernel.PageMap.Boot
import ToyKernel.PageMap.Walk
import ToyKernel.PageMap.Agreement
import ToyKernel.Scheduler.Calls
import ToyKernel.Scheduler.QueueOrder
import ToyKernel.Scheduler.Dispatch
import ToyKernel.Scheduler.Counters
import ToyKernel.Scheduler.LifeCycle
import ToyKernel.Scheduler.Placement
import ToyKernel.Scheduler.StaleIds
import ToyKernel.Scheduler.Blocking
import ToyKernel.Scheduler.Quanta
import ToyKernel.Scheduler.RoundRobin
import ToyKernel.Driver.Defs
import ToyKernel.Driver.Registry
import ToyKernel.Driver.Enumeration
import ToyKernel.Driver.Cursor
import ToyKernel.Attaching
import ToyKernel.Ahci.Defs
import ToyKernel.Ahci.Scan
import ToyKernel.Ahci.Reconcile
import ToyKernel.Ahci.Ids
import ToyKernel.Ahci.Enumeration
import ToyKernel.Sleep.Defs
import ToyKernel.Sleep.Queue
import ToyKernel.Sleep.System
import ToyKernel.Sleep.Invariant
import ToyKernel.Sleep.FallAsleep
import ToyKernel.Sleep.WakeUp
import ToyKernel.Sleep.Order
import ToyKernel.Sleep.Lists
import ToyKernel.Sleep.Migration
import ToyKernel.Sleep.Timers
import ToyKernel.Sleep.Armed
import ToyKernel.Sleep.Overdue
import ToyKernel.Waiting.Defs
import ToyKernel.Waiting.Invariant
import ToyKernel.Waiting.Steps
import ToyKernel.Waiting.WakeUps
import ToyKernel.Masking.Defs
import ToyKernel.Masking.System
import ToyKernel.Masking.Ownership
import ToyKernel.Masking.Invariant
import ToyKernel.Masking.Discipline
import ToyKernel.Masking.Calls
import ToyKernel.Tasks.Defs
import ToyKernel.Tasks.System
import ToyKernel.Tasks.Spinlocks
import ToyKernel.Tasks.Handlers
import ToyKernel.Tasks.Advance
import ToyKernel.Tasks.Deadlock
import ToyKernel.Tasks.Exclusion
import ToyKernel.Tasks.Queues
import ToyKernel.Tasks.Protocol
import ToyKernel.Tasks.ProtocolSteps
import ToyKernel.Tasks.HandOver
import ToyKernel.Library.Forest
import ToyKernel.Library.DepthFirst
import ToyKernel.Pci.Defs
import ToyKernel.Pci.Fields
import ToyKernel.Pci.Scan
import ToyKernel.Pci.Topology
import ToyKernel.Console.Defs
import ToyKernel.Console.Display
import ToyKernel.Console.Transcript
import ToyKernel.Library.Terminated
import ToyKernel.Console.Strings
import ToyKernel.Console.Kprintf
import ToyKernel.Console.Conversions
import ToyKernel.Console.Format
import ToyKernel.Acpi.Defs
import ToyKernel.Acpi.Entries
import ToyKernel.Acpi.Enumeration
import ToyKernel.Acpi.RootTables
import ToyKernel.Acpi.Accesses
import ToyKernel.Acpi.Loops
import ToyKernel.ApicTimer
import ToyKernel.CpuInfo.Defs
import ToyKernel.CpuInfo.Widths
import ToyKernel.CpuInfo.Table
import ToyKernel.Library.Program
import ToyKernel.Bytes.Defs
import ToyKernel.Bytes.Regions
import ToyKernel.Bytes.Buffers
import ToyKernel.Bytes.Strings
import ToyKernel.Bytes.Contracts
import ToyKernel.Bytes.Search
import ToyKernel.Bytes.Numerals
import ToyKernel.Bytes.Masks
import ToyKernel.Library.LittleEndian
import ToyKernel.Library.Amd64
import ToyKernel.Interrupts.Defs
import ToyKernel.Interrupts.Wrapper
import ToyKernel.Interrupts.Frames
import ToyKernel.Interrupts.Contexts
import ToyKernel.Interrupts.Simulation
import ToyKernel.Interrupts.Switches
import ToyKernel.Interrupts.Threads
import ToyKernel.Interrupts.Descriptors
import ToyKernel.Interrupts.Tables
import ToyKernel.Interrupts.Delivery
import ToyKernel.Interrupts.TableRuns
import ToyKernel.Library.GuardedSection
import ToyKernel.Allocator
import ToyKernel.Console.Screen
import ToyKernel.Console.Messages
import ToyKernel.Boot.Ipis
import ToyKernel.Boot.Defs
import ToyKernel.Boot.Invariant
import ToyKernel.Boot.BspSteps
import ToyKernel.Boot.ApSteps
import ToyKernel.Boot.Safety
import ToyKernel.Acpi.KernelMap
import ToyKernel.CpuInfo.Firmware
import ToyKernel.Scheduler.Accounting
import ToyKernel.Kmain
import ToyKernel.Bytes.Log
