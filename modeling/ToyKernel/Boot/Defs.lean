import ToyKernel.Boot.Ipis
import ToyKernel.Interrupts.Tables

/-!
# Booting the processors

`boot64` on the boot processor and `boot64_ap` on the others, as far as they interact: the tables
for interrupts, the interrupts that start the other processors, the stack that these share, and
the counter by which they report.  The interrupts between processors are delivered at any time
later, in order.  A processor takes one access of shared memory or of its local APIC in a step.
-/

namespace ToyKernel
namespace Boot

open ApicTimer CpuInfo Interrupts

/-! ## Constants -/

/-- `BSTART16_ADDR`. -/
def bstart16Addr : BitVec 32 := 0x1000

/-- `CONFIG_AP_BOOT_STACK_SIZE`. -/
def configApBootStackSize : BitVec 64 := 0x1000

/-- `AP_CPU_RETRY_TIMEOUT` and `AP_CPU_STARTUP_TIMEOUT`. -/
def apCpuRetryTimeout : Nat := 20000

def apCpuStartupTimeout : Nat := 200000

/-- `INT_VECTOR_APIC_SPURIOUS`, `INT_VECTOR_APIC_TIMER` and `INT_VECTOR_SCHEDULER_TASK`. -/
def intVectorApicSpurious : Nat := 32

def intVectorApicTimer : Nat := 33

def intVectorSchedulerTask : Nat := 34

/-- What the boot code finds: the table of `cpu_info.c`, the places of the tables for interrupts,
the stack that `start_ap_cpus` allocates, and the addresses of code. -/
structure Platform where
  table : CpuTable
  places : Places
  apBootStack : BitVec 64
  defaultIsr : Nat → BitVec 64
  emptyIsr : BitVec 64
  timerIsr : BitVec 64
  taskIsr : BitVec 64
  /-- The `jmp __halt` behind the call of `boot64_ap`. -/
  behindBoot64Ap : BitVec 64

/-! ## Processors -/

/-- The points of control of `boot64`, from `init_interrupts` to `init_scheduler`. -/
inductive BspPoint
  | initInterrupts
  /-- The two calls of `set_isr` in `init_apic`. -/
  | setSpuriousIsr
  | setEmptyTimerIsr
  | sti
  | startApCpus
  /-- The loop of `start_ap_cpus`. -/
  | nextCpu (cpu : Nat)
  /-- The writes of `start_ap_cpu` for INIT, the timer and `hlt`. -/
  | initHigh (cpu : Nat)
  | initLow (cpu : Nat)
  | initHalt (cpu : Nat)
  /-- `cpus = *started_cpus`. -/
  | readCount (cpu : Nat)
  /-- The outer loop of `start_ap_cpu`, and its writes for the startup. -/
  | startupHigh (cpu cpus attempt : Nat)
  | startupLow (cpu cpus attempt : Nat)
  /-- The inner loop: the timer and `hlt`, and then the test of the counter. -/
  | retryHalt (cpu cpus attempt timeout : Nat)
  | check (cpu cpus attempt timeout : Nat)
  /-- The two calls of `set_isr` in `init_scheduler`, and `create_spinlock`. -/
  | setTimerIsr
  | setTaskIsr
  | createLock
  | booted
  /-- `PANIC("failed to start AP CPU %d", i)`. -/
  | failed (cpu : Nat)
  /-- `PANIC("failed to allocate memory")`. -/
  | noMemory
  /-- A fault while the tables are loaded. -/
  | lost
  deriving DecidableEq

/-- The points of control of another processor. -/
inductive ApPoint
  | off
  | waitForStartup
  /-- The code from `__bstart16` on, up to the load of `ap_boot_stack`. -/
  | entering
  /-- Before the call of `boot64_ap`, with the stack pointer that it has. -/
  | calling (rsp : BitVec 64)
  | initInterrupts (rsp : BitVec 64)
  | initApic (rsp : BitVec 64)
  | sti (rsp : BitVec 64)
  | initScheduler (rsp : BitVec 64)
  /-- `started_cpus++`, in two accesses. -/
  | loadCount (rsp : BitVec 64)
  | storeCount (rsp : BitVec 64) (count : Nat)
  /-- Before the return of `boot64_ap`. -/
  | returning (rsp : BitVec 64)
  | halted
  /-- Elsewhere. -/
  | lost
  deriving DecidableEq

/-- The state of the machine.  `returnAddress` holds the words on which `boot64_ap` returns, by
their addresses. -/
structure State where
  bsp : BspPoint
  ap : Nat → ApPoint
  icrHigh : BitVec 32
  pending : Nat → List Ipi
  trampoline : Bool
  startedCpus : Nat
  returnAddress : BitVec 64 → BitVec 64
  enabled : Nat → Bool
  cpuLock : Nat → Bool
  tables : Tables

namespace State

/-- The boot processor goes on to a point. -/
def goto (state : State) (point : BspPoint) : State :=
  { state with bsp := point }

/-- Another processor goes on to a point. -/
def gotoAp (state : State) (cpu : Nat) (point : ApPoint) : State :=
  { state with ap := Function.update state.ap cpu point }

/-- The upper half of the interrupt command register. -/
def setHigh (state : State) (value : BitVec 32) : State :=
  { state with icrHigh := value }

/-- The lower half, which sends an interrupt. -/
def send (state : State) (platform : Platform) (value : BitVec 32) : State :=
  match decodeIpi state.icrHigh value with
  | none => state
  | some ipi =>
      { state with pending := fun cpu =>
          if cpu < platform.places.cpus ∧ ipi.Reaches (platform.table.descs cpu).id then
            state.pending cpu ++ [ipi]
          else
            state.pending cpu }

/-- The tables for interrupts, and the memory that they are in. -/
def setTables (state : State) (tables : Tables) : State :=
  { state with tables := tables }

/-- `set_isr`. -/
def setIsr (state : State) (platform : Platform) (vector : Nat) (isr : BitVec 64) : State :=
  state.setTables { state.tables with
    memory := Interrupts.setIsr platform.places state.tables.memory vector isr }

/-- `sti`. -/
def enable (state : State) (cpu : Nat) : State :=
  { state with enabled := Function.update state.enabled cpu true }

/-- `LOG_DEBUG`: the release of the lock of the display ends with `sti`, for it is the outermost
lock. -/
def logDebug (state : State) (cpu : Nat) : State :=
  state.enable cpu

/-- A call writes the address behind it below the stack pointer. -/
def pushReturn (state : State) (rsp address : BitVec 64) : State :=
  { state with returnAddress := Function.update state.returnAddress (rsp - 8) address }

/-- `create_spinlock(&cpus[cpu].lock)`. -/
def createCpuLock (state : State) (cpu : Nat) : State :=
  { state with cpuLock := Function.update state.cpuLock cpu true }

end State

/-! ## Steps -/

section Steps

variable (platform : Platform) (state : State)

/-- One step of the boot processor; a `hlt` is left at any time. -/
def bspStep : Option State :=
  match state.bsp with
  | .initInterrupts =>
      match Interrupts.initInterrupts platform.places platform.defaultIsr state.tables
          platform.places.bspCpu with
      | some tables =>
          some (((state.setTables tables).logDebug platform.places.bspCpu).goto .setSpuriousIsr)
      | none => some (state.goto .lost)
  | .setSpuriousIsr => some ((state.setIsr platform intVectorApicSpurious platform.emptyIsr).goto
      .setEmptyTimerIsr)
  | .setEmptyTimerIsr => some ((state.setIsr platform intVectorApicTimer platform.emptyIsr).goto
      .sti)
  | .sti => some ((state.enable platform.places.bspCpu).goto .startApCpus)
  | .startApCpus =>
      if platform.places.cpus = 1 then
        some (state.goto .setTimerIsr)
      else if platform.apBootStack = 0 then
        some (State.goto { state with trampoline := true } .noMemory)
      else
        some (State.goto { state with trampoline := true } (.nextCpu 0))
  | .nextCpu cpu =>
      if cpu < platform.places.cpus then
        if cpu ≠ platform.places.bspCpu then some (state.goto (.initHigh cpu))
        else some (state.goto (.nextCpu (cpu + 1)))
      else
        some (state.goto .setTimerIsr)
  | .initHigh cpu => some ((state.setHigh (icrHigh platform.table cpu)).goto (.initLow cpu))
  | .initLow cpu => some ((state.send platform initIcrLow).goto (.initHalt cpu))
  | .initHalt cpu => some (state.goto (.readCount cpu))
  | .readCount cpu => some (state.goto (.startupHigh cpu state.startedCpus 0))
  | .startupHigh cpu cpus attempt =>
      if attempt < 2 then
        some ((state.setHigh (icrHigh platform.table cpu)).goto (.startupLow cpu cpus attempt))
      else
        some (state.goto (.failed cpu))
  | .startupLow cpu cpus attempt =>
      some ((state.send platform (startupIcrLow bstart16Addr)).goto
        (.retryHalt cpu cpus attempt 0))
  | .retryHalt cpu cpus attempt timeout =>
      if timeout < apCpuStartupTimeout then
        some (state.goto (.check cpu cpus attempt timeout))
      else
        some (state.goto (.startupHigh cpu cpus (attempt + 1)))
  | .check cpu cpus attempt timeout =>
      if cpus < state.startedCpus then
        some (state.goto (.nextCpu (cpu + 1)))
      else
        some (state.goto (.retryHalt cpu cpus attempt (timeout + apCpuRetryTimeout)))
  | .setTimerIsr => some ((state.setIsr platform intVectorApicTimer platform.timerIsr).goto
      .setTaskIsr)
  | .setTaskIsr => some ((state.setIsr platform intVectorSchedulerTask platform.taskIsr).goto
      .createLock)
  | .createLock => some ((state.createCpuLock platform.places.bspCpu).goto .booted)
  | .booted | .failed _ | .noMemory | .lost => none

/-- One step of another processor; each one knows itself by `get_cpu`. -/
def apStep (processor : Nat) : Option State :=
  let cpu := (platform.table.cpuIndexes (platform.table.descs processor).id).toNat
  match state.ap processor with
  | .entering => some (state.gotoAp processor
      (.calling (platform.apBootStack + configApBootStackSize)))
  | .calling rsp => some ((state.pushReturn rsp platform.behindBoot64Ap).gotoAp processor
      (.initInterrupts rsp))
  | .initInterrupts rsp =>
      match Interrupts.initInterrupts platform.places platform.defaultIsr state.tables cpu with
      | some tables =>
          some (((state.setTables tables).logDebug processor).gotoAp processor (.initApic rsp))
      | none => some (state.gotoAp processor .lost)
  | .initApic rsp => some (state.gotoAp processor (.sti rsp))
  | .sti rsp => some ((state.enable processor).gotoAp processor (.initScheduler rsp))
  | .initScheduler rsp => some ((state.createCpuLock cpu).gotoAp processor (.loadCount rsp))
  | .loadCount rsp => some (state.gotoAp processor (.storeCount rsp state.startedCpus))
  | .storeCount rsp count =>
      some (State.gotoAp { state with startedCpus := count + 1 } processor (.returning rsp))
  | .returning rsp =>
      if state.returnAddress (rsp - 8) = platform.behindBoot64Ap then
        some (state.gotoAp processor .halted)
      else
        some (state.gotoAp processor .lost)
  | .off | .waitForStartup | .halted | .lost => none

/-- What an interrupt does to another processor while it boots: INIT makes it wait for a startup,
which is ignored at other times. -/
def receive (point : ApPoint) (ipi : Ipi) : ApPoint :=
  match ipi.delivery with
  | .init => .waitForStartup
  | .startup =>
      match point with
      | .waitForStartup =>
          if state.trampoline ∧ ipi.vector.toNat * 4096 = bstart16Addr.toNat then .entering
          else .lost
      | point => point
  | .fixed => point

/-- The oldest interrupt for a processor arrives. -/
def deliver (cpu : Nat) : Option State :=
  match state.pending cpu with
  | [] => none
  | ipi :: ipis =>
      some (State.gotoAp { state with pending := Function.update state.pending cpu ipis } cpu
        (receive state (state.ap cpu) ipi))

/-- Who takes a step. -/
inductive Action
  | bsp
  | ap (cpu : Nat)
  | deliver (cpu : Nat)
  /-- A write of a byte outside the tables for interrupts. -/
  | write (address : BitVec 64) (byte : BitVec 8)
  deriving DecidableEq

/-- One step of the machine. -/
def step : Action → Option State
  | .bsp => bspStep platform state
  | .ap cpu => if cpu < platform.places.cpus then apStep platform state cpu else none
  | .deliver cpu => deliver state cpu
  | .write address byte =>
      if Tables.Outside platform.places address then
        some (state.setTables { state.tables with
          memory := state.tables.memory.store address byte })
      else
        none

end Steps

/-- The machine when the boot processor enters `init_interrupts`.  It has printed messages, which
has enabled its interrupts. -/
structure Initial (platform : Platform) (state : State) : Prop where
  bsp : state.bsp = .initInterrupts
  ap : ∀ cpu, state.ap cpu = .off
  pending : ∀ cpu, state.pending cpu = []
  startedCpus : state.startedCpus = 1
  enabled : ∀ cpu, state.enabled cpu = true ↔ cpu = platform.places.bspCpu
  tables : state.tables.Initial platform.places

/-- The machine as a transition system. -/
def system (platform : Platform) : TransitionSystem State Action where
  initial := Initial platform
  step := step platform

/-- What the boot code relies on: the table describes the processors, none of which has the
identifier that stands for all, and the addresses of code are not zero. -/
structure Platform.Proper (platform : Platform) : Prop where
  described : ∃ ids srat bits, Describes platform.table ids srat bits
  num : platform.table.num = platform.places.cpus
  single : ∀ cpu < platform.places.cpus, (platform.table.descs cpu).id ≠ 0xFF
  emptyIsr : platform.emptyIsr ≠ 0
  timerIsr : platform.timerIsr ≠ 0

end Boot
end ToyKernel
