import ToyKernel.Boot.Defs
import ToyKernel.Interrupts.TableRuns

/-!
# The invariant of booting

The boot processor starts the others one after another.  What each of them may be doing follows
from the point that the boot processor has reached: it has not been touched, it is reset, it is
started, or it has reported.
-/

namespace ToyKernel
namespace Boot

open ApicTimer CpuInfo Interrupts

/-! ## The other processors -/

namespace ApPoint

/-- The processor has increased the counter. -/
def counted : ApPoint → Bool
  | .returning _ | .halted => true
  | _ => false

/-- The processor works on the stack for booting and has not increased the counter yet. -/
def onBootStack : ApPoint → Bool
  | .calling _ | .initInterrupts _ | .initApic _ | .sti _ | .initScheduler _ | .loadCount _
  | .storeCount _ _ => true
  | _ => false

/-- Its stack pointer, as far as it has one. -/
def rsp : ApPoint → Option (BitVec 64)
  | .calling rsp | .initInterrupts rsp | .initApic rsp | .sti rsp | .initScheduler rsp
  | .loadCount rsp | .storeCount rsp _ | .returning rsp => some rsp
  | _ => none

/-- It has called `boot64_ap` and will return from it. -/
def returns : ApPoint → Bool
  | .initInterrupts _ | .initApic _ | .sti _ | .initScheduler _ | .loadCount _
  | .storeCount _ _ | .returning _ => true
  | _ => false

/-- It has loaded the tables for interrupts, and enabled interrupts. -/
def loaded : ApPoint → Bool
  | .initApic _ | .sti _ | .initScheduler _ | .loadCount _ | .storeCount _ _ | .returning _
  | .halted => true
  | _ => false

/-- Its lock has been created. -/
def locks : ApPoint → Bool
  | .loadCount _ | .storeCount _ _ | .returning _ | .halted => true
  | _ => false

end ApPoint

/-! ## The boot processor -/

/-- How far the boot processor is with the processor that it starts. -/
inductive Phase
  | idle
  | resetting
  | starting
  deriving DecidableEq

namespace BspPoint

/-- How far it is with the processor that it starts. -/
def phase : BspPoint → Phase
  | .initHalt _ | .readCount _ => .resetting
  | .startupHigh _ _ attempt | .startupLow _ _ attempt =>
      if attempt = 0 then .resetting else .starting
  | .retryHalt _ _ _ _ | .check _ _ _ _ | .failed _ => .starting
  | _ => .idle

/-- The processor that it starts; those below have been started. -/
def current (cpus : Nat) : BspPoint → Nat
  | .nextCpu cpu | .initHigh cpu | .initLow cpu | .initHalt cpu | .readCount cpu
  | .startupHigh cpu _ _ | .startupLow cpu _ _ | .retryHalt cpu _ _ _ | .check cpu _ _ _
  | .failed cpu => cpu
  | .setTimerIsr | .setTaskIsr | .createLock | .booted => cpus
  | _ => 0

/-- It has loaded the tables and set the handlers for the local APIC. -/
def ready : BspPoint → Bool
  | .initInterrupts | .setSpuriousIsr | .setEmptyTimerIsr => false
  | _ => true

/-- The interrupts of the local APIC for which it has set handlers. -/
def handles : BspPoint → List Nat
  | .initInterrupts | .setSpuriousIsr => []
  | .setEmptyTimerIsr => [intVectorApicSpurious]
  | _ => [intVectorApicSpurious, intVectorApicTimer]

theorem handles_lt (point : BspPoint) : ∀ vector ∈ point.handles, vector < intVectors := by
  cases point <;>
    simp [handles, intVectorApicSpurious, intVectorApicTimer, intVectors]

end BspPoint

/-! ## Stages -/

/-- What another processor may be doing. -/
inductive Stage
  | untouched
  | reset
  | started
  | reported
  deriving DecidableEq

def Phase.stage : Phase → Stage
  | .idle => .untouched
  | .resetting => .reset
  | .starting => .started

/-- The stage of a processor, by the point of the boot processor. -/
def stageOf (places : Places) (point : BspPoint) (cpu : Nat) : Stage :=
  if cpu = places.bspCpu then .untouched
  else if cpu < point.current places.cpus then .reported
  else if cpu = point.current places.cpus then point.phase.stage
  else .untouched

/-- Interrupts that start a processor at the trampoline. -/
def Startups (ipis : List Ipi) : Prop :=
  ∀ ipi ∈ ipis, ipi.delivery = .startup ∧ ipi.vector = 1

/-- Where a processor is in a stage, and which interrupts are on their way to it. -/
def InStage (point : ApPoint) (pending : List Ipi) : Stage → Prop
  | .untouched => point = .off ∧ pending = []
  | .reset =>
      (point = .off ∧ ∃ ipi : Ipi, ipi.delivery = .init ∧ pending = [ipi]) ∨
        (point = .waitForStartup ∧ pending = [])
  | .started =>
      (point = .off ∧ ∃ ipi : Ipi, ∃ ipis, ipi.delivery = .init ∧ pending = ipi :: ipis ∧
        Startups ipis) ∨
      (point ≠ .off ∧ point ≠ .lost ∧ Startups pending)
  | .reported => point.counted = true ∧ Startups pending

/-! ## The invariant -/

/-- The counter when the processors below one have reported. -/
def countBelow (bspCpu cpu : Nat) : Nat :=
  if cpu ≤ bspCpu then cpu + 1 else cpu

/-- The top of the stack for booting. -/
def Platform.bootTop (platform : Platform) : BitVec 64 :=
  platform.apBootStack + configApBootStackSize

/-- The boot processor starts this processor. -/
structure Starts (platform : Platform) (state : State) (cpu : Nat) : Prop where
  inside : cpu < platform.places.cpus
  other : cpu ≠ platform.places.bspCpu
  trampoline : state.trampoline = true

/-- What the boot processor relies on at a point. -/
def Fits (platform : Platform) (state : State) : BspPoint → Prop
  | .nextCpu cpu => cpu ≤ platform.places.cpus ∧ state.trampoline = true
  | .initHigh cpu | .initHalt cpu | .readCount cpu | .failed cpu => Starts platform state cpu
  | .initLow cpu => Starts platform state cpu ∧ state.icrHigh = icrHigh platform.table cpu
  | .startupHigh cpu cpus _ | .retryHalt cpu cpus _ _ | .check cpu cpus _ _ =>
      Starts platform state cpu ∧ cpus = countBelow platform.places.bspCpu cpu
  | .startupLow cpu cpus _ =>
      Starts platform state cpu ∧ cpus = countBelow platform.places.bspCpu cpu ∧
        state.icrHigh = icrHigh platform.table cpu
  | .lost => False
  | _ => True

/-- What holds of a processor by its own point. -/
structure Local (platform : Platform) (state : State) (cpu : Nat) : Prop where
  registers : (state.tables.registers cpu).isSome = (state.ap cpu).loaded
  rsp : ∀ rsp ∈ (state.ap cpu).rsp, rsp = platform.bootTop
  returns : (state.ap cpu).returns = true →
    state.returnAddress (platform.bootTop - 8) = platform.behindBoot64Ap
  enabled : state.enabled cpu = (state.ap cpu).loaded
  locks : (state.ap cpu).locks = true → state.cpuLock cpu = true
  count : ∀ rsp count, state.ap cpu = .storeCount rsp count → count = state.startedCpus

/-- What holds of the tables for interrupts. -/
structure TablesAt (platform : Platform) (point : BspPoint) (state : State) : Prop where
  reachable : (tableSystem platform.places platform.defaultIsr).Reachable state.tables
  loaded : (state.tables.registers platform.places.bspCpu).isSome ↔ point ≠ .initInterrupts
  enabled : state.enabled platform.places.bspCpu = true
  handles : ∀ vector ∈ point.handles, getIsr platform.places state.tables.memory vector ≠ 0

/-- What holds when the boot processor is at a point. -/
structure SoundAt (platform : Platform) (state : State) (point : BspPoint) : Prop where
  stages : ∀ cpu, InStage (state.ap cpu) (state.pending cpu)
    (stageOf platform.places point cpu)
  fits : Fits platform state point
  count : state.startedCpus =
    countBelow platform.places.bspCpu (point.current platform.places.cpus) +
      if (state.ap (point.current platform.places.cpus)).counted then 1 else 0
  locals : ∀ cpu ≠ platform.places.bspCpu, Local platform state cpu
  tables : TablesAt platform point state

/-- What holds in every state. -/
def Sound (platform : Platform) (state : State) : Prop :=
  SoundAt platform state state.bsp

end Boot
end ToyKernel
