import ToyKernel.Scheduler.Lists

/-!
# The scheduler without pointers

A summary of a state keeps the contents of the lists instead of the links that
hold them.  Each operation of the scheduler is a few assignments on summaries.
-/

namespace ToyKernel
namespace Scheduler

/-- The fields of a CPU that are neither lists nor its task. -/
structure CpuControl where
  totalThreads : Int
  currentPriority : Nat
  loadContext : Bool
  deriving DecidableEq

/-- The control fields of `struct cpu_data`. -/
def CpuData.control (cpud : CpuData) : CpuControl :=
  ⟨cpud.totalThreads, cpud.currentPriority, cpud.loadContext⟩

namespace CpuControl

/-- One thread more; the first thread of an idle CPU has to be loaded. -/
def enroll (control : CpuControl) (priority : Nat) : CpuControl :=
  if control.totalThreads = 0 then
    ⟨control.totalThreads + 1, priority, true⟩
  else
    { control with totalThreads := control.totalThreads + 1 }

/-- One thread less; if it was the current one, another has to be loaded. -/
def dismiss (control : CpuControl) (current : Bool) (highest : Nat) : CpuControl :=
  if current ∧ control.totalThreads - 1 ≠ 0 then
    ⟨control.totalThreads - 1, highest, true⟩
  else
    { control with totalThreads := control.totalThreads - 1 }

end CpuControl

namespace Machine

/-- The registers saved for a thread that is taken off the CPU.  A thread that
halts itself does so with interrupts disabled. -/
def interrupted (machine : Machine) (selfHalt : Bool) : IntStackFrame :=
  if selfHalt then
    { machine.frame with rflags := machine.frame.rflags ||| rflagsIf }
  else
    machine.frame

/-- The CPU is sent to the halt loop. -/
def halt (machine : Machine) (platform : Platform) (selfHalt : Bool) : Machine :=
  { machine with
    frame := { machine.interrupted selfHalt with rip := platform.halt }
    fsBase := none
    executing := none }

/-- The CPU is sent to a thread. -/
def run (machine : Machine) (thread : Address) (context : IntStackFrame) : Machine :=
  { machine with frame := context, fsBase := some thread, executing := some thread }

end Machine

/-- A state without pointers. -/
structure Summary where
  view : View
  threads : Address → ThreadData
  cpus : Nat → CpuControl
  machines : Nat → Machine

namespace Summary

section Setters

variable (summary : Summary) (thread other : Address) (cpu otherCpu : Nat)

/-- Replace the lists. -/
def setView (view : View) : Summary := { summary with view := view }

/-- Replace a thread. -/
def setThread (data : ThreadData) : Summary :=
  { summary with threads := Function.update summary.threads thread data }

/-- Replace the control fields of a CPU. -/
def setCpu (control : CpuControl) : Summary :=
  { summary with cpus := Function.update summary.cpus cpu control }

/-- Replace the registers of a CPU. -/
def setMachine (machine : Machine) : Summary :=
  { summary with machines := Function.update summary.machines cpu machine }

variable (view : View) (data : ThreadData) (control : CpuControl) (machine : Machine)

@[simp] theorem setView_view : (summary.setView view).view = view := rfl
@[simp] theorem setView_threads : (summary.setView view).threads = summary.threads := rfl
@[simp] theorem setView_cpus : (summary.setView view).cpus = summary.cpus := rfl
@[simp] theorem setView_machines : (summary.setView view).machines = summary.machines := rfl

@[simp] theorem setThread_view : (summary.setThread thread data).view = summary.view := rfl
@[simp] theorem setThread_threads :
    (summary.setThread thread data).threads other =
      if other = thread then data else summary.threads other :=
  Function.update_apply ..
@[simp] theorem setThread_cpus : (summary.setThread thread data).cpus = summary.cpus := rfl
@[simp] theorem setThread_machines :
    (summary.setThread thread data).machines = summary.machines := rfl

@[simp] theorem setCpu_view : (summary.setCpu cpu control).view = summary.view := rfl
@[simp] theorem setCpu_threads : (summary.setCpu cpu control).threads = summary.threads := rfl
@[simp] theorem setCpu_cpus :
    (summary.setCpu cpu control).cpus otherCpu =
      if otherCpu = cpu then control else summary.cpus otherCpu :=
  Function.update_apply ..
@[simp] theorem setCpu_machines :
    (summary.setCpu cpu control).machines = summary.machines := rfl

@[simp] theorem setMachine_view : (summary.setMachine cpu machine).view = summary.view := rfl
@[simp] theorem setMachine_threads :
    (summary.setMachine cpu machine).threads = summary.threads := rfl
@[simp] theorem setMachine_cpus : (summary.setMachine cpu machine).cpus = summary.cpus := rfl
@[simp] theorem setMachine_machines :
    (summary.setMachine cpu machine).machines otherCpu =
      if otherCpu = cpu then machine else summary.machines otherCpu :=
  Function.update_apply ..

@[simp] theorem setThread_setThread (first : ThreadData) :
    (summary.setThread thread first).setThread thread data = summary.setThread thread data := by
  simp [setThread]

@[simp] theorem setCpu_setCpu (first : CpuControl) :
    (summary.setCpu cpu first).setCpu cpu control = summary.setCpu cpu control := by
  simp [setCpu]

@[simp] theorem setMachine_setMachine (first : Machine) :
    (summary.setMachine cpu first).setMachine cpu machine = summary.setMachine cpu machine := by
  simp [setMachine]

/-! Replacements are brought into the order of the fields. -/

@[simp] theorem setView_setView (first : View) :
    (summary.setView first).setView view = summary.setView view := rfl

@[simp] theorem setThread_setView :
    (summary.setThread thread data).setView view =
      (summary.setView view).setThread thread data := rfl

@[simp] theorem setCpu_setView :
    (summary.setCpu cpu control).setView view =
      (summary.setView view).setCpu cpu control := rfl

@[simp] theorem setMachine_setView :
    (summary.setMachine cpu machine).setView view =
      (summary.setView view).setMachine cpu machine := rfl

@[simp] theorem setCpu_setThread :
    (summary.setCpu cpu control).setThread thread data =
      (summary.setThread thread data).setCpu cpu control := rfl

@[simp] theorem setMachine_setThread :
    (summary.setMachine cpu machine).setThread thread data =
      (summary.setThread thread data).setMachine cpu machine := rfl

@[simp] theorem setMachine_setCpu :
    (summary.setMachine otherCpu machine).setCpu cpu control =
      (summary.setCpu cpu control).setMachine otherCpu machine := rfl

end Setters

variable (summary : Summary)

/-- The first active thread of the current priority of a CPU. -/
def first (cpu : Nat) : Option Address :=
  (summary.view.queue cpu (summary.cpus cpu).currentPriority).active.head?

/-- `attach_thread`. -/
def attach (thread : Address) (stamp : Nat) : Summary :=
  (summary.setView ((summary.view.enterAll thread).enterInactive thread)).setThread thread
    { summary.threads thread with
      magic := threadMagic, state := .paused, runTime := 0, stamp := stamp }

/-- `detach_thread`. -/
def detach (thread : Address) : Summary :=
  (summary.setView ((summary.view.leaveInactive thread).leaveAll thread)).setThread thread
    { summary.threads thread with magic := 0 }

/-- A paused thread leaves the `inactive` list. -/
def unpark (thread : Address) : Summary :=
  (summary.setView (summary.view.leaveInactive thread)).setThread thread
    { summary.threads thread with
      realPriority := (summary.threads thread).priority, quantum := 10 }

/-- `do_resume_task`. -/
def enroll (thread : Address) (cpu : Nat) : Summary :=
  let priority := (summary.threads thread).realPriority
  ((summary.setView (summary.view.enqueue cpu priority thread)).setThread thread
    { summary.threads thread with state := .running, cpu := cpu }).setCpu cpu
      ((summary.cpus cpu).enroll priority)

/-- `resume_thread` with the CPU that it finds. -/
def resume (thread : Address) (cpu : Nat) : Summary :=
  (summary.unpark thread).enroll thread cpu

/-- A running thread leaves its run queue. -/
def dismiss (thread : Address) (highest : Nat) : Summary :=
  let data := summary.threads thread
  (summary.setView (summary.view.dequeue data.cpu data.realPriority thread)).setCpu data.cpu
    ((summary.cpus data.cpu).dismiss (summary.first data.cpu = some thread) highest)

/-- A thread enters the `inactive` list. -/
def park (thread : Address) (stop : Bool) (output : BitVec 64) : Summary :=
  (summary.setView (summary.view.enterInactive thread)).setThread thread
    { summary.threads thread with
      state := if stop then .stopped else .paused
      output := if stop then output else (summary.threads thread).output }

/-- The registers of a CPU are saved for a thread and the CPU is sent to the halt
loop. -/
def save (platform : Platform) (cpu : Nat) (thread : Address) (selfHalt : Bool) : Summary :=
  (summary.setThread thread
    { summary.threads thread with
      context := (summary.machines cpu).interrupted selfHalt }).setMachine cpu
        ((summary.machines cpu).halt platform selfHalt)

/-- `do_pause_task` for a thread that runs on the CPU. -/
def pauseTask (platform : Platform) (thread : Address) (stackFrame : Bool) (highest : Nat) :
    Summary :=
  let cpu := (summary.threads thread).cpu
  let dismissed := summary.dismiss thread highest
  if summary.first cpu = some thread then
    if stackFrame then
      dismissed.save platform cpu thread false
    else
      dismissed.setMachine cpu { summary.machines cpu with fsBase := none }
  else
    dismissed

/-- Pause or stop a running thread; `selfHalt` if its own CPU does. -/
def deactivate (platform : Platform) (thread : Address) (selfHalt stop : Bool)
    (output : BitVec 64) (highest : Nat) : Summary :=
  let cpu := (summary.threads thread).cpu
  let parked := (summary.dismiss thread highest).park thread stop output
  if summary.first cpu = some thread then parked.save platform cpu thread selfHalt else parked

/-- Stop a paused thread. -/
def stop (thread : Address) (output : BitVec 64) : Summary :=
  summary.setThread thread
    { summary.threads thread with state := .stopped, output := output }

/-- The timer interrupt of a CPU that has to load a context. -/
def load (cpu : Nat) (thread : Address) : Summary :=
  (summary.setCpu cpu { summary.cpus cpu with loadContext := false }).setMachine cpu
    ((summary.machines cpu).run thread (summary.threads thread).context)

/-- The timer interrupt in which the current thread keeps the CPU. -/
def tick (thread : Address) : Summary :=
  summary.setThread thread
    { summary.threads thread with
      runTime := (summary.threads thread).runTime + 1
      quantum := (summary.threads thread).quantum - 1 }

/-- The current thread goes to the end of its queue and the highest priority
becomes the current one. -/
def rotate (cpu : Nat) (thread : Address) (highest : Nat) : Summary :=
  ((summary.setView (summary.view.rotate cpu (summary.cpus cpu).currentPriority)).setThread
    thread
      { summary.threads thread with
        runTime := (summary.threads thread).runTime + 1
        context := (summary.machines cpu).frame
        realPriority := (summary.threads thread).priority
        quantum := 10 }).setCpu cpu { summary.cpus cpu with currentPriority := highest }

/-- The timer interrupt in which the current thread has used up its quantum. -/
def switch (cpu : Nat) (thread thread2 : Address) (highest : Nat) : Summary :=
  let rotated := summary.rotate cpu thread highest
  if thread2 = thread then
    rotated
  else
    rotated.setMachine cpu ((summary.machines cpu).run thread2 (rotated.threads thread2).context)

@[simp] theorem switch_view (cpu : Nat) (thread thread2 : Address) (highest : Nat) :
    (summary.switch cpu thread thread2 highest).view =
      summary.view.rotate cpu (summary.cpus cpu).currentPriority := by
  simp only [switch]
  split <;> rfl

@[simp] theorem switch_threads (cpu : Nat) (thread thread2 : Address) (highest : Nat) :
    (summary.switch cpu thread thread2 highest).threads =
      (summary.rotate cpu thread highest).threads := by
  simp only [switch]
  split <;> rfl

@[simp] theorem switch_cpus (cpu : Nat) (thread thread2 : Address) (highest : Nat) :
    (summary.switch cpu thread thread2 highest).cpus =
      (summary.rotate cpu thread highest).cpus := by
  simp only [switch]
  split <;> rfl

/-- The timer interrupt that finds the stack of the current thread overrun. -/
def panic (cpu : Nat) : Summary :=
  summary.setMachine cpu { summary.machines cpu with panicked := true }

/-- The four ways in which a timer interrupt ends on a busy CPU. -/
inductive Scheduled (summary : Summary) (cpu : Nat) (thread : Address) : Summary → Prop
  | load :
      (summary.cpus cpu).loadContext = true →
      Scheduled summary cpu thread (summary.load cpu thread)
  | panic :
      (summary.cpus cpu).loadContext = false →
      Scheduled summary cpu thread (summary.panic cpu)
  | tick :
      (summary.cpus cpu).loadContext = false →
      Scheduled summary cpu thread (summary.tick thread)
  | switch (thread2 : Address) (highest : Nat) :
      (summary.cpus cpu).loadContext = false →
      summary.view.Highest cpu highest →
      (summary.rotate cpu thread highest).first cpu = some thread2 →
      Scheduled summary cpu thread (summary.switch cpu thread thread2 highest)

end Summary

end Scheduler
end ToyKernel
