import ToyKernel.Interrupts.Switches

/-!
# How a thread begins and ends

A thread that was given a context starts in its procedure, on a stack that holds nothing but the
address of `__exit_thread`, and when the procedure returns, its result goes to `stop_thread`.
-/

namespace ToyKernel
namespace Interrupts

open Amd64 ByteMemory

/-- What the build fixes for `__exit_thread`: the functions that it calls and the addresses behind
the calls. -/
structure ExitThread where
  getThread : BitVec 64
  behindGetThread : BitVec 64
  stopThread : BitVec 64
  behindStopThread : BitVec 64

/-- `__exit_thread` up to the call of `__get_thread_`. -/
def exitThreadEntry (build : ExitThread) : List Instruction :=
  [.push .rax, .call build.getThread build.behindGetThread]

/-- The rest of `__exit_thread`. -/
def exitThreadRest (build : ExitThread) : List Instruction :=
  [.mov .rax .rdi, .pop .rsi, .call build.stopThread build.behindStopThread]

/-- The procedure of a thread is about to return to `__exit_thread`. -/
structure Finished (exitThread top : BitVec 64) (machine : Machine) : Prop where
  top : machine.top = top
  word : machine.topWord = exitThread

/-- `stop_thread` is called for a thread. -/
structure Stops (build : ExitThread) (thread output : BitVec 64) (machine : Machine) : Prop where
  rip : machine.context.rip = build.stopThread
  thread : machine.context.general .rdi = thread
  output : machine.context.general .rsi = output

section

variable {status : Status} {build : ExitThread} {exitThread top : BitVec 64}
  {finished back : Machine}

/-- The procedure returns, and `__get_thread_` is called. -/
theorem run_exitThreadEntry (status : Status) (build : ExitThread) (finished : Machine) :
    ∃ called, run status (.ret :: exitThreadEntry build) finished = some called ∧
      called.context.rip = build.getThread ∧ called.top = finished.top - 8 ∧
      called.topWord = build.behindGetThread ∧
      load 64 called.memory finished.top = finished.context.general .rax := by
  obtain ⟨pushed, isPushed⟩ : ∃ pushed, pushed =
    finished.returnNear.pushWord (finished.context.general .rax) := ⟨_, rfl⟩
  have top : pushed.top = finished.top := by
    rw [isPushed, Machine.pushWord_top]
    exact add_sub_cancel_right finished.top 8
  have saved : load 64 pushed.memory finished.top = finished.context.general .rax := by
    rw [← top, isPushed, Machine.pushWord_memory, Machine.pushWord_top]
    exact load_store rfl (by decide) ..
  refine ⟨(pushed.pushWord build.behindGetThread).jump build.getThread, ?_, rfl, ?_, ?_, ?_⟩
  · rw [isPushed]
    rfl
  · rw [Machine.jump_top, Machine.pushWord_top, top]
  · exact load_store rfl (by decide) ..
  · have apart : Apart (pushed.top - 8) (64 / 8) finished.top (64 / 8) := by
      rw [top]
      unfold Apart
      constructor <;> bv_omega
    rw [Machine.jump_memory, Machine.pushWord_memory, load_store_of_apart rfl _ apart, saved]

/-- `__get_thread_` has returned on a processor: it leaves the saved result where it is, and what
it returns is what `get_thread` returns. -/
structure GotThread (state : Scheduler.State) (cpu : Nat) (called back : Machine) : Prop where
  returned : Returned called back
  saved : load 64 back.memory back.top = load 64 called.memory back.top
  id : back.context.general .rax = Scheduler.getThread state cpu

/-- The FS base of a processor tells `get_thread` which thread it runs. -/
theorem getThread_of_fsBase {state : Scheduler.State} {cpu : Nat} {thread : Address}
    (current : (state.machines cpu).fsBase = some thread) :
    Scheduler.getThread state cpu = getStampId thread (state.threads thread).stamp := by
  rw [Scheduler.getThread, current]

/-- What is on the stack goes to `stop_thread`. -/
theorem run_exitThreadRest (status : Status) (build : ExitThread) (back : Machine) :
    ∃ final, run status (exitThreadRest build) back = some final ∧
      Stops build (back.context.general .rax) (load 64 back.memory back.top) final :=
  ⟨_, rfl, rfl, rfl, rfl⟩

/-- When the procedure of a thread returns, `stop_thread` is called with what `get_thread`
returns and with the result of the procedure. -/
theorem finished_stops (finishes : Finished exitThread top finished) :
    finished.returnNear.context.rip = exitThread ∧
      ∃ called, run status (.ret :: exitThreadEntry build) finished = some called ∧
        called.context.rip = build.getThread ∧
        ∀ (state : Scheduler.State) (cpu : Nat) (back : Machine),
          GotThread state cpu called back → back.context.rip = build.behindGetThread ∧
            ∃ final, run status (exitThreadRest build) back = some final ∧
              Stops build (Scheduler.getThread state cpu) (finished.context.general .rax)
                final := by
  obtain ⟨called, taken, rip, calledTop, behind, saved⟩ :=
    run_exitThreadEntry status build finished
  refine ⟨finishes.word, called, taken, rip, fun state cpu back got => ⟨?_, ?_⟩⟩
  · rw [got.returned.rip, behind]
  · obtain ⟨final, rest, stops⟩ := run_exitThreadRest status build back
    have backTop : back.top = finished.top := by
      rw [got.returned.top, calledTop]
      exact sub_add_cancel finished.top 8
    rw [got.saved, backTop, saved, got.id] at stops
    exact ⟨final, rest, stops⟩

end

section

variable {status : Status} {platform : Scheduler.Platform} {layout : Layout}
  {hardware final : Hardware} {cpu : Nat} {thread : Address}

/-- A thread whose context is set, and which a processor then takes up, starts in its procedure
with its input, on the last word of its stack, with interrupts enabled.  If the procedure returns
with the stack and this word as it found them, on a processor whose FS base holds the thread, then
`stop_thread` is called with the identifier of the thread and the result of the procedure. -/
theorem thread_startsAndStops (build : ExitThread) {proc input : BitVec 64}
    (stack stackSize : BitVec 64)
    (away after : List Action) (consistent : Consistent layout hardware)
    (isStack : threadStack hardware.memory thread = stack)
    (isSize : threadStackSize hardware.memory thread = stackSize)
    (accepted : stack ≠ 0 ∧ Scheduler.threadStackSizeMin ≤ stackSize)
    (executed : (system status platform layout).exec hardware
      (.setContext thread proc input :: (away ++ .storeContext cpu thread :: after ++
        [.leave cpu])) = some final)
    (notSaved : ∀ action ∈ away, action.changesContext thread = false)
    (notReplaced : ∀ action ∈ after, action.changesFrame cpu = false) :
    ∃ prepared, Hardware.step status platform layout hardware (.setContext thread proc input) =
        some prepared ∧
      final.contexts cpu = startContext platform (hardware.saved thread) (stack + stackSize - 8)
        proc input ∧
      ∀ finished : Machine, finished.top = (final.contexts cpu).general .rsp →
        finished.topWord = load 64 prepared.memory ((final.contexts cpu).general .rsp) →
        finished.returnNear.context.rip = platform.exitThread ∧
          ∃ called, run status (.ret :: exitThreadEntry build) finished = some called ∧
            called.context.rip = build.getThread ∧
            ∀ (state : Scheduler.State) (onCpu : Nat) (back : Machine),
              (state.machines onCpu).fsBase = some thread → GotThread state onCpu called back →
              back.context.rip = build.behindGetThread ∧
                ∃ last, run status (exitThreadRest build) back = some last ∧
                  Stops build (getStampId thread (state.threads thread).stamp)
                    (finished.context.general .rax) last := by
  obtain ⟨prepared, taken, executed⟩ := first_step executed
  obtain ⟨saved, word⟩ := setContext_saved stack stackSize isStack isSize accepted taken
  have starts := context_takenUp away after (consistent.step taken) executed notSaved notReplaced
  have isTop : (final.contexts cpu).general .rsp = stack + stackSize - 8 := by
    rw [starts, saved]
    rfl
  refine ⟨prepared, taken, starts.trans saved, fun finished top topWord => ?_⟩
  rw [isTop, word] at topWord
  have finishes : Finished platform.exitThread (stack + stackSize - 8) finished :=
    ⟨top.trans isTop, topWord⟩
  obtain ⟨word, called, entered, rip, stops⟩ : _ ∧ ∃ called,
    run status (.ret :: exitThreadEntry build) finished = some called ∧ _ :=
    finished_stops finishes
  refine ⟨word, called, entered, rip, fun state onCpu back current got => ?_⟩
  rw [← getThread_of_fsBase current]
  exact stops state onCpu back got

end

/-! ## A first thread -/

/-- A thread with a stack of a page. -/
def withStack : Hardware :=
  { running with
    memory := ((running.memory.store (0x300000 + BitVec.ofNat 64 stackOffset)
      (0x500000 : BitVec 64)).store (0x300000 + BitVec.ofNat 64 stackSizeOffset)
      (0x1000 : BitVec 64)) }

def exitBuild : ExitThread where
  getThread := 0x105000
  behindGetThread := 0x104006
  stopThread := 0x106000
  behindStopThread := 0x10400F

/-- The procedure of the thread on the second processor is about to return a result. -/
def returning (hardware : Hardware) (result : BitVec 64) : Machine where
  context :=
    { hardware.contexts 1 with
      general := Function.update (hardware.contexts 1).general .rax result }
  memory := hardware.memory

/-- `__get_thread_` returns. -/
def gotThread (called : Machine) (id : BitVec 64) : Machine :=
  called.returnNear.set .rax id

/-- The FS base of the second processor holds the thread, whose stamp is 5. -/
def onSecond : Scheduler.State :=
  Scheduler.setThreadRegister
    ((default : Scheduler.State).setThread 0x300000 ({ · with stamp := 5 })) 1 (some 0x300000)

theorem gotThread_onSecond (called : Machine) :
    GotThread onSecond 1 called (gotThread called (getStampId 0x300000 5)) where
  returned := ⟨rfl, rfl⟩
  saved := rfl
  id := rfl

/-- The second processor takes the thread up, and its procedure returns 7. -/
theorem thread_startsAndStops_onSecond : ∃ final, (system keepFlags somePlatform twoStacks).exec
      withStack (.setContext 0x300000 0x600000 42 :: takingUp) = some final ∧
    (final.contexts 1).rip = 0x600000 ∧ (final.contexts 1).general .rdi = 42 ∧
    (final.contexts 1).general .rsp = 0x500FF8 ∧
    ∃ called last, run keepFlags (.ret :: exitThreadEntry exitBuild) (returning final 7) =
        some called ∧
      run keepFlags (exitThreadRest exitBuild) (gotThread called (getStampId 0x300000 5)) =
        some last ∧
      Stops exitBuild (getStampId 0x300000 5) 7 last := by
  obtain ⟨final, executed, finalWord⟩ := (Option.any_eq_true _ _).mp
    (show ((system keepFlags somePlatform twoStacks).exec withStack
      (.setContext 0x300000 0x600000 42 :: takingUp)).any (fun final =>
        load 64 final.memory 0x500FF8 = somePlatform.exitThread) = true by decide +kernel)
  obtain ⟨prepared, taken, starts, stops⟩ := thread_startsAndStops exitBuild 0x500000 0x1000
    [.interrupt 1 someIsr none] [.execute 1 (returned 0x202000)]
    (consistent_of_initial fun _ => rfl) (by decide +kernel) (by decide +kernel)
    (by decide +kernel) executed (by decide) (by decide)
  have preparedWord : load 64 prepared.memory 0x500FF8 = somePlatform.exitThread := by
    have holds : (Hardware.step keepFlags somePlatform twoStacks withStack
        (.setContext 0x300000 0x600000 42)).all (fun prepared =>
          load 64 prepared.memory 0x500FF8 = somePlatform.exitThread) = true := by decide +kernel
    rw [taken] at holds
    exact of_decide_eq_true holds
  have isTop : (final.contexts 1).general .rsp = 0x500FF8 := by
    rw [starts]
    rfl
  have top : (returning final 7).top = (final.contexts 1).general .rsp := rfl
  have topWord : (returning final 7).topWord =
      load 64 prepared.memory ((final.contexts 1).general .rsp) := by
    rw [Machine.topWord, top, isTop, preparedWord]
    exact of_decide_eq_true finalWord
  obtain ⟨-, called, entered, -, stops⟩ := stops (returning final 7) top topWord
  obtain ⟨-, last, left, stops⟩ := stops onSecond 1 _ rfl (gotThread_onSecond called)
  refine ⟨final, executed, ?_, ?_, isTop, called, last, entered, left, stops⟩
  · rw [starts]
    rfl
  · rw [starts]
    rfl

end Interrupts
end ToyKernel
