import ToyKernel.Scheduler.Conservation
import ToyKernel.Waiting.Steps

/-!
# Wake-ups and the waits they end

In every run in which nobody resumes a thread that waits in a queue, a wake-up finds the
thread in the call that has enqueued the node.  A call of `resume_thread` for a waiting
thread ends its wait early and leaves the node behind.
-/

namespace ToyKernel
namespace Waiting

open Scheduler (Platform World)

section Runs

variable {platform : Platform} {state next : State} {queues : Address → List Block}
  {lists : Nat → List Address} {action : Action}

theorem Fits.returnFromCall {cpu : Nat} (fits : Fits platform state queues lists)
    (done : returnFromCall state cpu = some next) : Fits platform next queues lists := by
  have tracks := fits.tracks.returnFromCall done
  obtain ⟨thread, -, done⟩ := Option.bind_eq_some_iff.mp done
  obtain ⟨call, -, done⟩ := Option.bind_eq_some_iff.mp done
  obtain rfl := Option.some.inj done
  exact ⟨tracks, fits.queues, fits.lists⟩

/-- The steps of the scheduler other than the timer interrupt. -/
theorem Fits.other {action : Scheduler.Action} (fits : Fits platform state queues lists)
    (promised : Promised state (.other action)) (spares : SparesWaiters state (.other action))
    (taken : step platform state (.other action) = some next) :
    Fits platform next queues lists := by
  obtain ⟨sleepers, acted, rfl⟩ := Option.map_eq_some_iff.mp taken
  refine fits.act acted ?_
  rintro id (⟨cpu, rfl⟩ | ⟨cpu, rfl⟩)
  · exact promised
  · exact spares

/-- One step keeps the queues and what the histories say about them. -/
theorem Fits.step (fits : Fits platform state queues lists) (promised : Promised state action)
    (spares : SparesWaiters state action) (taken : step platform state action = some next) :
    ∃ queuesAfter listsAfter, Fits platform next queuesAfter listsAfter := by
  cases action with
  | tryMutex cpu mutex => exact ⟨queues, lists, fits.tryMutex taken⟩
  | sleepInMutex cpu mutex block =>
      obtain ⟨queuesAfter, after⟩ := fits.sleepInMutex promised taken
      exact ⟨queuesAfter, lists, after⟩
  | release cpu mutex =>
      obtain ⟨queuesAfter, after⟩ := fits.releaseMutex taken
      exact ⟨queuesAfter, lists, after⟩
  | sleep cpu period block rounds => exact ⟨queues, fits.sleep promised taken⟩
  | returns cpu => exact ⟨queues, lists, fits.returnFromCall taken⟩
  | timer cpu => exact ⟨queues, fits.timerInterrupt taken⟩
  | other action => exact ⟨queues, lists, fits.other promised spares taken⟩

/-- The queues of every state that a run reaches in which nobody resumes a waiting thread. -/
theorem fits_of_reachable (reached : (system platform).ReachableUnder
    (fun state action => Promised state action ∧ SparesWaiters state action) state) :
    ∃ queues lists, Fits platform state queues lists := by
  have starts : ∀ state, (system platform).initial state →
      ∃ queues lists, Fits platform state queues lists :=
    fun state starts => ⟨_, _, Fits.initial starts⟩
  refine reached.invariant starts ?_
  rintro current action next ⟨queues, lists, fits⟩ ⟨promised, spares⟩ taken
  exact fits.step promised spares taken

end Runs

/-- A thread that may run on CPU 0 only. -/
def firstThread : Scheduler.ThreadData := { Scheduler.bootThread with affinity := [1] }

/-- One thread takes a mutex on CPU 0 and another one waits for it on CPU 1. -/
def contended : List Action :=
  [.other (.prepare 0x20000 firstThread), .other (.attach 0 0x10000),
    .other (.attach 0 0x20000), .other (.resume 0 0x10000),
    .other (.resume 0 0x10000000020000), .timer 0, .timer 1, .tryMutex 0 0x9000,
    .sleepInMutex 1 0x9000 (some 1)]

end Waiting
end ToyKernel
