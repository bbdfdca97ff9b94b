import ToyKernel.Masking.Ownership

/-!
# The invariant of the masking discipline

At each position of `acquire_spinlock` and `release_spinlock` the interrupt flag and the
entry of the CPU are determined by what the thread holds.  Steps that spare the records
keep it so.
-/

namespace ToyKernel
namespace Masking

namespace Frame

/-- What the interrupt flag and the entry of its CPU are while a thread runs. -/
def Fits (frame : Frame) (cpu : Nat) (enabled : Bool) (entry : OuterSpinlock) : Prop :=
  match frame.position with
  | .idle => (enabled = true ↔ frame.held = []) ∧ entry = outermost frame.held
  | .recording lock _ outer =>
      outer = cpu ∧ (enabled = true ↔ frame.held = []) ∧ entry = outermost frame.held ∧
        outermost frame.held ≠ .lock lock
  | .masking lock _ outer =>
      outer = cpu ∧ enabled = true ∧ frame.held = [] ∧ entry = .lock lock
  | .trying lock _ outer =>
      outer = cpu ∧ enabled = false ∧ entry = outermost (lock :: frame.held) ∧
        outermost frame.held ≠ .lock lock
  | .locating lock =>
      enabled = false ∧ entry = outermost (lock :: frame.held) ∧
        outermost frame.held ≠ .lock lock
  | .testing _ lock outer =>
      outer = cpu ∧ enabled = false ∧ entry = outermost (lock :: frame.held) ∧
        outermost frame.held ≠ .lock lock
  | .clearing _ outer => outer = cpu ∧ enabled = false ∧ frame.held = []
  | .unmasking _ => enabled = false ∧ frame.held = [] ∧ entry = .null

/-- A timer procedure keeps away from the flag and the entry: it uses the entry of its
CPU, which is `1`. -/
def FitsHandler (frame : Frame) (cpu : Nat) : Prop :=
  match frame.position with
  | .idle | .locating _ => True
  | .recording _ _ outer | .trying _ _ outer | .testing _ _ outer => outer = cpu
  | .masking _ _ _ | .clearing _ _ | .unmasking _ => False

/-- A thread that has recorded nothing: it holds no spinlock, and its call of
`acquire_spinlock`, if any, is before the `cmpxchgq`. -/
def Resting (frame : Frame) : Prop :=
  frame.held = [] ∧
    (frame.position = .idle ∨ ∃ lock tries outer, frame.position = .recording lock tries outer)

/-- A thread interrupted on a CPU still addresses the entry of the CPU. -/
def RestsOn (frame : Frame) (cpu : Nat) : Prop :=
  frame.Resting ∧ ∀ outer, frame.position.recordsIn = some outer → outer = cpu

theorem outermost_ne_of_notMem {held : List Lock} {lock : Lock} (notHeld : lock ∉ held) :
    outermost held ≠ .lock lock :=
  fun records => notHeld (mem_of_outermost_eq records)

/-- A thread that runs with interrupts enabled is at rest, unless it is about to mask
them. -/
theorem Fits.restsOn {frame : Frame} {cpu : Nat} {entry : OuterSpinlock}
    (fits : frame.Fits cpu true entry) (notMasking : frame.position.isMasking = false) :
    frame.RestsOn cpu ∧ entry = .null := by
  unfold Fits at fits
  split at fits
  · rename_i idle
    obtain ⟨free, rfl⟩ := fits
    have nothing := free.mp rfl
    refine ⟨⟨⟨nothing, .inl idle⟩, ?_⟩, ?_⟩
    · rw [idle]
      intro outer records
      cases records
    · rw [nothing, outermost_nil]
  · rename_i lock tries outer recording
    obtain ⟨here, free, rfl, -⟩ := fits
    have nothing := free.mp rfl
    refine ⟨⟨⟨nothing, .inr ⟨lock, tries, outer, recording⟩⟩, ?_⟩, ?_⟩
    · rw [recording]
      intro other records
      cases records
      exact here
    · rw [nothing, outermost_nil]
  · rename_i masking
    rw [masking] at notMasking
    cases notMasking
  · cases fits.2.1
  · cases fits.1
  · cases fits.2.1
  · cases fits.2.1
  · cases fits.1

/-- A thread at rest on a CPU runs there with interrupts enabled and without record. -/
theorem RestsOn.fits {frame : Frame} {cpu : Nat} (rests : frame.RestsOn cpu) :
    frame.Fits cpu true .null := by
  obtain ⟨⟨nothing, idle | ⟨lock, tries, outer, recording⟩⟩, here⟩ := rests
  · simp [Fits, idle, nothing]
  · have same : outer = cpu := here outer (by rw [recording]; rfl)
    simp [Fits, recording, nothing, same]

theorem Fits.disciplined {frame : Frame} {cpu : Nat} {enabled : Bool} {entry : OuterSpinlock}
    (fits : frame.Fits cpu enabled entry) :
    (frame.Holds → enabled = false) ∧
      (¬ frame.Holds → ¬ frame.Acquires → enabled = true ∧ entry = .null) := by
  unfold Fits at fits
  unfold Holds Acquires
  cases position : frame.position with
  | idle =>
      rw [position] at fits
      obtain ⟨free, rfl⟩ := fits
      constructor
      · rintro (holds | releases)
        · exact Bool.eq_false_iff.mpr fun isEnabled => holds (free.mp isEnabled)
        · cases releases
      · intro holdsNot _
        have nothing : frame.held = [] := by
          by_contra holds
          exact holdsNot (.inl holds)
        rw [nothing]
        exact ⟨free.mpr nothing, rfl⟩
  | recording lock tries outer =>
      rw [position] at fits
      refine ⟨?_, fun _ acquires => absurd rfl acquires⟩
      rintro (holds | releases)
      · exact Bool.eq_false_iff.mpr fun isEnabled => holds (fits.2.1.mp isEnabled)
      · cases releases
  | masking lock tries outer =>
      rw [position] at fits
      refine ⟨?_, fun _ acquires => absurd rfl acquires⟩
      rintro (holds | releases)
      · exact absurd fits.2.2.1 holds
      · cases releases
  | trying lock tries outer =>
      rw [position] at fits
      exact ⟨fun _ => fits.2.1, fun _ acquires => absurd rfl acquires⟩
  | locating lock =>
      rw [position] at fits
      exact ⟨fun _ => fits.1, fun holds => absurd (.inr rfl) holds⟩
  | testing caller lock outer =>
      rw [position] at fits
      refine ⟨fun _ => fits.2.1, fun holds acquires => ?_⟩
      cases caller
      · exact absurd rfl acquires
      · exact absurd (.inr rfl) holds
  | clearing caller outer =>
      rw [position] at fits
      refine ⟨fun _ => fits.2.1, fun holds acquires => ?_⟩
      cases caller
      · exact absurd rfl acquires
      · exact absurd (.inr rfl) holds
  | unmasking caller =>
      rw [position] at fits
      refine ⟨fun _ => fits.1, fun holds acquires => ?_⟩
      cases caller
      · exact absurd rfl acquires
      · exact absurd (.inr rfl) holds

end Frame

variable {Thread : Type} {cpus : Nat} {state next : State Thread} {agent : Agent Thread}
  {cpu : Nat} {lock : Lock}

namespace State

/-- What holds of one CPU. -/
def CoreFits (state : State Thread) (cpu : Nat) : Prop :=
  match (state.cores cpu).handler with
  | none =>
      match (state.cores cpu).code with
      | .halt => (state.cores cpu).enabled = true ∧ state.outer cpu = .null
      | .thread thread =>
          (state.frames (.thread thread)).Fits cpu (state.cores cpu).enabled (state.outer cpu)
  | some .timer =>
      (state.cores cpu).enabled = false ∧ (state.cores cpu).saved = true ∧
        state.outer cpu = .handler ∧ (state.frames (.handler cpu)).FitsHandler cpu ∧
        ∀ thread, (state.cores cpu).code = .thread thread →
          (state.frames (.thread thread)).RestsOn cpu
  | some .selfHalt =>
      (state.cores cpu).enabled = false ∧ (state.cores cpu).saved = true ∧
        state.outer cpu = .null ∧ (state.cores cpu).code = .halt

/-- What holds of the CPUs and of the threads that none of them executes. -/
structure Invariant (cpus : Nat) (state : State Thread) : Prop where
  cores : ∀ cpu, state.CoreFits cpu
  alone : ∀ cpu other thread, (state.cores cpu).code = .thread thread →
    (state.cores other).code = .thread thread → cpu = other
  resting : ∀ thread, (∀ cpu, (state.cores cpu).code ≠ .thread thread) →
    (state.frames (.thread thread)).Resting ∧ state.flags thread = true
  beyond : ∀ cpu, cpus ≤ cpu → (state.cores cpu).code = .halt

/-- What holds of a CPU depends on the CPU, its entry and the frames of its code. -/
theorem CoreFits.congr (fits : state.CoreFits cpu) (core : next.cores cpu = state.cores cpu)
    (outer : next.outer cpu = state.outer cpu)
    (handler : next.frames (.handler cpu) = state.frames (.handler cpu))
    (threads : ∀ thread, (state.cores cpu).code = .thread thread →
      next.frames (.thread thread) = state.frames (.thread thread)) :
    next.CoreFits cpu := by
  unfold CoreFits at fits ⊢
  rw [core, outer, handler]
  split
  · rename_i outside
    rw [outside] at fits
    split
    · rename_i halted
      rw [halted] at fits
      exact fits
    · rename_i thread isThread
      rw [isThread] at fits
      rw [threads thread isThread]
      exact fits
  · rename_i inTimer
    rw [inTimer] at fits
    obtain ⟨disabled, saved, entry, fitsHandler, rests⟩ := fits
    refine ⟨disabled, saved, entry, fitsHandler, fun thread isThread => ?_⟩
    rw [threads thread isThread]
    exact rests thread isThread
  · rename_i halting
    rw [halting] at fits
    exact fits

/-- The step rule: it is enough to look at the CPU that takes the step and at the threads
that it begins or ceases to execute. -/
theorem Invariant.step (invariant : state.Invariant cpus) (below : cpu < cpus)
    (cores : ∀ other ≠ cpu, next.cores other = state.cores other)
    (outer : ∀ other ≠ cpu, next.outer other = state.outer other)
    (handlers : ∀ other ≠ cpu, next.frames (.handler other) = state.frames (.handler other))
    (threads : ∀ thread, (state.cores cpu).code ≠ .thread thread →
      next.frames (.thread thread) = state.frames (.thread thread) ∧
        next.flags thread = state.flags thread)
    (enters : ∀ thread, (next.cores cpu).code = .thread thread →
      (state.cores cpu).code = .thread thread ∨
        ∀ other, (state.cores other).code ≠ .thread thread)
    (leaves : ∀ thread, (state.cores cpu).code = .thread thread →
      (next.cores cpu).code ≠ .thread thread →
      (next.frames (.thread thread)).Resting ∧ next.flags thread = true)
    (fits : next.CoreFits cpu) : next.Invariant cpus := by
  have elsewhere : ∀ other thread, other ≠ cpu → (next.cores other).code = .thread thread →
      (state.cores other).code = .thread thread ∧ (state.cores cpu).code ≠ .thread thread := by
    intro other thread different isThread
    rw [cores other different] at isThread
    refine ⟨isThread, fun alsoThread => ?_⟩
    exact different (invariant.alone other cpu thread isThread alsoThread)
  constructor
  · intro other
    by_cases same : other = cpu
    · rw [same]
      exact fits
    · apply (invariant.cores other).congr (cores other same) (outer other same)
        (handlers other same)
      intro thread isThread
      rw [← cores other same] at isThread
      exact (threads thread (elsewhere other thread same isThread).2).1
  · intro first second thread isFirst isSecond
    by_cases firstHere : first = cpu
    · by_cases secondHere : second = cpu
      · rw [firstHere, secondHere]
      · obtain ⟨before, notHere⟩ := elsewhere second thread secondHere isSecond
        rw [firstHere] at isFirst
        obtain here | nowhere := enters thread isFirst
        · exact absurd here notHere
        · exact absurd before (nowhere second)
    · obtain ⟨firstBefore, notHere⟩ := elsewhere first thread firstHere isFirst
      by_cases secondHere : second = cpu
      · rw [secondHere] at isSecond
        obtain here | nowhere := enters thread isSecond
        · exact absurd here notHere
        · exact absurd firstBefore (nowhere first)
      · obtain ⟨secondBefore, -⟩ := elsewhere second thread secondHere isSecond
        exact invariant.alone first second thread firstBefore secondBefore
  · intro thread nowhere
    by_cases here : (state.cores cpu).code = .thread thread
    · exact leaves thread here (nowhere cpu)
    · obtain ⟨sameFrame, sameFlag⟩ := threads thread here
      rw [sameFrame, sameFlag]
      apply invariant.resting thread
      intro other
      by_cases same : other = cpu
      · rw [same]
        exact here
      · rw [← cores other same]
        exact nowhere other
  · intro other isBeyond
    have different : other ≠ cpu := by omega
    rw [cores other different]
    exact invariant.beyond other isBeyond

section Steps

variable [DecidableEq Thread] {tries : BitVec 64}

/-- The local condition of an agent that runs on a CPU with its own entry. -/
def AgentFits (state : State Thread) (cpu : Nat) (agent : Agent Thread) : Prop :=
  (state.frames agent).Fits cpu (state.cores cpu).enabled (state.outer cpu)

theorem agentFits_goto {position : Position}
    (fits : Frame.Fits { state.frames agent with position := position } cpu
      (state.cores cpu).enabled (state.outer cpu)) :
    (state.goto agent position).AgentFits cpu agent := by
  unfold AgentFits
  rw [goto_frames, Function.update_self]
  exact fits

theorem AgentFits.acquireSpinlock (fits : state.AgentFits cpu agent)
    (notOutermost : outermost (state.frames agent).held ≠ .lock lock)
    (taken : state.acquireSpinlock cpu agent lock tries = some next) :
    next.AgentFits cpu agent ∧ next.outer = state.outer := by
  unfold State.acquireSpinlock at taken
  split at taken
  · rename_i idle
    cases taken
    unfold AgentFits Frame.Fits at fits
    rw [idle] at fits
    refine ⟨agentFits_goto ?_, rfl⟩
    unfold Frame.Fits
    exact ⟨rfl, fits.1, fits.2, notOutermost⟩
  · cases taken

theorem AgentFits.releaseSpinlock (fits : state.AgentFits cpu agent)
    (once : (state.frames agent).held.Nodup)
    (taken : state.releaseSpinlock agent = some next) :
    next.AgentFits cpu agent ∧ next.outer = state.outer := by
  unfold State.releaseSpinlock at taken
  split at taken
  · rename_i lock older idle isHeld
    cases taken
    unfold AgentFits Frame.Fits at fits
    rw [idle] at fits
    obtain ⟨free, entry⟩ := fits
    rw [isHeld] at free entry once
    refine ⟨?_, rfl⟩
    unfold AgentFits Frame.Fits
    rw [setFrame_frames, Function.update_self]
    refine ⟨?_, entry, Frame.outermost_ne_of_notMem (List.nodup_cons.mp once).1⟩
    exact Bool.eq_false_iff.mpr fun isEnabled => List.cons_ne_nil _ _ (free.mp isEnabled)
  · cases taken

/-- The next access of a thread accesses the entry of its CPU only, and leaves the flag
and the entry as its next position needs them. -/
theorem AgentFits.advance (fits : state.AgentFits cpu agent)
    (taken : state.advance cpu agent = some next) :
    next.AgentFits cpu agent ∧ ∀ other ≠ cpu, next.outer other = state.outer other := by
  unfold State.advance at taken
  unfold AgentFits Frame.Fits at fits
  cases position : (state.frames agent).position with
  | idle =>
      rw [position] at taken
      cases taken
  | recording lock tries outer =>
      rw [position] at taken fits
      obtain ⟨rfl, free, entry, notOutermost⟩ := fits
      simp only at taken
      split at taken
      · rename_i null
        cases taken
        rw [null] at entry
        have nothing := outermost_eq_null_iff.mp entry.symm
        constructor
        · apply agentFits_goto
          unfold Frame.Fits
          refine ⟨rfl, free.mpr nothing, nothing, ?_⟩
          rw [setOuter_outer, Function.update_self]
        · intro other different
          rw [goto_outer, setOuter_outer, Function.update_of_ne different]
      · rename_i notNull
        cases taken
        have holds : (state.frames agent).held ≠ [] := by
          intro nothing
          rw [nothing] at entry
          exact notNull entry
        refine ⟨agentFits_goto ?_, fun _ _ => rfl⟩
        unfold Frame.Fits
        refine ⟨rfl, ?_, ?_, notOutermost⟩
        · exact Bool.eq_false_iff.mpr fun isEnabled => holds (free.mp isEnabled)
        · rw [outermost_cons holds]
          exact entry
  | masking lock tries outer =>
      rw [position] at taken fits
      obtain ⟨rfl, -, nothing, entry⟩ := fits
      cases taken
      refine ⟨agentFits_goto ?_, fun _ _ => rfl⟩
      unfold Frame.Fits
      refine ⟨rfl, ?_, ?_, ?_⟩
      · rw [setEnabled_cores, Function.update_self]
      · rw [setEnabled_frames, nothing]
        exact entry
      · rw [setEnabled_frames, nothing]
        simp
  | trying lock tries outer =>
      rw [position] at taken fits
      obtain ⟨rfl, disabled, entry, notOutermost⟩ := fits
      simp only at taken
      split at taken
      · cases taken
        refine ⟨?_, fun _ _ => rfl⟩
        unfold AgentFits Frame.Fits
        rw [setFrame_frames, Function.update_self]
        refine ⟨⟨fun isEnabled => ?_, fun none => ?_⟩, entry⟩
        · rw [setFrame_cores, setLock_cores, disabled] at isEnabled
          cases isEnabled
        · cases none
      · split at taken <;> cases taken
        · refine ⟨agentFits_goto ?_, fun _ _ => rfl⟩
          unfold Frame.Fits
          exact ⟨rfl, disabled, entry, notOutermost⟩
        · refine ⟨agentFits_goto ?_, fun _ _ => rfl⟩
          unfold Frame.Fits
          exact ⟨rfl, disabled, entry, notOutermost⟩
  | locating lock =>
      rw [position] at taken fits
      cases taken
      refine ⟨agentFits_goto ?_, fun _ _ => rfl⟩
      unfold Frame.Fits
      exact ⟨rfl, fits⟩
  | testing caller lock outer =>
      rw [position] at taken fits
      obtain ⟨rfl, disabled, entry, notOutermost⟩ := fits
      simp only at taken
      split at taken
      · rename_i isOuter
        cases taken
        refine ⟨agentFits_goto ?_, fun _ _ => rfl⟩
        unfold Frame.Fits
        refine ⟨rfl, disabled, ?_⟩
        by_contra holds
        rw [isOuter, outermost_cons holds] at entry
        exact notOutermost entry.symm
      · rename_i notOuter
        cases taken
        have holds : (state.frames agent).held ≠ [] := by
          intro nothing
          rw [nothing] at entry
          exact notOuter entry
        refine ⟨agentFits_goto ?_, fun _ _ => rfl⟩
        unfold Frame.Fits
        refine ⟨⟨fun isEnabled => ?_, fun nothing => absurd nothing holds⟩, ?_⟩
        · rw [disabled] at isEnabled
          cases isEnabled
        · rw [outermost_cons holds] at entry
          exact entry
  | clearing caller outer =>
      rw [position] at taken fits
      obtain ⟨rfl, disabled, nothing⟩ := fits
      cases taken
      constructor
      · apply agentFits_goto
        unfold Frame.Fits
        refine ⟨disabled, nothing, ?_⟩
        rw [setOuter_outer, Function.update_self]
      · intro other different
        rw [goto_outer, setOuter_outer, Function.update_of_ne different]
  | unmasking caller =>
      rw [position] at taken fits
      obtain ⟨disabled, nothing, entry⟩ := fits
      cases taken
      refine ⟨agentFits_goto ?_, fun _ _ => rfl⟩
      unfold Frame.Fits
      constructor
      · rw [setEnabled_cores, Function.update_self]
        exact iff_of_true rfl nothing
      · rw [setEnabled_frames, nothing]
        exact entry

/-- A timer procedure calls `acquire_spinlock` and `release_spinlock` without any access
of the flag or of the entry but reading it. -/
def HandlerStep (cpu : Nat) (agent : Agent Thread) (state next : State Thread) : Prop :=
  (next.frames agent).FitsHandler cpu ∧ next.outer = state.outer ∧ next.cores = state.cores

theorem HandlerStep.acquireSpinlock
    (taken : state.acquireSpinlock cpu agent lock tries = some next) :
    HandlerStep cpu agent state next := by
  unfold State.acquireSpinlock at taken
  split at taken
  · cases taken
    refine ⟨?_, rfl, rfl⟩
    rw [goto_frames, Function.update_self]
    rfl
  · cases taken

theorem HandlerStep.releaseSpinlock (taken : state.releaseSpinlock agent = some next) :
    HandlerStep cpu agent state next := by
  unfold State.releaseSpinlock at taken
  split at taken
  · cases taken
    refine ⟨?_, rfl, rfl⟩
    rw [setFrame_frames, Function.update_self]
    trivial
  · cases taken

theorem HandlerStep.advance (fits : (state.frames agent).FitsHandler cpu)
    (entry : state.outer cpu = .handler)
    (taken : state.advance cpu agent = some next) : HandlerStep cpu agent state next := by
  have moves : ∀ (middle : State Thread) (position : Position),
      middle.outer = state.outer → middle.cores = state.cores →
      Frame.FitsHandler { middle.frames agent with position := position } cpu →
      HandlerStep cpu agent state (middle.goto agent position) := by
    intro middle position sameOuter sameCores fits
    refine ⟨?_, sameOuter, sameCores⟩
    rw [goto_frames, Function.update_self]
    exact fits
  unfold State.advance at taken
  unfold Frame.FitsHandler at fits
  cases position : (state.frames agent).position with
  | idle =>
      rw [position] at taken
      cases taken
  | recording lock tries outer =>
      rw [position] at taken fits
      obtain rfl : outer = cpu := fits
      simp only [entry, reduceCtorEq, if_false] at taken
      cases taken
      exact moves state _ rfl rfl rfl
  | masking lock tries outer =>
      rw [position] at fits
      cases fits
  | trying lock tries outer =>
      rw [position] at taken fits
      simp only at taken
      split at taken
      · cases taken
        refine ⟨?_, rfl, rfl⟩
        rw [setFrame_frames, Function.update_self]
        trivial
      · split at taken <;> cases taken
        · exact moves _ _ rfl rfl fits
        · exact moves _ _ rfl rfl fits
  | locating lock =>
      rw [position] at taken
      cases taken
      exact moves state _ rfl rfl rfl
  | testing caller lock outer =>
      rw [position] at taken fits
      obtain rfl : outer = cpu := fits
      simp only [entry, reduceCtorEq, if_false] at taken
      cases taken
      exact moves state _ rfl rfl trivial
  | clearing caller outer =>
      rw [position] at fits
      cases fits
  | unmasking caller =>
      rw [position] at fits
      cases fits

end Steps

/-- The code of the CPU takes a step in one of the two functions. -/
theorem Invariant.agentStep (invariant : state.Invariant cpus) (below : cpu < cpus)
    (runs : state.agent cpu = some agent) (steps : AgentStep cpu agent state next)
    (thread : state.threadFrame cpu = some (state.frames agent) → state.AgentFits cpu agent →
      next.AgentFits cpu agent ∧ ∀ other ≠ cpu, next.outer other = state.outer other)
    (handler : (state.frames agent).FitsHandler cpu → state.outer cpu = .handler →
      HandlerStep cpu agent state next) :
    next.Invariant cpus := by
  have fits := invariant.cores cpu
  have threads : ∀ other, (state.cores cpu).code ≠ .thread other →
      next.frames (.thread other) = state.frames (.thread other) ∧
        next.flags other = state.flags other := by
    intro other elsewhere
    refine ⟨steps.frames _ ?_, by rw [steps.flags]⟩
    rintro rfl
    obtain ⟨-, same⟩ | ⟨running, -, isThread, same⟩ := agent_eq_some_iff.mp runs
    · cases same
    · cases same
      exact elsewhere isThread
  have handlers : ∀ other ≠ cpu,
      next.frames (.handler other) = state.frames (.handler other) := by
    intro other different
    apply steps.frames
    rintro rfl
    obtain ⟨-, same⟩ | ⟨running, -, -, same⟩ := agent_eq_some_iff.mp runs
    · cases same
      exact different rfl
    · cases same
  have kept : next.CoreFits cpu ∧ ∀ other ≠ cpu, next.outer other = state.outer other := by
    obtain ⟨inTimer, rfl⟩ | ⟨running, outside, isThread, rfl⟩ := agent_eq_some_iff.mp runs
    · unfold CoreFits at fits
      rw [inTimer] at fits
      obtain ⟨disabled, saved, entry, fitsHandler, rests⟩ := fits
      obtain ⟨fitsNext, sameOuter, sameCores⟩ := handler fitsHandler entry
      refine ⟨?_, fun _ _ => by rw [sameOuter]⟩
      unfold CoreFits
      rw [sameCores, sameOuter, inTimer]
      refine ⟨disabled, saved, entry, fitsNext, fun other isThread => ?_⟩
      rw [steps.frames]
      · exact rests other isThread
      · intro same
        cases same
    · unfold CoreFits at fits
      rw [outside, isThread] at fits
      have runs : state.threadFrame cpu = some (state.frames (.thread running)) := by
        simp only [threadFrame, outside, isThread]
      obtain ⟨fitsNext, sameOuter⟩ := thread runs fits
      refine ⟨?_, sameOuter⟩
      unfold CoreFits
      rw [steps.handler, steps.code, outside, isThread]
      exact fitsNext
  apply invariant.step below steps.cores kept.2 handlers threads
  · intro other isThread
    rw [steps.code] at isThread
    exact .inl isThread
  · intro other isThread leaves
    rw [steps.code] at leaves
    exact absurd isThread leaves
  · exact kept.1

/-- Where the code of a CPU can be interrupted, a thread that is not about to mask
interrupts has recorded nothing. -/
theorem Invariant.interrupted (invariant : state.Invariant cpus)
    (interruptible : state.Interruptible cpu) (spared : ¬ state.InWindow cpu) :
    state.outer cpu = .null ∧ ∀ thread, (state.cores cpu).code = .thread thread →
      (state.frames (.thread thread)).RestsOn cpu := by
  obtain ⟨isEnabled, outside⟩ := interruptible
  have fits := invariant.cores cpu
  unfold CoreFits at fits
  rw [outside, isEnabled] at fits
  cases running : (state.cores cpu).code with
  | halt =>
      rw [running] at fits
      refine ⟨fits.2, fun thread isThread => ?_⟩
      cases isThread
  | thread thread =>
      rw [running] at fits
      have notMasking : (state.frames (.thread thread)).position.isMasking = false := by
        apply Bool.eq_false_iff.mpr
        intro isMasking
        refine spared ⟨_, ?_, isMasking⟩
        simp only [threadFrame, outside, running]
      obtain ⟨rests, null⟩ := Frame.Fits.restsOn fits notMasking
      refine ⟨null, fun other isThread => ?_⟩
      cases isThread
      exact rests

/-- A thread that no CPU executes can be continued on a CPU whose entry it addresses. -/
theorem Invariant.restsOn {thread : Thread} (invariant : state.Invariant cpus)
    (notRunning : ∀ other < cpus, (state.cores other).code ≠ .thread thread)
    (here : ∀ outer, (state.frames (.thread thread)).position.recordsIn = some outer →
      outer = cpu) :
    (∀ other, (state.cores other).code ≠ .thread thread) ∧
      (state.frames (.thread thread)).RestsOn cpu ∧ state.flags thread = true := by
  have nowhere : ∀ other, (state.cores other).code ≠ .thread thread := by
    intro other running
    by_cases below : other < cpus
    · exact notRunning other below running
    · rw [invariant.beyond other (by omega)] at running
      cases running
  obtain ⟨resting, flag⟩ := invariant.resting thread nowhere
  exact ⟨nowhere, ⟨resting, here⟩, flag⟩

theorem Invariant.returnFromInterrupt (invariant : state.Invariant cpus) (below : cpu < cpus)
    (taken : state.returnFromInterrupt cpu = some next) : next.Invariant cpus := by
  have steps := returnFromInterrupt_interruptStep taken
  have fits := invariant.cores cpu
  unfold CoreFits at fits
  have code : (next.cores cpu).code = (state.cores cpu).code := by
    obtain ⟨-, ⟨-, rfl⟩ | ⟨-, rfl⟩⟩ := returnFromInterrupt_cases taken
    · simp [returnToCode]
    · simp [returnToCode]
  apply invariant.step below steps.cores
  · intro other different
    obtain ⟨-, ⟨-, rfl⟩ | ⟨-, rfl⟩⟩ := returnFromInterrupt_cases taken
    · exact Function.update_of_ne different ..
    · rfl
  · intro other _
    rw [steps.frames]
  · intro thread _
    rw [steps.frames]
    refine ⟨rfl, ?_⟩
    obtain ⟨-, ⟨-, rfl⟩ | ⟨-, rfl⟩⟩ := returnFromInterrupt_cases taken <;> rfl
  · intro thread running
    rw [code] at running
    exact .inl running
  · intro thread running leaves
    rw [code] at leaves
    exact absurd running leaves
  · obtain ⟨-, ⟨inTimer, rfl⟩ | ⟨halting, rfl⟩⟩ := returnFromInterrupt_cases taken
    · rw [inTimer] at fits
      obtain ⟨-, saved, -, -, rests⟩ := fits
      have core : ((state.setOuter cpu .null).returnToCode cpu).cores cpu =
          { state.cores cpu with enabled := true, handler := none } := by
        simp [returnToCode, saved]
      have entry : ((state.setOuter cpu .null).returnToCode cpu).outer cpu = .null := by
        simp [returnToCode]
      unfold CoreFits
      rw [core, entry, steps.frames]
      cases running : (state.cores cpu).code with
      | halt => exact ⟨rfl, rfl⟩
      | thread thread => exact (rests thread running).fits
    · rw [halting] at fits
      obtain ⟨-, saved, entry, halted⟩ := fits
      have core : (state.returnToCode cpu).cores cpu =
          { state.cores cpu with enabled := true, handler := none } := by
        simp [returnToCode, saved]
      unfold CoreFits
      rw [core, halted]
      exact ⟨rfl, entry⟩

theorem invariant_initial : (initial : State Thread).Invariant cpus := by
  constructor
  · intro cpu
    exact ⟨rfl, rfl⟩
  · intro cpu other thread running
    cases running
  · intro thread _
    exact ⟨⟨rfl, .inl rfl⟩, rfl⟩
  · intro cpu _
    rfl

section Interrupts

variable [DecidableEq Thread]

@[simp] theorem saveContext_outer : (state.saveContext cpu).outer = state.outer := by
  unfold saveContext
  split <;> rfl

theorem saveContext_self (interrupted : state.Interruptible cpu) {thread : Thread}
    (running : (state.cores cpu).code = .thread thread) :
    (state.saveContext cpu).flags thread = true := by
  unfold saveContext
  rw [running]
  exact (Function.update_self ..).trans interrupted.1

theorem saveContext_other {thread : Thread}
    (notRunning : (state.cores cpu).code ≠ .thread thread) :
    (state.saveContext cpu).flags thread = state.flags thread := by
  unfold saveContext
  split
  · rfl
  · rename_i other running
    apply Function.update_of_ne
    rintro rfl
    exact notRunning running

/-- The timer interrupt continues the thread that it interrupted. -/
theorem Invariant.timerInterrupt_none {fires : Bool} (invariant : state.Invariant cpus)
    (handlersDone : state.HandlersDone) (below : cpu < cpus)
    (spares : state.Spares (.timer cpu none fires))
    (taken : state.timerInterrupt cpus cpu none fires = some next) :
    next.Invariant cpus := by
  have steps := timerInterrupt_interruptStep taken
  obtain ⟨interruptible, -, ⟨isFired, rfl⟩ | ⟨-, rfl⟩⟩ := timerInterrupt_cases taken
  · obtain ⟨-, rests⟩ := invariant.interrupted interruptible (spares.1 (.inr isFired))
    have core : (((state.switchThread cpu none).enterTimerProc cpu).cores cpu) =
        { enabled := false, code := (state.cores cpu).code, handler := some .timer,
          saved := true } := by
      simp [enterTimerProc, switchThread, interruptible.1]
    apply invariant.step below steps.cores
    · intro other different
      simp [enterTimerProc, switchThread, different]
    · intro other _
      rw [steps.frames]
    · intro thread _
      exact ⟨by rw [steps.frames], rfl⟩
    · intro thread running
      rw [core] at running
      exact .inl running
    · intro thread running leaves
      rw [core] at leaves
      exact absurd running leaves
    · unfold CoreFits
      rw [core, steps.frames]
      refine ⟨rfl, rfl, ?_, ?_, rests⟩
      · simp [enterTimerProc]
      · rw [handlersDone cpu interruptible.2]
        trivial
  · have core : (((state.switchThread cpu none).returnToCode cpu).cores cpu) =
        { state.cores cpu with saved := true } := by
      simp [returnToCode, switchThread, interruptible.1, interruptible.2]
    apply invariant.step below steps.cores
    · intro other _
      rfl
    · intro other _
      rw [steps.frames]
    · intro thread _
      exact ⟨by rw [steps.frames], rfl⟩
    · intro thread running
      rw [core] at running
      exact .inl running
    · intro thread running leaves
      rw [core] at leaves
      exact absurd running leaves
    · have fits := invariant.cores cpu
      unfold CoreFits at fits ⊢
      rw [interruptible.2] at fits
      rw [core, interruptible.2, steps.frames]
      exact fits

/-- The timer interrupt continues another thread. -/
theorem Invariant.timerInterrupt_some {fires : Bool} {thread : Thread}
    (invariant : state.Invariant cpus) (handlersDone : state.HandlersDone) (below : cpu < cpus)
    (spares : state.Spares (.timer cpu (some thread) fires))
    (taken : state.timerInterrupt cpus cpu (some thread) fires = some next) :
    next.Invariant cpus := by
  have steps := timerInterrupt_interruptStep taken
  obtain ⟨interruptible, notRunning, fired⟩ := timerInterrupt_cases taken
  have spared : ¬ state.InWindow cpu := by
    apply spares.1
    left
    intro none
    cases none
  obtain ⟨null, rests⟩ := invariant.interrupted interruptible spared
  obtain ⟨nowhere, restsOn, flag⟩ := invariant.restsOn (notRunning thread rfl)
    (spares.2 thread rfl)
  have core : (next.cores cpu).code = .thread thread := by
    obtain ⟨-, rfl⟩ | ⟨-, rfl⟩ := fired <;> simp [enterTimerProc, returnToCode, switchThread]
  have flags : next.flags = (state.saveContext cpu).flags := by
    obtain ⟨-, rfl⟩ | ⟨-, rfl⟩ := fired <;> rfl
  apply invariant.step below steps.cores
  · intro other different
    obtain ⟨-, rfl⟩ | ⟨-, rfl⟩ := fired
    · simp [enterTimerProc, switchThread, different]
    · simp [returnToCode, switchThread]
  · intro other _
    rw [steps.frames]
  · intro other elsewhere
    rw [steps.frames, flags, saveContext_other elsewhere]
    exact ⟨rfl, rfl⟩
  · intro other running
    rw [core] at running
    cases running
    exact .inr nowhere
  · intro other running _
    rw [steps.frames, flags, saveContext_self interruptible running]
    exact ⟨(rests other running).1, rfl⟩
  · obtain ⟨-, rfl⟩ | ⟨-, rfl⟩ := fired
    · have entered : ((state.switchThread cpu (some thread)).enterTimerProc cpu).cores cpu =
          { enabled := false, code := .thread thread, handler := some .timer,
            saved := true } := by
        simp [enterTimerProc, switchThread, flag]
      unfold CoreFits
      rw [entered, steps.frames]
      refine ⟨rfl, rfl, ?_, ?_, fun other running => ?_⟩
      · simp [enterTimerProc]
      · rw [handlersDone cpu interruptible.2]
        trivial
      · cases running
        exact restsOn
    · have entered : ((state.switchThread cpu (some thread)).returnToCode cpu).cores cpu =
          { enabled := true, code := .thread thread, handler := none, saved := true } := by
        simp [returnToCode, switchThread, flag]
      have entry : ((state.switchThread cpu (some thread)).returnToCode cpu).outer cpu =
          .null := by
        simp [returnToCode, switchThread, null]
      unfold CoreFits
      rw [entered, steps.frames, entry]
      exact restsOn.fits

theorem Invariant.taskInterrupt {pauses : Bool} (invariant : state.Invariant cpus)
    (below : cpu < cpus) (spares : state.Spares (.task cpu pauses))
    (taken : state.taskInterrupt cpu pauses = some next) : next.Invariant cpus := by
  have steps := taskInterrupt_interruptStep taken
  obtain ⟨interruptible, ⟨isPaused, rfl⟩ | ⟨-, rfl⟩⟩ := taskInterrupt_cases taken
  · obtain ⟨null, rests⟩ := invariant.interrupted interruptible (spares isPaused)
    have core : (state.haltThread cpu).cores cpu = { state.cores cpu with code := .halt } := by
      simp [haltThread]
    apply invariant.step below steps.cores
    · intro other _
      simp [haltThread]
    · intro other _
      rw [steps.frames]
    · intro thread elsewhere
      rw [steps.frames]
      exact ⟨rfl, saveContext_other elsewhere⟩
    · intro thread running
      rw [core] at running
      cases running
    · intro thread running _
      rw [steps.frames]
      exact ⟨(rests thread running).1, saveContext_self interruptible running⟩
    · unfold CoreFits
      rw [core, interruptible.1, interruptible.2]
      refine ⟨rfl, ?_⟩
      simp [haltThread, null]
  · exact invariant

/-- A thread halts itself holding what it hands over only. -/
theorem Invariant.selfHalt {lockToRelease : Option Lock} (invariant : state.Invariant cpus)
    (below : cpu < cpus) (spares : state.Spares (.selfHalt cpu lockToRelease))
    (taken : state.selfHalt cpu lockToRelease = some next) : next.Invariant cpus := by
  obtain ⟨thread, outside, running, idle, -, rfl⟩ := selfHalt_eq_some taken
  have held : (state.frames (.thread thread)).held = givenLocks cpu lockToRelease := by
    apply spares
    simp only [threadFrame, outside, running]
  apply invariant.step below
  · intro other different
    exact Function.update_of_ne different ..
  · intro other different
    exact Function.update_of_ne different ..
  · intro other different
    apply enterSelfHalt_other
    · intro same
      cases same
    · intro same
      cases same
      exact different rfl
  · intro other elsewhere
    have different : other ≠ thread := by
      rintro rfl
      exact elsewhere running
    refine ⟨enterSelfHalt_other ?_ ?_, Function.update_of_ne different ..⟩
    · intro same
      cases same
      exact different rfl
    · intro same
      cases same
  · intro other enters
    rw [enterSelfHalt_core] at enters
    cases enters
  · intro other before _
    rw [running] at before
    cases before
    rw [enterSelfHalt_thread, held, List.drop_length]
    exact ⟨⟨rfl, .inl idle⟩, Function.update_self ..⟩
  · unfold CoreFits
    rw [enterSelfHalt_core]
    exact ⟨rfl, rfl, Function.update_self .., rfl⟩

theorem Invariant.handOver (invariant : state.Invariant cpus) (below : cpu < cpus)
    (taken : state.handOver cpu = some next) : next.Invariant cpus := by
  obtain ⟨lock, older, halting, -, rfl⟩ := handOver_eq_some taken
  have fits := invariant.cores cpu
  apply invariant.step below
  · intro other _
    rfl
  · intro other _
    rfl
  · intro other different
    rw [setFrame_frames, Function.update_of_ne, setLock_frames]
    intro same
    cases same
    exact different rfl
  · intro thread _
    rw [setFrame_frames, Function.update_of_ne, setLock_frames]
    · exact ⟨rfl, rfl⟩
    · intro same
      cases same
  · intro thread running
    exact .inl running
  · intro thread running leaves
    exact absurd running leaves
  · unfold CoreFits at fits ⊢
    rw [halting] at fits
    rw [setFrame_cores, setLock_cores, halting]
    exact fits

/-- Steps that spare the records keep the invariant. -/
theorem Invariant.act {action : Action Thread} (invariant : state.Invariant cpus)
    (owned : state.Owned) (handlersDone : state.HandlersDone) (below : action.cpu < cpus)
    (spares : state.Spares action) (taken : state.act cpus action = some next) :
    next.Invariant cpus := by
  cases action with
  | acquire cpu lock tries =>
      obtain ⟨agent, runs, taken⟩ := act_acquire.mp taken
      apply invariant.agentStep below runs (acquireSpinlock_agentStep taken)
      · intro isFrame fits
        obtain ⟨fitsNext, sameOuter⟩ := fits.acquireSpinlock (spares _ isFrame) taken
        exact ⟨fitsNext, fun _ _ => by rw [sameOuter]⟩
      · intro _ _
        exact .acquireSpinlock taken
  | release cpu =>
      obtain ⟨agent, runs, taken⟩ := act_release.mp taken
      apply invariant.agentStep below runs (releaseSpinlock_agentStep taken)
      · intro _ fits
        obtain ⟨fitsNext, sameOuter⟩ := fits.releaseSpinlock (owned.once agent) taken
        exact ⟨fitsNext, fun _ _ => by rw [sameOuter]⟩
      · intro _ _
        exact .releaseSpinlock taken
  | advance cpu =>
      obtain ⟨agent, runs, taken⟩ := act_advance.mp taken
      apply invariant.agentStep below runs (advance_agentStep taken)
      · intro _ fits
        exact fits.advance taken
      · intro fits entry
        exact .advance fits entry taken
  | timer cpu dispatch fires =>
      cases dispatch with
      | none => exact invariant.timerInterrupt_none handlersDone below spares taken
      | some thread => exact invariant.timerInterrupt_some handlersDone below spares taken
  | task cpu pauses => exact invariant.taskInterrupt below spares taken
  | selfHalt cpu lockToRelease => exact invariant.selfHalt below spares taken
  | handOver cpu => exact invariant.handOver below taken
  | returnFromInterrupt cpu => exact invariant.returnFromInterrupt below taken

end Interrupts

/-- The discipline follows from the invariant. -/
theorem Invariant.disciplined (invariant : state.Invariant cpus) : state.Disciplined := by
  intro cpu frame runs
  have fits := invariant.cores cpu
  unfold threadFrame at runs
  split at runs
  · rename_i thread outside isThread
    cases runs
    unfold CoreFits at fits
    rw [outside, isThread] at fits
    exact fits.disciplined
  · cases runs

end State
end Masking
end ToyKernel
