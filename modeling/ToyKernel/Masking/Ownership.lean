import ToyKernel.Masking.System

/-!
# Ownership of spinlocks

However interrupts fall, the exchange of `acquire_spinlock_int` gives each spinlock to
one agent at a time, and the spinlock stays busy until that agent frees it.
-/

namespace ToyKernel
namespace Masking

variable {Thread : Type} {cpus : Nat} {state next : State Thread}
  {agent : Agent Thread} {lock : Lock}

/-- Each spinlock that is held is busy, and held once. -/
structure State.Owned (state : State Thread) : Prop where
  busy : ∀ agent, ∀ lock ∈ (state.frames agent).held, (state.locks lock).busy = true
  once : ∀ agent, (state.frames agent).held.Nodup
  apart : ∀ agent other, ∀ lock ∈ (state.frames agent).held,
    lock ∈ (state.frames other).held → agent = other

namespace State

/-- Ownership depends on the spinlocks and on what is held only. -/
theorem Owned.congr (owned : state.Owned)
    (sameLocks : ∀ lock, next.locks lock = state.locks lock)
    (sameHeld : ∀ agent, (next.frames agent).held = (state.frames agent).held) :
    next.Owned := by
  constructor
  · intro agent lock isHeld
    rw [sameLocks]
    rw [sameHeld] at isHeld
    exact owned.busy agent lock isHeld
  · intro agent
    rw [sameHeld]
    exact owned.once agent
  · intro agent other lock isHeld alsoHeld
    rw [sameHeld] at isHeld alsoHeld
    exact owned.apart agent other lock isHeld alsoHeld

/-- A free spinlock is held by nobody. -/
theorem Owned.notHeld (owned : state.Owned) (free : (state.locks lock).busy = false)
    (agent : Agent Thread) : lock ∉ (state.frames agent).held := by
  intro isHeld
  rw [owned.busy agent lock isHeld] at free
  cases free

/-- The successful exchange of `acquire_spinlock_int`. -/
theorem Owned.acquire (owned : state.Owned) (free : (state.locks lock).busy = false)
    (locks : next.locks = Function.update state.locks lock { busy := true })
    (held : (next.frames agent).held = lock :: (state.frames agent).held)
    (others : ∀ other ≠ agent, (next.frames other).held = (state.frames other).held) :
    next.Owned := by
  have mem_held : ∀ other spin, spin ∈ (next.frames other).held ↔
      (other = agent ∧ spin = lock) ∨ spin ∈ (state.frames other).held := by
    intro other spin
    by_cases same : other = agent
    · subst same
      rw [held, List.mem_cons]
      simp
    · rw [others other same]
      simp [same]
  have unheld := owned.notHeld free
  constructor
  · intro other spin isHeld
    rw [locks, Function.update_apply]
    split
    · rfl
    · rename_i different
      obtain ⟨-, same⟩ | isHeld := (mem_held other spin).mp isHeld
      · exact absurd same different
      · exact owned.busy other spin isHeld
  · intro other
    by_cases same : other = agent
    · subst same
      rw [held, List.nodup_cons]
      exact ⟨unheld other, owned.once other⟩
    · rw [others other same]
      exact owned.once other
  · intro left right spin isLeft isRight
    obtain ⟨rfl, rfl⟩ | isLeft := (mem_held left spin).mp isLeft
    · obtain ⟨rfl, -⟩ | isRight := (mem_held right _).mp isRight
      · rfl
      · exact absurd isRight (unheld right)
    · obtain ⟨rfl, rfl⟩ | isRight := (mem_held right spin).mp isRight
      · exact absurd isLeft (unheld left)
      · exact owned.apart left right spin isLeft isRight

/-- Freeing the newest spinlock of an agent. -/
theorem Owned.release {older : List Lock} (owned : state.Owned)
    (isHeld : (state.frames agent).held = lock :: older)
    (locks : next.locks = Function.update state.locks lock { busy := false })
    (held : (next.frames agent).held = older)
    (others : ∀ other ≠ agent, (next.frames other).held = (state.frames other).held) :
    next.Owned := by
  have once := owned.once agent
  rw [isHeld, List.nodup_cons] at once
  have still : ∀ other spin, spin ∈ (next.frames other).held →
      spin ∈ (state.frames other).held ∧ spin ≠ lock := by
    intro other spin present
    by_cases same : other = agent
    · subst same
      rw [held] at present
      rw [isHeld]
      refine ⟨List.mem_cons_of_mem lock present, ?_⟩
      rintro rfl
      exact once.1 present
    · rw [others other same] at present
      refine ⟨present, ?_⟩
      rintro rfl
      have mine : spin ∈ (state.frames agent).held := by
        rw [isHeld]
        exact List.mem_cons_self
      exact same (owned.apart other agent spin present mine)
  constructor
  · intro other spin present
    obtain ⟨before, different⟩ := still other spin present
    rw [locks, Function.update_of_ne different]
    exact owned.busy other spin before
  · intro other
    by_cases same : other = agent
    · subst same
      rw [held]
      exact once.2
    · rw [others other same]
      exact owned.once other
  · intro left right spin isLeft isRight
    exact owned.apart left right spin (still left spin isLeft).1 (still right spin isRight).1

/-- Handing spinlocks over to an agent that holds none. -/
theorem Owned.give {receiver : Agent Thread} {given kept : List Lock} (owned : state.Owned)
    (different : receiver ≠ agent)
    (none : (state.frames receiver).held = [])
    (splits : (state.frames agent).held = given ++ kept)
    (locks : next.locks = state.locks)
    (received : (next.frames receiver).held = given)
    (rest : (next.frames agent).held = kept)
    (others : ∀ other, other ≠ agent → other ≠ receiver →
      (next.frames other).held = (state.frames other).held) :
    next.Owned := by
  have once := owned.once agent
  rw [splits, List.nodup_append] at once
  have before : ∀ other spin, spin ∈ (next.frames other).held →
      ∃ owner, spin ∈ (state.frames owner).held ∧
        (owner = other ∨ (owner = agent ∧ other = receiver)) := by
    intro other spin present
    by_cases isAgent : other = agent
    · subst isAgent
      rw [rest] at present
      refine ⟨other, ?_, .inl rfl⟩
      rw [splits]
      exact List.mem_append_right given present
    · by_cases isReceiver : other = receiver
      · subst isReceiver
        rw [received] at present
        refine ⟨agent, ?_, .inr ⟨rfl, rfl⟩⟩
        rw [splits]
        exact List.mem_append_left kept present
      · rw [others other isAgent isReceiver] at present
        exact ⟨other, present, .inl rfl⟩
  constructor
  · intro other spin present
    obtain ⟨owner, isHeld, -⟩ := before other spin present
    rw [locks]
    exact owned.busy owner spin isHeld
  · intro other
    by_cases isAgent : other = agent
    · subst isAgent
      rw [rest]
      exact once.2.1
    · by_cases isReceiver : other = receiver
      · subst isReceiver
        rw [received]
        exact once.1
      · rw [others other isAgent isReceiver]
        exact owned.once other
  · have crossed : ∀ spin, spin ∈ given → spin ∉ kept := by
      intro spin isGiven isKept
      exact once.2.2 spin isGiven spin isKept rfl
    intro left right spin isLeft isRight
    obtain ⟨leftOwner, heldLeft, leftCase⟩ := before left spin isLeft
    obtain ⟨rightOwner, heldRight, rightCase⟩ := before right spin isRight
    obtain rfl := owned.apart leftOwner rightOwner spin heldLeft heldRight
    obtain rfl | ⟨rfl, rfl⟩ := leftCase
    · obtain rfl | ⟨rfl, rfl⟩ := rightCase
      · rfl
      · rw [rest] at isLeft
        rw [received] at isRight
        exact absurd isLeft (crossed spin isRight)
    · obtain rfl | ⟨-, rfl⟩ := rightCase
      · rw [received] at isLeft
        rw [rest] at isRight
        exact absurd isRight (crossed spin isLeft)
      · rfl

/-- Outside its handlers a CPU has nothing to release in them. -/
def HandlersDone (state : State Thread) : Prop :=
  ∀ cpu, (state.cores cpu).handler = none → state.frames (.handler cpu) = .empty

section

variable {cpu : Nat}

/-- How a handler returns. -/
theorem returnFromInterrupt_cases (taken : state.returnFromInterrupt cpu = some next) :
    state.frames (.handler cpu) = .empty ∧
      (((state.cores cpu).handler = some .timer ∧
          next = (state.setOuter cpu .null).returnToCode cpu) ∨
        ((state.cores cpu).handler = some .selfHalt ∧ next = state.returnToCode cpu)) := by
  unfold returnFromInterrupt at taken
  split at taken
  · rename_i done
    refine ⟨done, ?_⟩
    split at taken
    · cases taken
    · rename_i inTimer
      cases taken
      exact .inl ⟨inTimer, rfl⟩
    · rename_i halting
      cases taken
      exact .inr ⟨halting, rfl⟩
  · cases taken

/-- An interrupt from outside, or the return from one, leaves the spinlocks, what is held
and the other CPUs alone. -/
structure InterruptStep (cpu : Nat) (state next : State Thread) : Prop where
  locks : next.locks = state.locks
  frames : next.frames = state.frames
  cores : ∀ other ≠ cpu, next.cores other = state.cores other

theorem returnFromInterrupt_interruptStep
    (taken : state.returnFromInterrupt cpu = some next) : InterruptStep cpu state next := by
  obtain ⟨-, ⟨-, rfl⟩ | ⟨-, rfl⟩⟩ := returnFromInterrupt_cases taken
  · exact ⟨rfl, rfl, fun _ different => Function.update_of_ne different ..⟩
  · exact ⟨rfl, rfl, fun _ different => Function.update_of_ne different ..⟩

theorem Owned.interruptStep (owned : state.Owned) (steps : InterruptStep cpu state next) :
    next.Owned := by
  apply owned.congr
  · intro lock
    rw [steps.locks]
  · intro agent
    rw [steps.frames]

/-- A step inside `acquire_spinlock` or `release_spinlock` concerns one agent and, on
its CPU, the interrupt flag. -/
structure AgentStep (cpu : Nat) (agent : Agent Thread) (state next : State Thread) : Prop where
  frames : ∀ other ≠ agent, next.frames other = state.frames other
  cores : ∀ other ≠ cpu, next.cores other = state.cores other
  core : ∃ enabled, next.cores cpu = { state.cores cpu with enabled := enabled }
  flags : next.flags = state.flags

theorem AgentStep.handler (steps : AgentStep cpu agent state next) (other : Nat) :
    (next.cores other).handler = (state.cores other).handler := by
  by_cases same : other = cpu
  · subst same
    obtain ⟨enabled, core⟩ := steps.core
    rw [core]
  · rw [steps.cores other same]

theorem AgentStep.code (steps : AgentStep cpu agent state next) (other : Nat) :
    (next.cores other).code = (state.cores other).code := by
  by_cases same : other = cpu
  · subst same
    obtain ⟨enabled, core⟩ := steps.core
    rw [core]
  · rw [steps.cores other same]

/-- Who runs on a CPU. -/
theorem agent_eq_some_iff :
    state.agent cpu = some agent ↔
      ((state.cores cpu).handler = some .timer ∧ agent = .handler cpu) ∨
        ∃ thread, (state.cores cpu).handler = none ∧
          (state.cores cpu).code = .thread thread ∧ agent = .thread thread := by
  unfold State.agent
  constructor
  · intro runs
    split at runs <;> cases runs
    · rename_i inTimer
      exact .inl ⟨inTimer, rfl⟩
    · rename_i thread outside isThread
      exact .inr ⟨thread, outside, isThread, rfl⟩
  · rintro (⟨inTimer, rfl⟩ | ⟨thread, outside, isThread, rfl⟩)
    · rw [inTimer]
    · rw [outside, isThread]

/-- A step of an agent leaves the handlers alone that do not run. -/
theorem HandlersDone.agentStep (handlersDone : state.HandlersDone)
    (runs : state.agent cpu = some agent) (steps : AgentStep cpu agent state next) :
    next.HandlersDone := by
  intro other outside
  rw [steps.handler] at outside
  rw [steps.frames, handlersDone other outside]
  rintro rfl
  obtain ⟨inTimer, same⟩ | ⟨thread, -, -, same⟩ := agent_eq_some_iff.mp runs
  · cases same
    rw [inTimer] at outside
    cases outside
  · cases same

/-- The handlers of the other CPUs are left alone. -/
theorem HandlersDone.congr (handlersDone : state.HandlersDone)
    (frames : ∀ other ≠ cpu, next.frames (.handler other) = state.frames (.handler other))
    (cores : ∀ other ≠ cpu, next.cores other = state.cores other)
    (done : (next.cores cpu).handler = none → next.frames (.handler cpu) = .empty) :
    next.HandlersDone := by
  intro other outside
  by_cases same : other = cpu
  · subst same
    exact done outside
  · rw [cores other same] at outside
    rw [frames other same, handlersDone other outside]

theorem HandlersDone.interruptStep (handlersDone : state.HandlersDone)
    (steps : InterruptStep cpu state next) (done : state.frames (.handler cpu) = .empty) :
    next.HandlersDone := by
  apply handlersDone.congr
  · intro other _
    rw [steps.frames]
  · exact steps.cores
  · intro _
    rw [steps.frames, done]

end

section Steps

variable [DecidableEq Thread] {cpu : Nat} {tries : BitVec 64}

theorem Owned.acquireSpinlock (owned : state.Owned)
    (taken : state.acquireSpinlock cpu agent lock tries = some next) : next.Owned := by
  unfold State.acquireSpinlock at taken
  split at taken
  · obtain rfl := Option.some.inj taken
    exact owned.congr (fun _ => state.goto_locks ..) fun _ => state.goto_held ..
  · cases taken

theorem Owned.releaseSpinlock (owned : state.Owned)
    (taken : state.releaseSpinlock agent = some next) : next.Owned := by
  unfold State.releaseSpinlock at taken
  split at taken
  · rename_i lock older _ isHeld
    obtain rfl := Option.some.inj taken
    apply owned.release isHeld
    · rfl
    · rw [setFrame_frames, Function.update_self]
    · intro other different
      rw [setFrame_frames, Function.update_of_ne different, setLock_frames]
  · cases taken

/-- Only the exchange that obtains a spinlock changes what is held. -/
theorem Owned.advance (owned : state.Owned) (taken : state.advance cpu agent = some next) :
    next.Owned := by
  have moves : ∀ (middle : State Thread) (position : Position), middle.locks = state.locks →
      middle.frames = state.frames → (middle.goto agent position).Owned := by
    intro middle position sameLocks sameFrames
    apply owned.congr
    · intro lock
      rw [goto_locks, sameLocks]
    · intro other
      rw [goto_held, sameFrames]
  unfold State.advance at taken
  split at taken
  · cases taken
  · split at taken
    · obtain rfl := Option.some.inj taken
      exact moves _ _ rfl rfl
    · obtain rfl := Option.some.inj taken
      exact moves _ _ rfl rfl
  · obtain rfl := Option.some.inj taken
    exact moves _ _ rfl rfl
  · rename_i lock tries outer _
    cases free : (state.locks lock).busy with
    | false =>
        simp only [Spinlock.exchange_fst, free, Bool.not_false, if_true,
          Option.some.injEq] at taken
        subst taken
        apply owned.acquire free
        · rfl
        · rw [setFrame_frames, Function.update_self, setLock_frames]
        · intro other different
          rw [setFrame_frames, Function.update_of_ne different, setLock_frames]
    | true =>
        have same : state.setLock lock (state.locks lock).exchange.2 = state := by
          rw [Spinlock.exchange_of_busy free, setLock, Function.update_eq_self]
        simp only [Spinlock.exchange_fst, free, Bool.not_true, Bool.false_eq_true, if_false,
          same] at taken
        split at taken
        · obtain rfl := Option.some.inj taken
          exact moves _ _ rfl rfl
        · obtain rfl := Option.some.inj taken
          exact moves _ _ rfl rfl
  · obtain rfl := Option.some.inj taken
    exact moves _ _ rfl rfl
  · split at taken
    · obtain rfl := Option.some.inj taken
      exact moves _ _ rfl rfl
    · obtain rfl := Option.some.inj taken
      exact moves _ _ rfl rfl
  · obtain rfl := Option.some.inj taken
    exact moves _ _ rfl rfl
  · obtain rfl := Option.some.inj taken
    exact moves _ _ rfl rfl

/-- Interrupts and their ends leave the spinlocks and what is held alone. -/
theorem switchThread_same (dispatch : Option Thread) :
    (state.switchThread cpu dispatch).locks = state.locks ∧
      (state.switchThread cpu dispatch).frames = state.frames := by
  unfold switchThread saveContext
  split
  · exact ⟨rfl, rfl⟩
  · split <;> exact ⟨rfl, rfl⟩

theorem haltThread_same :
    (state.haltThread cpu).locks = state.locks ∧
      (state.haltThread cpu).frames = state.frames := by
  unfold haltThread saveContext
  split <;> exact ⟨rfl, rfl⟩

theorem switchThread_otherCores {dispatch : Option Thread} {other : Nat}
    (different : other ≠ cpu) :
    (state.switchThread cpu dispatch).cores other = state.cores other := by
  unfold switchThread saveContext
  split
  · exact Function.update_of_ne different ..
  · split <;> exact Function.update_of_ne different ..

theorem haltThread_otherCores {other : Nat} (different : other ≠ cpu) :
    (state.haltThread cpu).cores other = state.cores other := by
  unfold haltThread saveContext
  split <;> exact Function.update_of_ne different ..

/-- What the timer interrupt does. -/
theorem timerInterrupt_cases {dispatch : Option Thread} {fires : Bool}
    (taken : state.timerInterrupt cpus cpu dispatch fires = some next) :
    state.Interruptible cpu ∧
      (∀ thread, dispatch = some thread → ∀ other < cpus,
        (state.cores other).code ≠ .thread thread) ∧
      ((fires = true ∧ next = (state.switchThread cpu dispatch).enterTimerProc cpu) ∨
        (fires = false ∧ next = (state.switchThread cpu dispatch).returnToCode cpu)) := by
  unfold timerInterrupt at taken
  split at taken
  · rename_i can
    obtain ⟨interruptible, notRunning⟩ := can
    refine ⟨interruptible, notRunning, ?_⟩
    cases fires <;> cases taken
    · exact .inr ⟨rfl, rfl⟩
    · exact .inl ⟨rfl, rfl⟩
  · cases taken

/-- What the task interrupt does. -/
theorem taskInterrupt_cases {pauses : Bool}
    (taken : state.taskInterrupt cpu pauses = some next) :
    state.Interruptible cpu ∧
      ((pauses = true ∧ next = state.haltThread cpu) ∨ (pauses = false ∧ next = state)) := by
  unfold taskInterrupt at taken
  split at taken
  · rename_i interruptible
    refine ⟨interruptible, ?_⟩
    cases pauses <;> cases taken
    · exact .inr ⟨rfl, rfl⟩
    · exact .inl ⟨rfl, rfl⟩
  · cases taken

theorem timerInterrupt_interruptStep {dispatch : Option Thread} {fires : Bool}
    (taken : state.timerInterrupt cpus cpu dispatch fires = some next) :
    InterruptStep cpu state next := by
  have same : (state.switchThread cpu dispatch).locks = state.locks ∧
      (state.switchThread cpu dispatch).frames = state.frames := switchThread_same dispatch
  obtain ⟨-, -, ⟨-, rfl⟩ | ⟨-, rfl⟩⟩ := timerInterrupt_cases taken
  · refine ⟨same.1, same.2, fun other different => ?_⟩
    exact (Function.update_of_ne different ..).trans (switchThread_otherCores different)
  · refine ⟨same.1, same.2, fun other different => ?_⟩
    exact (Function.update_of_ne different ..).trans (switchThread_otherCores different)

theorem taskInterrupt_interruptStep {pauses : Bool}
    (taken : state.taskInterrupt cpu pauses = some next) : InterruptStep cpu state next := by
  obtain ⟨-, ⟨-, rfl⟩ | ⟨-, rfl⟩⟩ := taskInterrupt_cases taken
  · exact ⟨haltThread_same.1, haltThread_same.2, fun _ => haltThread_otherCores⟩
  · exact ⟨rfl, rfl, fun _ _ => rfl⟩

theorem enterSelfHalt_thread {thread : Thread} {lockToRelease : Option Lock} :
    (state.enterSelfHalt cpu thread lockToRelease).frames (.thread thread) =
      { state.frames (.thread thread) with
        held := (state.frames (.thread thread)).held.drop
          (givenLocks cpu lockToRelease).length } := by
  simp [enterSelfHalt]

theorem enterSelfHalt_handler {thread : Thread} {lockToRelease : Option Lock} :
    (state.enterSelfHalt cpu thread lockToRelease).frames (.handler cpu) =
      { held := givenLocks cpu lockToRelease, position := .idle } := by
  simp [enterSelfHalt]

theorem enterSelfHalt_other {thread : Thread} {lockToRelease : Option Lock}
    (notThread : agent ≠ .thread thread) (notHandler : agent ≠ .handler cpu) :
    (state.enterSelfHalt cpu thread lockToRelease).frames agent = state.frames agent := by
  simp [enterSelfHalt, notThread, notHandler]

theorem enterSelfHalt_core {thread : Thread} {lockToRelease : Option Lock} :
    (state.enterSelfHalt cpu thread lockToRelease).cores cpu =
      { enabled := false, code := .halt, handler := some .selfHalt, saved := true } := by
  simp [enterSelfHalt]

theorem selfHalt_eq_some {lockToRelease : Option Lock}
    (taken : state.selfHalt cpu lockToRelease = some next) :
    ∃ thread, (state.cores cpu).handler = none ∧ (state.cores cpu).code = .thread thread ∧
      (state.frames (.thread thread)).position = .idle ∧
      givenLocks cpu lockToRelease <+: (state.frames (.thread thread)).held ∧
      next = state.enterSelfHalt cpu thread lockToRelease := by
  unfold selfHalt at taken
  split at taken
  · rename_i thread outside isThread
    split at taken
    · rename_i ready
      cases taken
      exact ⟨thread, outside, isThread, ready.1, ready.2, rfl⟩
    · cases taken
  · cases taken

theorem Owned.selfHalt {lockToRelease : Option Lock} (owned : state.Owned)
    (handlersDone : state.HandlersDone)
    (taken : state.selfHalt cpu lockToRelease = some next) : next.Owned := by
  obtain ⟨thread, outside, -, -, ⟨kept, splits⟩, rfl⟩ := selfHalt_eq_some taken
  have different : Agent.handler cpu ≠ .thread thread := by
    intro same
    cases same
  refine owned.give different ?_ splits.symm rfl ?_ ?_ ?_
  · rw [handlersDone cpu outside, Frame.empty_held]
  · rw [enterSelfHalt_handler]
  · rw [enterSelfHalt_thread, ← splits, List.drop_left]
  · intro other notThread notHandler
    rw [enterSelfHalt_other notThread notHandler]

theorem handOver_eq_some (taken : state.handOver cpu = some next) :
    ∃ lock older, (state.cores cpu).handler = some .selfHalt ∧
      (state.frames (.handler cpu)).held = lock :: older ∧
      next = (state.setLock lock (state.locks lock).release).setFrame (.handler cpu)
        { state.frames (.handler cpu) with held := older } := by
  unfold handOver at taken
  split at taken
  · rename_i lock older halting isHeld
    cases taken
    exact ⟨lock, older, halting, isHeld, rfl⟩
  · cases taken

theorem Owned.handOver (owned : state.Owned) (taken : state.handOver cpu = some next) :
    next.Owned := by
  obtain ⟨lock, older, -, isHeld, rfl⟩ := handOver_eq_some taken
  apply owned.release isHeld
  · rfl
  · rw [setFrame_frames, Function.update_self]
  · intro other different
    rw [setFrame_frames, Function.update_of_ne different, setLock_frames]

theorem act_acquire :
    state.act cpus (.acquire cpu lock tries) = some next ↔
      ∃ agent, state.agent cpu = some agent ∧
        state.acquireSpinlock cpu agent lock tries = some next :=
  Option.bind_eq_some_iff

theorem act_release :
    state.act cpus (.release cpu) = some next ↔
      ∃ agent, state.agent cpu = some agent ∧ state.releaseSpinlock agent = some next :=
  Option.bind_eq_some_iff

theorem act_advance :
    state.act cpus (.advance cpu) = some next ↔
      ∃ agent, state.agent cpu = some agent ∧ state.advance cpu agent = some next :=
  Option.bind_eq_some_iff

/-- The agent moves to another position. -/
theorem AgentStep.goto {position : Position} (sameFrames : next.frames = state.frames)
    (cores : ∀ other ≠ cpu, next.cores other = state.cores other)
    (core : ∃ enabled, next.cores cpu = { state.cores cpu with enabled := enabled })
    (flags : next.flags = state.flags) :
    AgentStep cpu agent state (next.goto agent position) := by
  refine ⟨?_, cores, core, flags⟩
  intro other different
  rw [goto_frames, Function.update_of_ne different, sameFrames]

/-- The agent does not touch the interrupt flag. -/
theorem AgentStep.masked {frame : Frame} (sameFrames : next.frames = state.frames)
    (sameCores : next.cores = state.cores) (flags : next.flags = state.flags) :
    AgentStep cpu agent state (next.setFrame agent frame) := by
  refine ⟨?_, ?_, ⟨(state.cores cpu).enabled, ?_⟩, flags⟩
  · intro other different
    rw [setFrame_frames, Function.update_of_ne different, sameFrames]
  · intro other _
    rw [setFrame_cores, sameCores]
  · rw [setFrame_cores, sameCores]

theorem acquireSpinlock_agentStep
    (taken : state.acquireSpinlock cpu agent lock tries = some next) :
    AgentStep cpu agent state next := by
  unfold acquireSpinlock at taken
  split at taken
  · cases taken
    exact .masked rfl rfl rfl
  · cases taken

theorem releaseSpinlock_agentStep (taken : state.releaseSpinlock agent = some next) :
    AgentStep cpu agent state next := by
  unfold releaseSpinlock at taken
  split at taken
  · cases taken
    exact .masked rfl rfl rfl
  · cases taken

theorem advance_agentStep (taken : state.advance cpu agent = some next) :
    AgentStep cpu agent state next := by
  have toggled : ∀ enabled position,
      AgentStep cpu agent state ((state.setEnabled cpu enabled).goto agent position) := by
    intro enabled position
    refine .goto rfl ?_ ⟨enabled, ?_⟩ rfl
    · intro other different
      rw [setEnabled_cores, Function.update_of_ne different]
    · rw [setEnabled_cores, Function.update_self]
  unfold advance at taken
  split at taken
  · cases taken
  · split at taken <;> cases taken <;> exact .masked rfl rfl rfl
  · cases taken
    exact toggled ..
  · simp only at taken
    split at taken
    · cases taken
      exact .masked rfl rfl rfl
    · split at taken <;> cases taken <;> exact .masked rfl rfl rfl
  · cases taken
    exact .masked rfl rfl rfl
  · split at taken <;> cases taken <;> exact .masked rfl rfl rfl
  · cases taken
    exact .masked rfl rfl rfl
  · cases taken
    exact toggled ..

/-- No step of any CPU gives a spinlock to two agents. -/
theorem Owned.act {action : Action Thread} (owned : state.Owned)
    (handlersDone : state.HandlersDone) (taken : state.act cpus action = some next) :
    next.Owned := by
  cases action with
  | acquire cpu lock tries =>
      obtain ⟨agent, -, taken⟩ := act_acquire.mp taken
      exact owned.acquireSpinlock taken
  | release cpu =>
      obtain ⟨agent, -, taken⟩ := act_release.mp taken
      exact owned.releaseSpinlock taken
  | advance cpu =>
      obtain ⟨agent, -, taken⟩ := act_advance.mp taken
      exact owned.advance taken
  | timer cpu dispatch fires => exact owned.interruptStep (timerInterrupt_interruptStep taken)
  | task cpu pauses => exact owned.interruptStep (taskInterrupt_interruptStep taken)
  | selfHalt cpu lockToRelease => exact owned.selfHalt handlersDone taken
  | handOver cpu => exact owned.handOver taken
  | returnFromInterrupt cpu => exact owned.interruptStep (returnFromInterrupt_interruptStep taken)

theorem HandlersDone.act {action : Action Thread} (handlersDone : state.HandlersDone)
    (taken : state.act cpus action = some next) : next.HandlersDone := by
  cases action with
  | acquire cpu lock tries =>
      obtain ⟨agent, runs, taken⟩ := act_acquire.mp taken
      exact handlersDone.agentStep runs (acquireSpinlock_agentStep taken)
  | release cpu =>
      obtain ⟨agent, runs, taken⟩ := act_release.mp taken
      exact handlersDone.agentStep runs (releaseSpinlock_agentStep taken)
  | advance cpu =>
      obtain ⟨agent, runs, taken⟩ := act_advance.mp taken
      exact handlersDone.agentStep runs (advance_agentStep taken)
  | timer cpu dispatch fires =>
      obtain ⟨⟨-, outside⟩, -⟩ := timerInterrupt_cases taken
      exact handlersDone.interruptStep (timerInterrupt_interruptStep taken)
        (handlersDone cpu outside)
  | task cpu pauses =>
      obtain ⟨⟨-, outside⟩, -⟩ := taskInterrupt_cases taken
      exact handlersDone.interruptStep (taskInterrupt_interruptStep taken)
        (handlersDone cpu outside)
  | selfHalt cpu lockToRelease =>
      obtain ⟨thread, -, -, -, -, rfl⟩ := selfHalt_eq_some taken
      apply handlersDone.congr
      · intro other different
        apply enterSelfHalt_other
        · intro same
          cases same
        · intro same
          cases same
          exact different rfl
      · intro other different
        exact Function.update_of_ne different ..
      · intro outside
        rw [enterSelfHalt_core] at outside
        cases outside
  | handOver cpu =>
      obtain ⟨lock, older, halting, -, rfl⟩ := handOver_eq_some taken
      apply handlersDone.congr
      · intro other different
        rw [setFrame_frames, Function.update_of_ne, setLock_frames]
        intro same
        cases same
        exact different rfl
      · intro other _
        rfl
      · intro outside
        rw [setFrame_cores, setLock_cores, halting] at outside
        cases outside
  | returnFromInterrupt cpu =>
      exact handlersDone.interruptStep (returnFromInterrupt_interruptStep taken)
        (returnFromInterrupt_cases taken).1

/-- Whatever interrupts do, no two agents hold the same spinlock. -/
theorem owned_of_reachable (reached : (system Thread cpus).Reachable state) :
    state.Owned ∧ state.HandlersDone := by
  apply reached.invariant
  · rintro _ rfl
    constructor
    · constructor
      · intro agent lock isHeld
        cases isHeld
      · intro agent
        exact List.nodup_nil
      · intro agent other lock isHeld
        cases isHeld
    · intro cpu _
      rfl
  · rintro current action after ⟨owned, handlersDone⟩ taken
    obtain ⟨-, taken⟩ := Option.ite_none_right_eq_some.mp taken
    exact ⟨owned.act handlersDone taken, handlersDone.act taken⟩

end Steps

end State
end Masking
end ToyKernel
