import ToyKernel.Scheduler.LifeCycle

/-!
# Stale thread ids

The scheduler numbers the attached threads with a counter of twelve bits.  An id is
accepted exactly while its thread is attached under the same stamp: a stale id is
rejected unless a multiple of 4096 attachments lies between its own and the latest
one of its thread.
-/

namespace ToyKernel
namespace Scheduler

/-! ## Histories of attachments -/

/-- The scheduler with the successful attachments so far and the ids returned for them,
oldest first. -/
structure History where
  world : World
  log : List (Address × BitVec 64)

/-- What a step adds to the log. -/
def World.attachment (platform : Platform) (world : World) : Action → List (Address × BitVec 64)
  | .attach _ thread =>
      match attachThread platform world.state thread with
      | (_, .errNone, some id) => [(thread, id)]
      | _ => []
  | _ => []

/-- The scheduler, keeping the log. -/
def historySystem (platform : Platform) : TransitionSystem History Action where
  initial history := history.world.Initial ∧
    history.world.state.stamp < 2 ^ stampIdStampBits ∧ history.log = []
  step history action :=
    (history.world.step platform action).map fun next =>
      ⟨next, history.log ++ history.world.attachment platform action⟩

/-- The latest attachment of a thread is the one with this number. -/
def Latest (log : List (Address × BitVec 64)) (thread : Address) (number : Nat) : Prop :=
  (∃ id, log[number]? = some (thread, id)) ∧
    ∀ later id, number < later → log[later]? ≠ some (thread, id)

/-- The ids and the stamps are those of the attachments, counted from the initial stamp. -/
structure History.Numbered (history : History) (first : Nat) : Prop where
  next : history.world.state.stamp = (first + history.log.length) % 2 ^ stampIdStampBits
  ids : ∀ number thread id, history.log[number]? = some (thread, id) →
    thread ≠ 0 ∧ id = getStampId thread ((first + number) % 2 ^ stampIdStampBits)
  stamps : ∀ thread, history.world.attached thread = true →
    ∃ number, Latest history.log thread number ∧
      (history.world.state.threads thread).stamp = (first + number) % 2 ^ stampIdStampBits

section Latest

variable {log : List (Address × BitVec 64)} {thread other : Address} {number : Nat}
  {id : BitVec 64}

/-- A thread has at most one latest attachment. -/
theorem Latest.unique {number' : Nat} (latest : Latest log thread number)
    (latest' : Latest log thread number') : number = number' := by
  obtain ⟨⟨id, entry⟩, newest⟩ := latest
  obtain ⟨⟨id', entry'⟩, newest'⟩ := latest'
  rcases Nat.lt_trichotomy number number' with before | same | after
  · exact absurd entry' (newest number' id' before)
  · exact same
  · exact absurd entry (newest' number id after)

/-- The attachment of another thread leaves it the latest. -/
theorem Latest.append (latest : Latest log thread number) (different : thread ≠ other) :
    Latest (log ++ [(other, id)]) thread number := by
  obtain ⟨⟨entry, found⟩, newest⟩ := latest
  refine ⟨⟨entry, ?_⟩, ?_⟩
  · obtain ⟨below, -⟩ := List.getElem?_eq_some_iff.mp found
    rw [List.getElem?_append_left below]
    exact found
  · intro later laterId after present
    rcases Nat.lt_or_ge later log.length with below | beyond
    · rw [List.getElem?_append_left below] at present
      exact newest later laterId after present
    · rw [List.getElem?_append_right beyond] at present
      obtain ⟨_, last⟩ := List.getElem?_eq_some_iff.mp present
      simp only [List.getElem_singleton, Prod.mk.injEq] at last
      exact different last.1.symm

/-- The newest attachment is the latest of its thread. -/
theorem latest_append_self : Latest (log ++ [(thread, id)]) thread log.length := by
  refine ⟨⟨id, List.getElem?_concat_length⟩, ?_⟩
  intro later laterId after
  rw [List.getElem?_eq_none (by simp; omega)]
  exact Option.some_ne_none _ |>.symm

end Latest

section Steps

variable {platform : Platform} {summary : Summary} {world next : World} {action : Action}

/-- A step attaches one thread or leaves the stamps alone. -/
theorem World.attachment_cases (refines : Refines world.state summary)
    (invariant : Invariant platform world.attached summary)
    (taken : world.step platform action = some next) :
    (∃ cpu thread, action = .attach cpu thread ∧ thread ≠ 0 ∧
      checkAttach platform world.state thread = .errNone) ∨
    world.attachment platform action = [] ∧ next.state.stamp = world.state.stamp ∧
      ∀ thread, next.attached thread = true → world.attached thread = true := by
  by_cases attaches : ∃ cpu thread, action = .attach cpu thread
  · obtain ⟨cpu, thread, rfl⟩ := attaches
    obtain ⟨sameState, sameAttached⟩ := World.step_attach taken
    by_cases accepted : checkAttach platform world.state thread = .errNone
    · obtain ⟨_, done, _⟩ := Option.bind_eq_some_iff.mp taken
      obtain ⟨⟨_, notNull⟩, _⟩ := Option.ite_none_right_eq_some.mp done
      exact .inl ⟨cpu, thread, rfl, notNull, accepted⟩
    · rw [attachThread_refused accepted] at sameState sameAttached
      rw [if_neg accepted] at sameAttached
      refine .inr ⟨?_, by rw [sameState], fun _ => by rw [sameAttached]; exact id⟩
      simp only [World.attachment, attachThread_refused accepted]
      split
      · rename_i same
        simp only [Prod.mk.injEq] at same
        exact absurd same.2.1 accepted
      · rfl
  · have notAttach : ∀ cpu thread, action ≠ .attach cpu thread := by
      rintro cpu thread rfl
      exact attaches ⟨cpu, thread, rfl⟩
    refine .inr ⟨?_, World.step_stamp taken notAttach, ?_⟩
    · cases action with
      | attach cpu thread => exact absurd rfl (notAttach cpu thread)
      | _ => rfl
    · intro thread isAttached
      obtain ⟨-, summary', -, moves⟩ := step_moves refines invariant taken
      by_contra unattached
      obtain ⟨cpu, same⟩ := moves.attaches (Bool.not_eq_true _ ▸ unattached) isAttached
      exact notAttach cpu thread same

/-- The thread that was attached has the stamp that was next. -/
theorem attachThread_threads {state : State} {thread : Address}
    {attached : Address → Bool} (refines : Refines state summary)
    (invariant : Invariant platform attached summary)
    (accepted : checkAttach platform state thread = .errNone) :
    ((attachThread platform state thread).1.threads thread).stamp = state.stamp := by
  obtain ⟨-, -, refinesAfter⟩ := attachThread_accepted refines invariant accepted
  rw [← ThreadData.core_stamp, refinesAfter.thread, Summary.attach, Summary.setThread_threads,
    if_pos rfl]

/-- The stamps of the threads that stay attached do not change. -/
theorem World.step_threadStamp {thread : Address} (refines : Refines world.state summary)
    (invariant : Invariant platform world.attached summary)
    (taken : world.step platform action = some next)
    (isAttached : world.attached thread = true) :
    (next.state.threads thread).stamp = (world.state.threads thread).stamp := by
  obtain ⟨-, summary', refinesNext, moves⟩ := step_moves refines invariant taken
  rw [← ThreadData.core_stamp, refinesNext.thread, (moves.kept isAttached).2, ← refines.thread,
    ThreadData.core_stamp]

/-- A successful `attach_thread` logs the id that it returns. -/
theorem World.attachment_accepted {thread : Address} {cpu : Nat}
    (refines : Refines world.state summary)
    (invariant : Invariant platform world.attached summary)
    (accepted : checkAttach platform world.state thread = .errNone) :
    world.attachment platform (.attach cpu thread) =
      [(thread, getStampId thread world.state.stamp)] := by
  have sameStamp := attachThread_threads refines invariant accepted
  simp only [attachThread, accepted] at sameStamp
  simp only [World.attachment, attachThread, accepted, sameStamp]

theorem History.Numbered.step {history after : History} {first : Nat}
    (numbered : history.Numbered first) (refines : Refines history.world.state summary)
    (invariant : Invariant platform history.world.attached summary)
    (taken : (historySystem platform).step history action = some after) :
    after.Numbered first := by
  obtain ⟨next, stepped, rfl⟩ := Option.map_eq_some_iff.mp taken
  rcases World.attachment_cases refines invariant stepped with
    ⟨cpu, thread, rfl, notNull, accepted⟩ | ⟨nothing, sameStamp, noneAttached⟩
  · obtain ⟨sameState, sameAttached⟩ := World.step_attach stepped
    obtain ⟨succeeded, -, -⟩ := attachThread_accepted refines invariant accepted
    rw [World.attachment_accepted refines invariant accepted]
    constructor
    · simp only [sameState, attachThread_stamp accepted, numbered.next, List.length_append,
        List.length_singleton, Nat.mod_add_mod, Nat.add_assoc]
    · intro number other id entry
      rcases Nat.lt_or_ge number history.log.length with below | beyond
      · rw [List.getElem?_append_left below] at entry
        exact numbered.ids number other id entry
      · rw [List.getElem?_append_right beyond] at entry
        obtain ⟨last, same⟩ := List.getElem?_eq_some_iff.mp entry
        simp only [List.getElem_singleton, Prod.mk.injEq, List.length_singleton] at same last
        obtain ⟨rfl, rfl⟩ := same
        obtain rfl : number = history.log.length := by omega
        exact ⟨notNull, by rw [numbered.next]⟩
    · intro other isAttached
      by_cases same : other = thread
      · subst same
        refine ⟨history.log.length, latest_append_self, ?_⟩
        simp only [sameState, attachThread_threads refines invariant accepted, numbered.next]
      · simp only [sameAttached, if_pos succeeded, Function.update_of_ne same] at isAttached
        obtain ⟨number, latest, stamp⟩ := numbered.stamps other isAttached
        refine ⟨number, latest.append same, ?_⟩
        rw [← stamp]
        exact World.step_threadStamp refines invariant stepped isAttached
  · rw [nothing, List.append_nil]
    refine ⟨sameStamp.trans numbered.next, numbered.ids, ?_⟩
    intro thread isAttached
    obtain ⟨number, latest, stamp⟩ := numbered.stamps thread (noneAttached thread isAttached)
    refine ⟨number, latest, ?_⟩
    rw [← stamp]
    exact World.step_threadStamp refines invariant stepped (noneAttached thread isAttached)

end Steps

/-- The ids and the stamps are numbered in every reachable state. -/
theorem numbered_of_reachable {platform : Platform} {history : History}
    (reached : (historySystem platform).Reachable history) :
    Sound platform history.world ∧ ∃ first, history.Numbered first := by
  have starts : ∀ history, (historySystem platform).initial history →
      Sound platform history.world ∧ ∃ first, history.Numbered first := by
    rintro history ⟨initially, small, empty⟩
    have sound : Sound platform history.world :=
      ⟨_, World.Initial.refines initially, World.Initial.invariant initially platform⟩
    refine ⟨sound, history.world.state.stamp, ?_, ?_, ?_⟩
    · rw [empty, List.length_nil, Nat.add_zero, Nat.mod_eq_of_lt small]
    · intro number thread id entry
      rw [empty, List.getElem?_nil] at entry
      cases entry
    · intro thread isAttached
      rw [World.Initial.attached initially] at isAttached
      cases isAttached
  refine reached.invariant starts ?_
  rintro history action after ⟨⟨summary, refines, invariant⟩, first, numbered⟩ taken
  have numberedAfter := numbered.step refines invariant taken
  obtain ⟨next, stepped, rfl⟩ := Option.map_eq_some_iff.mp taken
  obtain ⟨-, summary', refinesNext, moves⟩ := step_moves refines invariant stepped
  exact ⟨⟨summary', refinesNext, moves.invariant refines invariant⟩, first, numberedAfter⟩

/-! ## What the calls do with an id -/

/-- The calls take an id as referring to a thread. -/
structure Accepted (platform : Platform) (state : State) (id : BitVec 64) (thread : Address) :
    Prop where
  refers : withStampId state id = .ok thread
  resume : ∀ caller after err, resumeThread platform state caller id = some (after, err) →
    err = .errNone ∨ err = .errBadState
  pause : ∀ caller after err, pauseThread platform state caller id = some (after, err) →
    err = .errNone ∨ err = .errBadState
  stop : ∀ caller output after err,
    stopThread platform state caller id output = some (after, err) →
      err = .errNone ∨ err = .errBadState
  detach : (∃ after, detachThread state id = (after, .errNone, some thread)) ∨
    detachThread state id = (state, .errBadState, none)

/-- The calls reject an id with an error and change nothing. -/
structure Rejected (platform : Platform) (state : State) (id : BitVec 64) (err : ErrCode) :
    Prop where
  unknown : withStampId state id = .error err
  resume : ∀ caller, resumeThread platform state caller id = some (state, err)
  pause : ∀ caller, pauseThread platform state caller id = some (state, err)
  stop : ∀ caller output, stopThread platform state caller id output = some (state, err)
  detach : detachThread state id = (state, err, none)

section Answers

variable {platform : Platform} {state : State} {summary : Summary}
  {attached : Address → Bool} {id : BitVec 64} {thread : Address} {err : ErrCode}

theorem deactivateThread_answers {caller : Nat} {stop : Bool} {output : BitVec 64}
    {lockToRelease : Option Address} {after : State} (refines : Refines state summary)
    (invariant : Invariant platform attached summary) (found : withStampId state id = .ok thread)
    (done : deactivateThread platform state caller stop id output lockToRelease =
      some (after, err)) : err = .errNone ∨ err = .errBadState := by
  obtain ⟨summary', -, deactivated⟩ := deactivateThread_deactivated refines invariant done
  cases deactivated with
  | unknown unknown =>
      rw [found] at unknown
      cases unknown
  | refused => exact .inr rfl
  | stopped => exact .inl rfl
  | halted => exact .inl rfl

theorem accepted_of_withStampId (refines : Refines state summary)
    (invariant : Invariant platform attached summary)
    (found : withStampId state id = .ok thread) : Accepted platform state id thread where
  refers := found
  resume caller after err done := by
    obtain ⟨summary', -, resumed⟩ := resumeThread_resumed refines invariant done
    cases resumed with
    | unknown unknown =>
        rw [found] at unknown
        cases unknown
    | refused => exact .inr rfl
    | resumed => exact .inl rfl
  pause caller after err done := deactivateThread_answers refines invariant found done
  stop caller output after err done := deactivateThread_answers refines invariant found done
  detach := by
    by_cases idle : (summary.threads thread).state = .paused ∨
        (summary.threads thread).state = .stopped
    · obtain ⟨after, done, -⟩ := detachThread_accepted refines invariant found idle
      exact .inl ⟨after, done⟩
    · exact .inr (detachThread_refused refines found idle)

theorem rejected_of_withStampId (unknown : withStampId state id = .error err) :
    Rejected platform state id err where
  unknown := unknown
  resume caller := by simp only [resumeThread, unknown]
  pause caller := by simp only [pauseThread, deactivateThread, unknown]
  stop caller output := by simp only [stopThread, deactivateThread, unknown]
  detach := by simp only [detachThread, unknown]

/-- What `WITH_STAMP_ID` finds for the id of a thread with any stamp. -/
theorem withStampId_getStampId {stamp : Nat} (refines : Refines state summary)
    (invariant : Invariant platform attached summary) (below : thread.toNat < 2 ^ 52)
    (small : stamp < 2 ^ stampIdStampBits) :
    withStampId state (getStampId thread stamp) =
      if attached thread = false then .error .errNotFound
      else if (state.threads thread).stamp ≠ stamp then .error .errExpired
      else .ok thread := by
  have magic : (state.threads thread).magic = threadMagic ↔ attached thread = true := by
    rw [← ThreadData.core_magic, refines.thread]
    exact (invariant.threads thread).magic
  rw [withStampId, stampIdTarget_getStampId below small]
  simp only [ne_eq, magic, Bool.not_eq_true]

end Answers

/-- An id is accepted if and only if its thread is attached and the latest attachment of
the thread is a multiple of 4096 attachments after the one that gave the id. -/
theorem staleIds_of_reachable {platform : Platform} {history : History} {number : Nat}
    {thread : Address} {id : BitVec 64} (reached : (historySystem platform).Reachable history)
    (issued : history.log[number]? = some (thread, id)) (below : thread.toNat < 2 ^ 52) :
    id ≠ 0 ∧
    (Accepted platform history.world.state id thread ↔
      history.world.attached thread = true ∧
        ∃ latest, Latest history.log thread latest ∧ latest % 4096 = number % 4096) ∧
    (history.world.attached thread = false →
      Rejected platform history.world.state id .errNotFound) ∧
    (history.world.attached thread = true →
      (∀ latest, Latest history.log thread latest → latest % 4096 ≠ number % 4096) →
        Rejected platform history.world.state id .errExpired) := by
  obtain ⟨⟨summary, refines, invariant⟩, first, numbered⟩ := numbered_of_reachable reached
  obtain ⟨notNull, rfl⟩ := numbered.ids number thread id issued
  have small : (first + number) % 2 ^ stampIdStampBits < 2 ^ stampIdStampBits :=
    Nat.mod_lt _ (by decide)
  have found := withStampId_getStampId refines invariant below small
  have congruent : ∀ latest, (first + latest) % 2 ^ stampIdStampBits =
      (first + number) % 2 ^ stampIdStampBits ↔ latest % 4096 = number % 4096 := by
    intro latest
    simp only [stampIdStampBits]
    omega
  refine ⟨getStampId_ne_zero below small notNull, ⟨?_, ?_⟩, ?_, ?_⟩
  · intro accepted
    have refers := accepted.refers
    rw [found] at refers
    split at refers
    · cases refers
    · rename_i isAttached
      rw [Bool.not_eq_false] at isAttached
      obtain ⟨latest, isLatest, stamp⟩ := numbered.stamps thread isAttached
      split at refers
      · cases refers
      · rename_i sameStamp
        rw [not_not, stamp, congruent] at sameStamp
        exact ⟨isAttached, latest, isLatest, sameStamp⟩
  · rintro ⟨isAttached, latest, isLatest, same⟩
    obtain ⟨latest', isLatest', stamp⟩ := numbered.stamps thread isAttached
    obtain rfl := isLatest.unique isLatest'
    rw [← congruent, ← stamp] at same
    rw [if_neg (by simp [isAttached]), if_neg (by simp [same])] at found
    exact accepted_of_withStampId refines invariant found
  · intro unattached
    rw [if_pos unattached] at found
    exact rejected_of_withStampId found
  · intro isAttached stale
    obtain ⟨latest, isLatest, stamp⟩ := numbered.stamps thread isAttached
    have different := stale latest isLatest
    rw [ne_eq, ← congruent, ← stamp] at different
    rw [if_neg (by simp [isAttached]), if_pos different] at found
    exact rejected_of_withStampId found

/-- A thread is attached twice, and its first id is expired. -/
theorem staleIds_of_reachable_expired :
    ∃ history, (historySystem twoCpus).exec ⟨bootWorld, []⟩
        [.attach 0 0x10000, .detach 0 0x10000, .attach 1 0x10000] = some history ∧
      Rejected twoCpus history.world.state 0x10000 .errExpired := by
  have checked : (do
      let history ← (historySystem twoCpus).exec ⟨bootWorld, []⟩
        [.attach 0 0x10000, .detach 0 0x10000, .attach 1 0x10000]
      some (decide (history.world.attached 0x10000 = true ∧
        history.log = [(0x10000, 0x10000), (0x10000, 0x10000000010000)]))) = some true := by
    decide +kernel
  obtain ⟨history, executed, holds⟩ := Option.bind_eq_some_iff.mp checked
  obtain ⟨isAttached, log⟩ := of_decide_eq_true (Option.some.inj holds)
  have reached := TransitionSystem.reachable_of_exec
    (show (historySystem twoCpus).initial ⟨bootWorld, []⟩ from
      ⟨bootWorld_initial, by decide, rfl⟩) executed
  have issued : history.log[0]? = some (0x10000, 0x10000) := by rw [log]; rfl
  obtain ⟨-, -, -, expires⟩ := staleIds_of_reachable reached issued (by decide)
  refine ⟨history, executed, expires isAttached ?_⟩
  intro latest isLatest
  have second : Latest history.log 0x10000 1 := by
    rw [log]
    have appended : Latest ([(0x10000, 0x10000)] ++ [(0x10000, 0x10000000010000)]) 0x10000 1 :=
      latest_append_self
    exact appended
  obtain rfl := isLatest.unique second
  decide

end Scheduler
end ToyKernel
