import ToyKernel.Boot.ApSteps

/-!
# Booting is safe

The invariant holds in every state, however the processors and the interrupts between them
interleave.  So the processors use the shared stack one after the other, none of them gets lost,
and the boot processor goes on only when all have reported.
-/

namespace ToyKernel
namespace Boot

open ApicTimer CpuInfo Interrupts

variable {platform : Platform} {state next : State} {point : BspPoint} {cpu other : Nat}
  {source target : ApPoint} {ipis : List Ipi}

/-! ## Interrupts that arrive -/

/-- Points that differ in nothing that the invariant mentions. -/
structure ApPoint.Alike (source target : ApPoint) : Prop where
  counted : target.counted = source.counted
  rsp : target.rsp = source.rsp
  returns : target.returns = source.returns
  loaded : target.loaded = source.loaded
  locks : target.locks = source.locks
  stores : ∀ rsp count, target = .storeCount rsp count → source = .storeCount rsp count

theorem ApPoint.Alike.refl (point : ApPoint) : point.Alike point :=
  ⟨rfl, rfl, rfl, rfl, rfl, fun _ _ => id⟩

theorem ApPoint.alike_reset : ApPoint.Alike .off .waitForStartup :=
  ⟨rfl, rfl, rfl, rfl, rfl, nofun⟩

theorem ApPoint.alike_startup : ApPoint.Alike .waitForStartup .entering :=
  ⟨rfl, rfl, rfl, rfl, rfl, nofun⟩

/-- The oldest interrupt arrives at a processor. -/
theorem SoundAt.arrive (sound : SoundAt platform state point) (alike : (state.ap cpu).Alike target)
    (inStage : InStage target ipis (stageOf platform.places point cpu)) :
    SoundAt platform (State.gotoAp { state with
      pending := Function.update state.pending cpu ipis } cpu target) point := by
  generalize isNext : State.gotoAp { state with
    pending := Function.update state.pending cpu ipis } cpu target = next
  have ap : next.ap = Function.update state.ap cpu target := isNext ▸ rfl
  have pending : next.pending = Function.update state.pending cpu ipis := isNext ▸ rfl
  have counted : next.startedCpus = state.startedCpus := isNext ▸ rfl
  have stays : ∀ other, (state.ap other).Alike (next.ap other) := by
    intro other
    rw [ap]
    obtain rfl | different := eq_or_ne other cpu
    · rw [Function.update_self]
      exact alike
    · rw [Function.update_of_ne different]
      exact .refl _
  refine ⟨fun other => ?_, sound.fits.congr (isNext ▸ rfl) (isNext ▸ rfl), ?_,
    fun other notBsp => ?_, sound.tables.same (isNext ▸ rfl) (isNext ▸ rfl)⟩
  · rw [ap, pending]
    obtain rfl | different := eq_or_ne other cpu
    · rw [Function.update_self, Function.update_self]
      exact inStage
    · rw [Function.update_of_ne different, Function.update_of_ne different]
      exact sound.stages other
  · rw [counted, (stays _).counted]
    exact sound.count
  · have holds := sound.locals other notBsp
    have same := stays other
    refine ⟨?_, ?_, ?_, ?_, ?_, fun rsp count isStoring => ?_⟩
    · rw [same.loaded, ← holds.registers, ← isNext]
      rfl
    · rw [same.rsp]
      exact holds.rsp
    · rw [same.returns, ← isNext]
      exact holds.returns
    · rw [same.loaded, ← holds.enabled, ← isNext]
      rfl
    · rw [same.locks, ← isNext]
      exact holds.locks
    · rw [counted]
      exact holds.count rsp count (same.stores rsp count isStoring)

theorem receive_init {ipi : Ipi} (isInit : ipi.delivery = .init) :
    receive state source ipi = .waitForStartup := by
  unfold receive
  rw [isInit]

/-- A startup is ignored by a processor that does not wait for one. -/
theorem receive_ignored {ipi : Ipi} (isStartup : ipi.delivery = .startup)
    (begun : source ≠ .waitForStartup) : receive state source ipi = source := by
  unfold receive
  rw [isStartup]
  cases source with
  | waitForStartup => exact absurd rfl begun
  | _ => rfl

/-- The boot processor starts a processor only when the trampoline is in its place. -/
theorem SoundAt.starts (sound : SoundAt platform state point)
    (isStarted : stageOf platform.places point cpu = .started) : Starts platform state cpu := by
  obtain ⟨isCurrent, notBsp⟩ := stageOf_started isStarted
  rw [isCurrent, stageOf_current platform.places point (isCurrent ▸ notBsp)] at isStarted
  have fits := sound.fits
  cases point with
  | startupHigh cpu cpus attempt | startupLow cpu cpus attempt
  | retryHalt cpu cpus attempt timeout | check cpu cpus attempt timeout =>
      exact isCurrent.symm ▸ fits.1
  | failed cpu => exact isCurrent.symm ▸ fits
  | initInterrupts | setSpuriousIsr | setEmptyTimerIsr | sti | startApCpus | nextCpu _
  | initHigh _ | initLow _ | initHalt _ | readCount _ | setTimerIsr | setTaskIsr | createLock
  | booted | noMemory | lost => cases isStarted

/-- Each interrupt that arrives keeps the invariant. -/
theorem SoundAt.deliver (sound : SoundAt platform state point)
    (taken : deliver state cpu = some next) : SoundAt platform next point := by
  have inStage := sound.stages cpu
  rw [Boot.deliver] at taken
  split at taken
  · cases taken
  · rename_i ipi ipis isPending
    obtain rfl := Option.some.inj taken
    rw [isPending] at inStage
    generalize isStage : stageOf platform.places point cpu = stage at inStage
    cases stage with
    | untouched => cases inStage.2
    | reset =>
        obtain ⟨isOff, first, isInit, same⟩ | ⟨-, none⟩ := inStage
        · obtain ⟨rfl, rfl⟩ := List.cons.inj same
          rw [receive_init isInit]
          exact sound.arrive (isOff ▸ ApPoint.alike_reset) (isStage ▸ .inr ⟨rfl, rfl⟩)
        · cases none
    | started =>
        obtain ⟨isOff, first, rest, isInit, same, startups⟩ | ⟨notOff, notLost, startups⟩ := inStage
        · obtain ⟨rfl, rfl⟩ := List.cons.inj same
          rw [receive_init isInit]
          exact sound.arrive (isOff ▸ ApPoint.alike_reset)
            (isStage ▸ .inr ⟨nofun, nofun, startups⟩)
        · obtain ⟨⟨isStartup, vector⟩, later⟩ := List.forall_mem_cons.mp startups
          by_cases waits : state.ap cpu = .waitForStartup
          · have enters : receive state (state.ap cpu) ipi = .entering := by
              unfold receive
              rw [isStartup, waits]
              exact if_pos ⟨(sound.starts isStage).trampoline, by rw [vector]; rfl⟩
            rw [enters]
            exact sound.arrive (waits ▸ ApPoint.alike_startup)
              (isStage ▸ .inr ⟨nofun, nofun, later⟩)
          · rw [receive_ignored isStartup waits]
            exact sound.arrive (.refl _) (isStage ▸ .inr ⟨notOff, notLost, later⟩)
    | reported =>
        obtain ⟨counted, startups⟩ := inStage
        obtain ⟨⟨isStartup, -⟩, later⟩ := List.forall_mem_cons.mp startups
        rw [receive_ignored isStartup (by rintro waits; rw [waits] at counted; cases counted)]
        exact sound.arrive (.refl _) (isStage ▸ ⟨counted, later⟩)

theorem deliver_bsp (taken : deliver state cpu = some next) : next.bsp = state.bsp := by
  unfold Boot.deliver at taken
  split at taken
  · cases taken
  · obtain rfl := Option.some.inj taken
    rfl

/-! ## All steps -/

/-- So do writes outside the tables. -/
theorem SoundAt.write (sound : SoundAt platform state point) {address : BitVec 64}
    (outside : Tables.Outside platform.places address) (byte : BitVec 8) :
    SoundAt platform (state.setTables { state.tables with
      memory := state.tables.memory.store address byte }) point where
  stages := sound.stages
  fits := sound.fits.congr rfl rfl
  count := sound.count
  locals other notBsp :=
    have holds := sound.locals other notBsp
    ⟨holds.registers, holds.rsp, holds.returns, holds.enabled, holds.locks, holds.count⟩
  tables := by
    have tables := sound.tables
    have taken : (tableSystem platform.places platform.defaultIsr).step state.tables
        (.write address byte) = some { state.tables with
          memory := state.tables.memory.store address byte } := if_pos outside
    refine ⟨tables.reachable.extend taken, tables.loaded, tables.enabled,
      fun vector handled => ?_⟩
    rw [State.setTables, Tables.getIsr_write outside byte (point.handles_lt vector handled)]
    exact tables.handles vector handled

/-- Each step of the machine keeps the invariant. -/
theorem Sound.step {action : Action} (proper : platform.Proper) (sound : Sound platform state)
    (taken : step platform state action = some next) : Sound platform next := by
  cases action with
  | bsp => exact sound.bspStep proper taken
  | ap cpu =>
      obtain ⟨inside, taken⟩ := Option.ite_none_right_eq_some.mp taken
      rw [Sound, (apStep_moves taken).1]
      exact SoundAt.apStep proper sound inside taken
  | deliver cpu =>
      rw [Sound, deliver_bsp taken]
      exact SoundAt.deliver sound taken
  | write address byte =>
      obtain ⟨outside, isNext⟩ := Option.ite_none_right_eq_some.mp taken
      obtain rfl := Option.some.inj isNext
      exact SoundAt.write sound outside byte

theorem sound_of_initial (initial : Initial platform state) : Sound platform state := by
  rw [Sound, initial.bsp]
  have idle : ∀ cpu, stageOf platform.places .initInterrupts cpu = .untouched := by
    intro cpu
    rw [stageOf]
    exact (ite_eq_left_iff.mpr fun _ => (if_neg (Nat.not_lt_zero cpu)).trans (ite_self _))
  refine ⟨fun cpu => ?_, trivial, ?_, fun cpu notBsp => ?_, ⟨.initial initial.tables, ?_, ?_, ?_⟩⟩
  · rw [idle]
    exact ⟨initial.ap cpu, initial.pending cpu⟩
  · rw [initial.startedCpus, initial.ap]
    show 1 = countBelow platform.places.bspCpu 0 + 0
    rw [countBelow, if_pos (Nat.zero_le _)]
  · have isOff := initial.ap cpu
    refine ⟨?_, ?_, ?_, ?_, ?_, ?_⟩
    · rw [initial.tables.2 cpu, isOff]
      rfl
    · rw [isOff]
      exact fun _ isRsp => absurd isRsp (Option.not_mem_none _)
    · rw [isOff]
      exact fun returns => absurd returns Bool.false_ne_true
    · rw [isOff]
      exact Bool.eq_false_iff.mpr fun enabled => notBsp ((initial.enabled cpu).mp enabled)
    · rw [isOff]
      exact fun locks => absurd locks Bool.false_ne_true
    · intro _ _ isStoring
      cases isOff.symm.trans isStoring
  · rw [initial.tables.2]
    exact iff_of_false Bool.false_ne_true (absurd rfl)
  · exact (initial.enabled _).mpr rfl
  · exact List.forall_mem_nil _

theorem sound_of_reachable (proper : platform.Proper)
    (reached : (system platform).Reachable state) : Sound platform state :=
  reached.invariant (fun _ => sound_of_initial) fun _ _ _ sound taken => sound.step proper taken

/-! ## The shared stack -/

/-- At no time do two processors work on the stack for booting, each until it has increased
the counter.  After that it only returns. -/
theorem bootStack_exclusive (proper : platform.Proper)
    (reached : (system platform).Reachable state)
    (works : (state.ap cpu).onBootStack = true)
    (alsoWorks : (state.ap other).onBootStack = true) : cpu = other := by
  have sound := sound_of_reachable proper reached
  have isCurrent := (sound.current_of_working (ApPoint.working_of_onBootStack works)).1
  exact isCurrent.trans
    (sound.current_of_working (ApPoint.working_of_onBootStack alsoWorks)).1.symm

theorem InStage.not_lost {stage : Stage} (inStage : InStage source ipis stage) :
    source ≠ .lost := by
  rintro rfl
  cases stage with
  | untouched => cases inStage.1
  | reset =>
      obtain ⟨isOff, -⟩ | ⟨waits, -⟩ := inStage
      · cases isOff
      · cases waits
  | started =>
      obtain ⟨isOff, -⟩ | ⟨-, notLost, -⟩ := inStage
      · cases isOff
      · exact notLost rfl
  | reported => cases inStage.1

/-- No processor faults while it loads its tables, enters a trampoline that is not there, or
returns to an address that is not its own. -/
theorem never_lost (proper : platform.Proper) (reached : (system platform).Reachable state) :
    state.bsp ≠ .lost ∧ ∀ cpu, state.ap cpu ≠ .lost := by
  have sound := sound_of_reachable proper reached
  refine ⟨fun isLost => ?_, fun cpu => (sound.stages cpu).not_lost⟩
  have fits := sound.fits
  rw [isLost] at fits
  exact fits

/-! ## The counter -/

/-- The other processors that have reported. -/
def State.reported (state : State) (platform : Platform) : Finset Nat :=
  (Finset.range platform.places.cpus).filter fun cpu => (state.ap cpu).counted

theorem card_below (bspCpu cpu : Nat) :
    ((Finset.range cpu).erase bspCpu).card + 1 = countBelow bspCpu cpu := by
  rw [countBelow]
  split
  · rename_i above
    rw [Finset.erase_eq_of_notMem (by simpa using above), Finset.card_range]
  · rename_i below
    rw [Finset.card_erase_of_mem (by simpa using below), Finset.card_range]
    omega

theorem SoundAt.current_le (sound : SoundAt platform state point) :
    point.current platform.places.cpus ≤ platform.places.cpus := by
  have fits := sound.fits
  cases point with
  | nextCpu cpu => exact fits.1
  | initHigh cpu | initHalt cpu | readCount cpu | failed cpu => exact (Starts.inside fits).le
  | initLow cpu | startupHigh cpu cpus attempt | startupLow cpu cpus attempt
  | retryHalt cpu cpus attempt timeout | check cpu cpus attempt timeout => exact fits.1.inside.le
  | setTimerIsr | setTaskIsr | createLock | booted => exact Nat.le_refl _
  | initInterrupts | setSpuriousIsr | setEmptyTimerIsr | sti | startApCpus | noMemory | lost =>
      exact Nat.zero_le _

theorem SoundAt.counted_iff (sound : SoundAt platform state point) (cpu : Nat) :
    (state.ap cpu).counted = true ↔
      cpu ≠ platform.places.bspCpu ∧ cpu < point.current platform.places.cpus ∨
        cpu = point.current platform.places.cpus ∧
          (state.ap (point.current platform.places.cpus)).counted = true := by
  have inStage := sound.stages cpu
  by_cases isCurrent : cpu = point.current platform.places.cpus
  · rw [← isCurrent]
    simp
  · rw [stageOf, if_neg isCurrent] at inStage
    split at inStage
    · rename_i isBsp
      refine iff_of_false ?_ ?_
      · rw [inStage.1]
        exact Bool.false_ne_true
      · rintro (⟨notBsp, -⟩ | ⟨same, -⟩)
        · exact notBsp isBsp
        · exact isCurrent same
    · rename_i notBsp
      split at inStage
      · rename_i below
        exact iff_of_true inStage.1 (.inl ⟨notBsp, below⟩)
      · rename_i above
        refine iff_of_false ?_ ?_
        · rw [inStage.1]
          exact Bool.false_ne_true
        · rintro (⟨-, below⟩ | ⟨same, -⟩)
          · exact above below
          · exact isCurrent same

/-- The processor that has just reported is one that has been started. -/
theorem SoundAt.started_of_counted (sound : SoundAt platform state point)
    (counted : (state.ap (point.current platform.places.cpus)).counted = true) :
    stageOf platform.places point (point.current platform.places.cpus) = .started := by
  have inStage := sound.stages (point.current platform.places.cpus)
  have notBsp : point.current platform.places.cpus ≠ platform.places.bspCpu := by
    refine sound.notBsp fun isOff => ?_
    rw [isOff] at counted
    cases counted
  rw [stageOf_current platform.places point notBsp] at inStage ⊢
  cases isPhase : point.phase with
  | idle | resetting =>
      rw [isPhase] at inStage
      have isEarly := inStage.not_counted (by first | exact .inl rfl | exact .inr rfl)
      rw [isEarly] at counted
      cases counted
  | starting => rfl

/-- The counter is exact at any time: no report is lost, and none is counted twice. -/
theorem startedCpus_exact (proper : platform.Proper)
    (reached : (system platform).Reachable state) :
    state.startedCpus = (state.reported platform).card + 1 := by
  have sound := sound_of_reachable proper reached
  have count := sound.count
  generalize isCurrent : state.bsp.current platform.places.cpus = current at count
  have below : current ≤ platform.places.cpus := isCurrent ▸ sound.current_le
  rw [count, ← card_below]
  by_cases counted : (state.ap current).counted = true
  · have inside : current < platform.places.cpus := by
      rw [← isCurrent] at counted ⊢
      exact (sound.starts (sound.started_of_counted counted)).inside
    have isReported : state.reported platform =
        insert current ((Finset.range current).erase platform.places.bspCpu) := by
      ext cpu
      rw [State.reported, Finset.mem_filter, sound.counted_iff cpu, isCurrent, Finset.mem_range,
        Finset.mem_insert, Finset.mem_erase, Finset.mem_range]
      constructor
      · rintro ⟨-, earlier | ⟨rfl, -⟩⟩
        · exact .inr earlier
        · exact .inl rfl
      · rintro (rfl | ⟨other, earlier⟩)
        · exact ⟨inside, .inr ⟨rfl, counted⟩⟩
        · exact ⟨earlier.trans inside, .inl ⟨other, earlier⟩⟩
    rw [isReported, if_pos counted, Finset.card_insert_of_notMem (by simp), Nat.add_right_comm]
  · have isReported : state.reported platform =
        (Finset.range current).erase platform.places.bspCpu := by
      ext cpu
      rw [State.reported, Finset.mem_filter, sound.counted_iff cpu, isCurrent, Finset.mem_range,
        Finset.mem_erase, Finset.mem_range]
      constructor
      · rintro ⟨-, earlier | ⟨-, isCounted⟩⟩
        · exact earlier
        · exact absurd isCounted counted
      · rintro ⟨other, earlier⟩
        exact ⟨earlier.trans_le below, .inl ⟨other, earlier⟩⟩
    rw [isReported, if_neg counted]

/-! ## When all have been started -/

/-- The boot processor is past `start_ap_cpus`. -/
def BspPoint.pastStart : BspPoint → Bool
  | .setTimerIsr | .setTaskIsr | .createLock | .booted => true
  | _ => false

/-- The boot processor goes past `start_ap_cpus` only when each other processor has reported, and
then its tables are loaded, its interrupts are enabled and its lock is there. -/
theorem all_started (proper : platform.Proper) (reached : (system platform).Reachable state)
    (past : state.bsp.pastStart = true) :
    state.startedCpus = platform.places.cpus ∧
      ∀ cpu < platform.places.cpus, cpu ≠ platform.places.bspCpu →
        (state.ap cpu = .halted ∨ ∃ rsp, state.ap cpu = .returning rsp) ∧
          (state.tables.registers cpu).isSome ∧ state.enabled cpu = true ∧
            state.cpuLock cpu = true := by
  have sound := sound_of_reachable proper reached
  have isCurrent : state.bsp.current platform.places.cpus = platform.places.cpus := by
    cases isAt : state.bsp <;> rw [isAt] at past <;> first | rfl | cases past
  have counted : ∀ cpu < platform.places.cpus, cpu ≠ platform.places.bspCpu →
      (state.ap cpu).counted = true := fun cpu inside other =>
    (sound.counted_iff cpu).mpr (.inl ⟨other, isCurrent.symm ▸ inside⟩)
  constructor
  · have count := sound.count
    rw [if_neg, isCurrent, countBelow, if_neg (Nat.not_le.mpr platform.places.bspCpu_lt)] at count
    · exact count
    · intro isCounted
      have inside := (sound.starts (sound.started_of_counted isCounted)).inside
      rw [isCurrent] at inside
      exact Nat.lt_irrefl _ inside
  · intro cpu inside other
    have holds := sound.locals cpu other
    have isCounted := counted cpu inside other
    cases isAt : state.ap cpu with
    | returning rsp =>
        rw [holds.registers, holds.enabled, isAt]
        exact ⟨.inr ⟨rsp, rfl⟩, rfl, rfl, holds.locks (isAt ▸ rfl)⟩
    | halted =>
        rw [holds.registers, holds.enabled, isAt]
        exact ⟨.inl rfl, rfl, rfl, holds.locks (isAt ▸ rfl)⟩
    | _ =>
        rw [isAt] at isCounted
        cases isCounted

/-! ## Interrupts while the processors boot -/

/-- A processor begins only after the boot processor has set its handlers. -/
theorem SoundAt.ready_of_begun (sound : SoundAt platform state point)
    (begun : state.ap cpu ≠ .off) : point.ready = true := by
  have inStage := sound.stages cpu
  by_contra notYet
  have idle : stageOf platform.places point cpu = .untouched := by
    rw [stageOf]
    cases point <;> first
      | exact absurd rfl notYet
      | exact (ite_eq_left_iff.mpr fun _ => (if_neg (Nat.not_lt_zero cpu)).trans (ite_self _))
  rw [idle] at inStage
  exact begun inStage.1

/-- A processor that has enabled interrupts finds a handler for each interrupt of its local APIC,
and enters it on a stack of its own.  Only the boot processor enables interrupts before it has set
these handlers. -/
theorem interrupts_handled (proper : platform.Proper)
    (reached : (system platform).Reachable state) (enabled : state.enabled cpu = true)
    (ready : cpu = platform.places.bspCpu → state.bsp.ready = true) {vector : Nat}
    (isLapic : vector = intVectorApicSpurious ∨ vector = intVectorApicTimer) :
    ∃ registers target, state.tables.registers cpu = some registers ∧
      interruptTarget state.tables.memory registers vector = some target ∧
        target.handler ≠ 0 ∧ target.stack = platform.places.isrStack cpu := by
  have sound := sound_of_reachable proper reached
  have both : state.bsp.ready = true ∧ (state.tables.registers cpu).isSome = true := by
    by_cases isBsp : cpu = platform.places.bspCpu
    · have isReady := ready isBsp
      subst isBsp
      refine ⟨isReady, sound.tables.loaded.mpr fun isFirst => ?_⟩
      rw [isFirst] at isReady
      cases isReady
    · have holds := sound.locals cpu isBsp
      have loaded := holds.enabled.symm.trans enabled
      have begun : state.ap cpu ≠ .off := by
        intro isOff
        rw [isOff] at loaded
        cases loaded
      exact ⟨SoundAt.ready_of_begun sound begun, holds.registers.trans loaded⟩
  obtain ⟨registers, loaded⟩ := Option.isSome_iff_exists.mp both.2
  have handled : vector ∈ state.bsp.handles := by
    have isList : state.bsp.handles = [intVectorApicSpurious, intVectorApicTimer] := by
      cases isAt : state.bsp <;> rw [isAt] at both <;> first | rfl | cases both.1
    rw [isList]
    simpa using isLapic
  have isHandler := sound.tables.handles vector handled
  have reaches := (Tables.sound_of_reachable sound.tables.reachable).target loaded vector
  have unreserved : isIntReserved vector = false := by
    obtain rfl | rfl := isLapic <;> rfl
  rw [if_pos ⟨state.bsp.handles_lt vector handled, unreserved, isHandler⟩] at reaches
  exact ⟨registers, _, loaded, reaches, isHandler, rfl⟩

/-! ## A processor that has been started -/

theorem State.setHigh_ap (state : State) (value : BitVec 32) (after : BspPoint) :
    ((state.setHigh value).goto after).ap = state.ap := rfl

theorem State.send_ap (state : State) (low : BitVec 32) (after : BspPoint) :
    ((state.send platform low).goto after).ap = state.ap := by
  rw [State.send]
  split <;> rfl

/-- The boot processor moves the others by interrupts only. -/
theorem bspStep_ap (taken : bspStep platform state = some next) : next.ap = state.ap := by
  unfold Boot.bspStep at taken
  cases isAt : state.bsp with
  | initHigh cpu =>
      rw [isAt] at taken
      exact Option.some.inj taken ▸ State.setHigh_ap ..
  | initLow cpu | startupLow cpu cpus attempt =>
      rw [isAt] at taken
      exact Option.some.inj taken ▸ State.send_ap ..
  | startupHigh cpu cpus attempt =>
      rw [isAt] at taken
      dsimp only at taken
      split at taken
      · exact Option.some.inj taken ▸ State.setHigh_ap ..
      · exact Option.some.inj taken ▸ rfl
  | initInterrupts | retryHalt cpu cpus attempt timeout | check cpu cpus attempt timeout =>
      rw [isAt] at taken
      dsimp only at taken
      split at taken
      · exact Option.some.inj taken ▸ rfl
      · exact Option.some.inj taken ▸ rfl
  | startApCpus =>
      rw [isAt] at taken
      dsimp only at taken
      split at taken
      · exact Option.some.inj taken ▸ rfl
      · split at taken
        · exact Option.some.inj taken ▸ rfl
        · exact Option.some.inj taken ▸ rfl
  | nextCpu cpu =>
      rw [isAt] at taken
      dsimp only at taken
      split at taken
      · split at taken
        · exact Option.some.inj taken ▸ rfl
        · exact Option.some.inj taken ▸ rfl
      · exact Option.some.inj taken ▸ rfl
  | setSpuriousIsr | setEmptyTimerIsr | sti | initHalt cpu | readCount cpu
  | setTimerIsr | setTaskIsr | createLock =>
      rw [isAt] at taken
      exact Option.some.inj taken ▸ rfl
  | booted | failed cpu | noMemory | lost =>
      rw [isAt] at taken
      cases taken

/-- A processor that has taken its startup can take its next step until it halts. -/
theorem apStep_isSome (begun : (state.ap cpu).Begun) (notLost : state.ap cpu ≠ .lost) :
    state.ap cpu = .halted ∨ (apStep platform state cpu).isSome = true := by
  rw [Boot.apStep]
  cases isAt : state.ap cpu with
  | off => exact absurd isAt begun.1
  | waitForStartup => exact absurd isAt begun.2
  | lost => exact absurd isAt notLost
  | halted => exact .inl rfl
  | initInterrupts rsp | returning rsp =>
      refine .inr ?_
      dsimp only
      split <;> rfl
  | entering | calling rsp | initApic rsp | sti rsp | initScheduler rsp | loadCount rsp
  | storeCount rsp count => exact .inr rfl

/-- An interrupt that arrives does not disturb a processor that has taken its startup. -/
theorem SoundAt.deliver_begun (sound : SoundAt platform state point)
    (begun : (state.ap cpu).Begun) (taken : Boot.deliver state other = some next) :
    next.ap cpu = state.ap cpu := by
  have inStage := sound.stages cpu
  rw [Boot.deliver] at taken
  split at taken
  · cases taken
  · rename_i ipi ipis isPending
    obtain rfl := Option.some.inj taken
    obtain rfl | different := eq_or_ne cpu other
    · have startups : Startups (state.pending cpu) := by
        generalize stageOf platform.places point cpu = stage at inStage
        cases stage with
        | untouched => exact absurd inStage.1 begun.1
        | reset =>
            obtain ⟨isOff, -⟩ | ⟨waits, -⟩ := inStage
            · exact absurd isOff begun.1
            · exact absurd waits begun.2
        | started =>
            obtain ⟨isOff, -⟩ | ⟨-, -, startups⟩ := inStage
            · exact absurd isOff begun.1
            · exact startups
        | reported => exact inStage.2
      rw [isPending] at startups
      have isStartup := (List.forall_mem_cons.mp startups).1.1
      exact (Function.update_self ..).trans (receive_ignored isStartup begun.2)
    · exact Function.update_of_ne different ..

/-- One step, for a processor that has taken its startup. -/
theorem Sound.step_begun {action : Action} (proper : platform.Proper)
    (sound : Sound platform state) (begun : (state.ap cpu).Begun)
    (taken : Boot.step platform state action = some next) :
    (next.ap cpu).Begun ∧
      (next.ap cpu).stepsLeft + (if action = .ap cpu then 1 else 0) =
        (state.ap cpu).stepsLeft := by
  have notLost := ((sound.step proper taken).stages cpu).not_lost
  have stays (same : next.ap cpu = state.ap cpu) (other : action ≠ .ap cpu) :
      (next.ap cpu).Begun ∧ (next.ap cpu).stepsLeft + (if action = .ap cpu then 1 else 0) =
        (state.ap cpu).stepsLeft := by
    rw [same, if_neg other]
    exact ⟨begun, rfl⟩
  cases action with
  | bsp => exact stays (congrFun (bspStep_ap taken) cpu) nofun
  | ap other =>
      obtain ⟨-, taken⟩ := Option.ite_none_right_eq_some.mp taken
      obtain ⟨-, target, isNext, targetBegun, moves⟩ := apStep_moves taken
      obtain rfl | different := eq_or_ne cpu other
      · rw [isNext, Function.update_self] at notLost ⊢
        rw [if_pos rfl]
        exact ⟨targetBegun, moves.resolve_left notLost⟩
      · refine stays ?_ fun same => different (Action.ap.inj same).symm
        rw [isNext, Function.update_of_ne different]
  | deliver other => exact stays (SoundAt.deliver_begun sound begun taken) nofun
  | write address byte =>
      obtain ⟨-, isNext⟩ := Option.ite_none_right_eq_some.mp taken
      obtain rfl := Option.some.inj isNext
      exact stays rfl nofun

/-- Whatever the others do, a processor that has taken its startup halts after its nine steps of
`boot64_ap`, and is never kept from the next one. -/
theorem boot64Ap_halts {actions : List Action} {final : State} (proper : platform.Proper)
    (reached : (system platform).Reachable state) (begun : (state.ap cpu).Begun)
    (executed : (system platform).exec state actions = some final) :
    (final.ap cpu).stepsLeft + actions.count (.ap cpu) = (state.ap cpu).stepsLeft ∧
      (final.ap cpu = .halted ∨ (apStep platform final cpu).isSome = true) := by
  induction actions generalizing state with
  | nil =>
      obtain rfl := Option.some.inj executed
      exact ⟨rfl, apStep_isSome begun (((sound_of_reachable proper reached).stages cpu).not_lost)⟩
  | cons action actions inductionHypothesis =>
      obtain ⟨next, taken, executed⟩ := TransitionSystem.exec_cons executed
      obtain ⟨nextBegun, steps⟩ := (sound_of_reachable proper reached).step_begun proper begun taken
      obtain ⟨left, goesOn⟩ := inductionHypothesis (reached.extend taken) nextBegun executed
      refine ⟨?_, goesOn⟩
      rw [List.count_cons, ← steps, ← left, Nat.add_assoc]
      simp only [beq_iff_eq]

/-! ## Two processors -/

def twoProcessors : Platform where
  table := twoCpus
  places := twoTables
  apBootStack := 0x200000
  defaultIsr := someIsrs
  emptyIsr := 0x108000
  timerIsr := 0x109000
  taskIsr := 0x10A000
  behindBoot64Ap := 0x10B000

theorem twoProcessors_proper : twoProcessors.Proper where
  described := ⟨_, _, _, twoCpus_describes⟩
  num := rfl
  single := by decide
  emptyIsr := by decide
  timerIsr := by decide

/-- Before the boot processor enters `init_interrupts`. -/
def powered : State where
  bsp := .initInterrupts
  ap _ := .off
  icrHigh := 0
  pending _ := []
  trampoline := false
  startedCpus := 1
  returnAddress _ := 0
  enabled cpu := cpu = 0
  cpuLock _ := false
  tables := unbuilt

theorem powered_initial : Initial twoProcessors powered :=
  ⟨rfl, fun _ => rfl, fun _ => rfl, rfl, fun _ => decide_eq_true_iff, unbuilt_initial⟩

/-- The boot processor starts the other one, which takes some of its steps. -/
def startsSecond (steps : Nat) : List Action :=
  List.replicate 9 .bsp ++ [.deliver 1] ++ List.replicate 4 .bsp ++ [.deliver 1] ++
    List.replicate steps (.ap 1)

theorem startsSecond_runs : ∃ state,
    (system twoProcessors).exec powered (startsSecond 3) = some state ∧
      (state.ap 1).onBootStack = true := by
  obtain ⟨state, executed, holds⟩ := (Option.any_eq_true _ _).mp
    (show ((system twoProcessors).exec powered (startsSecond 3)).any (fun state =>
      (state.ap 1).onBootStack = true) = true by decide +kernel)
  exact ⟨state, executed, of_decide_eq_true holds⟩

/-- The boot processor waits until the other one has reported, and goes on. -/
def bothStart : List Action :=
  startsSecond 8 ++ List.replicate 6 .bsp

theorem bothStart_runs : ∃ state,
    (system twoProcessors).exec powered bothStart = some state ∧
      state.bsp = .booted ∧ state.enabled 1 = true := by
  obtain ⟨state, executed, holds⟩ := (Option.any_eq_true _ _).mp
    (show ((system twoProcessors).exec powered bothStart).any (fun state =>
      state.bsp = .booted ∧ state.enabled 1 = true) = true by decide +kernel)
  exact ⟨state, executed, of_decide_eq_true holds⟩

/-- No other processor works on the stack while the second one does. -/
theorem bootStack_exclusive_second : ∃ state,
    (system twoProcessors).exec powered (startsSecond 3) = some state ∧
      ∀ cpu, (state.ap cpu).onBootStack = true → cpu = 1 := by
  obtain ⟨state, executed, works⟩ := startsSecond_runs
  exact ⟨state, executed, fun cpu alsoWorks => bootStack_exclusive twoProcessors_proper
    (TransitionSystem.reachable_of_exec powered_initial executed) alsoWorks works⟩

theorem never_lost_second : ∃ state,
    (system twoProcessors).exec powered bothStart = some state ∧ state.ap 1 ≠ .lost := by
  obtain ⟨state, executed, -⟩ := bothStart_runs
  exact ⟨state, executed, (never_lost twoProcessors_proper
    (TransitionSystem.reachable_of_exec powered_initial executed)).2 1⟩

theorem startedCpus_exact_second : ∃ state,
    (system twoProcessors).exec powered bothStart = some state ∧
      state.startedCpus = (state.reported twoProcessors).card + 1 := by
  obtain ⟨state, executed, -⟩ := bothStart_runs
  exact ⟨state, executed, startedCpus_exact twoProcessors_proper
    (TransitionSystem.reachable_of_exec powered_initial executed)⟩

theorem all_started_second : ∃ state,
    (system twoProcessors).exec powered bothStart = some state ∧ state.startedCpus = 2 ∧
      state.cpuLock 1 = true := by
  obtain ⟨state, executed, isAt, -⟩ := bothStart_runs
  obtain ⟨count, others⟩ := all_started twoProcessors_proper
    (TransitionSystem.reachable_of_exec powered_initial executed) (by rw [isAt]; rfl)
  exact ⟨state, executed, count, (others 1 (by decide) (by decide)).2.2.2⟩

theorem interrupts_handled_second : ∃ state registers target,
    (system twoProcessors).exec powered bothStart = some state ∧
      interruptTarget state.tables.memory registers intVectorApicTimer = some target ∧
        target.stack = 0x142000 := by
  obtain ⟨state, executed, -, enabled⟩ := bothStart_runs
  obtain ⟨registers, target, -, reaches, -, stack⟩ := interrupts_handled twoProcessors_proper
    (TransitionSystem.reachable_of_exec powered_initial executed) enabled
    (fun isBsp => absurd isBsp (by decide)) (.inr rfl)
  exact ⟨state, registers, target, executed, reaches, stack⟩

/-- The second processor halts, while the boot processor starts its timers. -/
theorem boot64Ap_halts_second : ∃ state final,
    (system twoProcessors).exec powered (startsSecond 0) = some state ∧
      (system twoProcessors).exec state (List.replicate 9 (.ap 1) ++ List.replicate 4 .bsp) =
        some final ∧ (final.ap 1).stepsLeft = 0 := by
  obtain ⟨state, executed, holds⟩ := (Option.any_eq_true _ _).mp
    (show ((system twoProcessors).exec powered (startsSecond 0)).any (fun state =>
      state.ap 1 = .entering ∧ ((system twoProcessors).exec state
        (List.replicate 9 (.ap 1) ++ List.replicate 4 .bsp)).isSome = true) = true
      by decide +kernel)
  obtain ⟨enters, runs⟩ := of_decide_eq_true holds
  obtain ⟨final, continued⟩ := Option.isSome_iff_exists.mp runs
  have begun : (state.ap 1).Begun := enters ▸ ⟨nofun, nofun⟩
  obtain ⟨steps, -⟩ := boot64Ap_halts twoProcessors_proper
    (TransitionSystem.reachable_of_exec powered_initial executed) begun continued
  rw [enters] at steps
  exact ⟨state, final, executed, continued, Nat.add_right_cancel (steps.trans (by decide))⟩

end Boot
end ToyKernel
