import ToyKernel.Boot.BspSteps

/-!
# The steps of the other processors

Each step of `boot64_ap`, and each interrupt that arrives, keeps the invariant.
-/

namespace ToyKernel
namespace Boot

open ApicTimer CpuInfo Interrupts

variable {platform : Platform} {state next : State} {point : BspPoint} {cpu other : Nat}
  {source target : ApPoint}

/-! ## Who works on the stack -/

namespace ApPoint

/-- The processor has taken its startup. -/
def Begun (point : ApPoint) : Prop :=
  point ≠ .off ∧ point ≠ .waitForStartup

/-- How many steps it has before it. -/
def stepsLeft : ApPoint → Nat
  | .entering => 9
  | .calling _ => 8
  | .initInterrupts _ => 7
  | .initApic _ => 6
  | .sti _ => 5
  | .initScheduler _ => 4
  | .loadCount _ => 3
  | .storeCount _ _ => 2
  | .returning _ => 1
  | .off | .waitForStartup | .halted | .lost => 0

/-- Between the startup and the report. -/
def Working (point : ApPoint) : Prop :=
  point ≠ .off ∧ point ≠ .waitForStartup ∧ point.counted = false

theorem working_of_onBootStack (working : target.onBootStack = true) : target.Working := by
  refine ⟨?_, ?_, ?_⟩
  · rintro rfl
    cases working
  · rintro rfl
    cases working
  · cases target <;> first | rfl | cases working

end ApPoint

theorem InStage.started_of_working {pending : List Ipi} {stage : Stage}
    (inStage : InStage target pending stage) (working : target.Working) : stage = .started := by
  cases stage with
  | untouched => exact absurd inStage.1 working.1
  | reset =>
      obtain ⟨isOff, -⟩ | ⟨waits, -⟩ := inStage
      · exact absurd isOff working.1
      · exact absurd waits working.2.1
  | started => rfl
  | reported => exact absurd (inStage.1.symm.trans working.2.2) (by decide)

theorem stageOf_started {places : Places} (isStarted : stageOf places point cpu = .started) :
    cpu = point.current places.cpus ∧ cpu ≠ places.bspCpu := by
  rw [stageOf] at isStarted
  split at isStarted
  · cases isStarted
  · rename_i notBsp
    split at isStarted
    · cases isStarted
    · split at isStarted
      · rename_i isCurrent
        exact ⟨isCurrent, notBsp⟩
      · cases isStarted

/-- Only the processor that is started works on the stack. -/
theorem SoundAt.current_of_working (sound : SoundAt platform state point)
    (working : (state.ap cpu).Working) :
    cpu = point.current platform.places.cpus ∧ cpu ≠ platform.places.bspCpu :=
  stageOf_started ((sound.stages cpu).started_of_working working)

/-- A processor that has been started stays in its stage. -/
theorem InStage.move {pending : List Ipi} {stage : Stage}
    (inStage : InStage source pending stage)
    (begun : source.Begun)
    (stays : target ≠ .off ∧ target ≠ .lost) (counted : source.counted = true →
      target.counted = true) : InStage target pending stage := by
  cases stage with
  | untouched => exact absurd inStage.1 begun.1
  | reset =>
      obtain ⟨isOff, -⟩ | ⟨waits, -⟩ := inStage
      · exact absurd isOff begun.1
      · exact absurd waits begun.2
  | started =>
      obtain ⟨isOff, -⟩ | ⟨-, -, startups⟩ := inStage
      · exact absurd isOff begun.1
      · exact .inr ⟨stays.1, stays.2, startups⟩
  | reported => exact ⟨counted inStage.1, inStage.2⟩

/-! ## Moves -/

/-- A processor moves, and changes what is its own. -/
structure ApMove (platform : Platform) (state next : State) (cpu : Nat) (target : ApPoint) :
    Prop where
  ap : next.ap = Function.update state.ap cpu target
  pending : next.pending = state.pending
  icrHigh : next.icrHigh = state.icrHigh
  trampoline : next.trampoline = state.trampoline
  returnAddress : next.returnAddress (platform.bootTop - 8) = platform.behindBoot64Ap ∨
    next.returnAddress = state.returnAddress
  cpuLock : ∀ other, state.cpuLock other = true → next.cpuLock other = true
  enabled : ∀ other ≠ cpu, next.enabled other = state.enabled other
  registers : ∀ other ≠ cpu, next.tables.registers other = state.tables.registers other

theorem Fits.congr (fits : Fits platform state point) (icrHigh : next.icrHigh = state.icrHigh)
    (trampoline : next.trampoline = state.trampoline) : Fits platform next point := by
  have starts : ∀ {cpu : Nat}, Starts platform state cpu → Starts platform next cpu :=
    fun starts => ⟨starts.inside, starts.other, trampoline.trans starts.trampoline⟩
  cases point with
  | nextCpu cpu => exact ⟨fits.1, trampoline.trans fits.2⟩
  | initHigh cpu | initHalt cpu | readCount cpu | failed cpu => exact starts fits
  | initLow cpu => exact ⟨starts fits.1, icrHigh.trans fits.2⟩
  | startupHigh cpu cpus attempt | retryHalt cpu cpus attempt timeout
  | check cpu cpus attempt timeout => exact ⟨starts fits.1, fits.2⟩
  | startupLow cpu cpus attempt => exact ⟨starts fits.1, fits.2.1, icrHigh.trans fits.2.2⟩
  | lost => exact fits
  | initInterrupts | setSpuriousIsr | setEmptyTimerIsr | sti | startApCpus | setTimerIsr
  | setTaskIsr | createLock | booted | noMemory => trivial

/-- The others keep what is theirs. -/
theorem ApMove.local (move : ApMove platform state next cpu target) (different : other ≠ cpu)
    (holds : Local platform state other)
    (count : ∀ rsp count, state.ap other = .storeCount rsp count → count = next.startedCpus) :
    Local platform next other := by
  have same : next.ap other = state.ap other := by
    rw [move.ap, Function.update_of_ne different]
  refine ⟨?_, ?_, fun returns => ?_, ?_, fun locks => ?_, ?_⟩
  · rw [move.registers other different, same, holds.registers]
  · rw [same]
    exact holds.rsp
  · rw [same] at returns
    obtain pushed | kept := move.returnAddress
    · exact pushed
    · rw [kept, holds.returns returns]
  · rw [move.enabled other different, same, holds.enabled]
  · rw [same] at locks
    exact move.cpuLock other (holds.locks locks)
  · rw [same]
    exact count

/-- A move keeps the invariant, given what it means for the processor and for the counter. -/
theorem ApMove.sound (move : ApMove platform state next cpu target)
    (sound : SoundAt platform state point)
    (inStage : InStage target (state.pending cpu) (stageOf platform.places point cpu))
    (count : next.startedCpus =
      countBelow platform.places.bspCpu (point.current platform.places.cpus) +
        if (next.ap (point.current platform.places.cpus)).counted then 1 else 0)
    (own : Local platform next cpu)
    (counts : ∀ other ≠ cpu, ∀ rsp count, state.ap other = .storeCount rsp count →
      count = next.startedCpus)
    (tables : TablesAt platform point next) : SoundAt platform next point where
  stages := by
    intro other
    rw [move.ap, move.pending]
    obtain rfl | different := eq_or_ne other cpu
    · rw [Function.update_self]
      exact inStage
    · rw [Function.update_of_ne different]
      exact sound.stages other
  fits := sound.fits.congr move.icrHigh move.trampoline
  count := count
  locals := by
    intro other notBsp
    obtain rfl | different := eq_or_ne other cpu
    · exact own
    · exact move.local different (sound.locals other notBsp) (counts other different)
  tables := tables

/-- A processor that has been started moves, and the counter stays. -/
theorem ApMove.quiet (move : ApMove platform state next cpu target)
    (sound : SoundAt platform state point) (isAt : state.ap cpu = source)
    (begun : source.Begun)
    (stays : target ≠ .off ∧ target ≠ .lost) (counted : target.counted = source.counted)
    (same : next.startedCpus = state.startedCpus) (own : Local platform next cpu)
    (tables : TablesAt platform point next) : SoundAt platform next point := by
  subst isAt
  refine move.sound sound ((sound.stages cpu).move begun stays counted.trans) ?_ own ?_ tables
  · have sameCounted : ∀ other, (next.ap other).counted = (state.ap other).counted := by
      intro other
      rw [move.ap]
      obtain rfl | different := eq_or_ne other cpu
      · rw [Function.update_self, counted]
      · rw [Function.update_of_ne different]
    rw [same, sameCounted]
    exact sound.count
  · intro other different rsp count isStoring
    rw [same]
    by_cases isBsp : other = platform.places.bspCpu
    · have untouched := sound.stages other
      rw [stageOf, if_pos isBsp, isStoring] at untouched
      cases untouched.1
    · exact (sound.locals other isBsp).count rsp count isStoring

theorem TablesAt.same (tables : TablesAt platform point state)
    (sameTables : next.tables = state.tables)
    (enabled : next.enabled platform.places.bspCpu = state.enabled platform.places.bspCpu) :
    TablesAt platform point next := by
  refine ⟨?_, ?_, ?_, ?_⟩
  · rw [sameTables]
    exact tables.reachable
  · rw [sameTables]
    exact tables.loaded
  · rw [enabled]
    exact tables.enabled
  · rw [sameTables]
    exact tables.handles

/-! ## Steps of `boot64_ap` -/

/-- Each processor finds its own index. -/
theorem Platform.Proper.index (proper : platform.Proper) (inside : cpu < platform.places.cpus) :
    (platform.table.cpuIndexes (platform.table.descs cpu).id).toNat = cpu := by
  obtain ⟨ids, srat, bits, describes⟩ := proper.described
  exact describes.index cpu (proper.num ▸ inside)

section Moves

variable (state cpu target)

/-- A move that changes nothing but the point. -/
theorem apMove_goto : ApMove platform state (state.gotoAp cpu target) cpu target :=
  ⟨rfl, rfl, rfl, rfl, .inr rfl, fun _ => id, fun _ _ => rfl, fun _ _ => rfl⟩

end Moves

/-- What is known of a processor after a step in which only its point changes. -/
theorem Local.goto (holds : Local platform state cpu) (isAt : state.ap cpu = source)
    (loaded : target.loaded = source.loaded)
    (rsp : ∀ rsp ∈ target.rsp, rsp ∈ source.rsp ∨ rsp = platform.bootTop)
    (returns : target.returns = true → source.returns = true)
    (locks : target.locks = true → source.locks = true)
    (count : ∀ rsp count, target = .storeCount rsp count → count = state.startedCpus) :
    Local platform (state.gotoAp cpu target) cpu := by
  have self : (state.gotoAp cpu target).ap cpu = target := Function.update_self ..
  subst isAt
  refine ⟨?_, fun rsp isRsp => ?_, ?_, ?_, ?_, ?_⟩
  · rw [self, loaded]
    exact holds.registers
  · rw [self] at isRsp
    obtain before | isTop := ‹∀ rsp ∈ target.rsp, _› rsp isRsp
    · exact holds.rsp rsp before
    · exact isTop
  · rw [self]
    exact fun back => holds.returns (returns back)
  · rw [self, loaded]
    exact holds.enabled
  · rw [self]
    exact fun locked => holds.locks (locks locked)
  · rw [self]
    exact count

/-- A processor that has begun is not the boot processor. -/
theorem SoundAt.notBsp (sound : SoundAt platform state point) (begun : state.ap cpu ≠ .off) :
    cpu ≠ platform.places.bspCpu := by
  rintro rfl
  have untouched := sound.stages platform.places.bspCpu
  rw [stageOf, if_pos rfl] at untouched
  exact begun untouched.1

/-- A processor moves on, and nothing else changes. -/
theorem SoundAt.gotoAp (sound : SoundAt platform state point) (isAt : state.ap cpu = source)
    (begun : source.Begun)
    (stays : target ≠ .off ∧ target ≠ .lost) (counted : target.counted = source.counted)
    (loaded : target.loaded = source.loaded)
    (rsp : ∀ rsp ∈ target.rsp, rsp ∈ source.rsp ∨ rsp = platform.bootTop)
    (returns : target.returns = true → source.returns = true)
    (locks : target.locks = true → source.locks = true)
    (count : ∀ rsp count, target = .storeCount rsp count → count = state.startedCpus) :
    SoundAt platform (state.gotoAp cpu target) point :=
  (apMove_goto state cpu target).quiet sound isAt begun stays counted rfl
    ((sound.locals cpu (sound.notBsp (isAt ▸ begun.1))).goto isAt loaded rsp returns locks
      count) (sound.tables.same rfl rfl)

/-- `started_cpus++` reports the processor that is started. -/
theorem SoundAt.storeCount (sound : SoundAt platform state point) {rsp : BitVec 64} {count : Nat}
    (isAt : state.ap cpu = .storeCount rsp count) :
    SoundAt platform
      (State.gotoAp { state with startedCpus := count + 1 } cpu (.returning rsp)) point := by
  have working : (state.ap cpu).Working := isAt ▸ ⟨nofun, nofun, rfl⟩
  obtain ⟨isCurrent, notBsp⟩ := sound.current_of_working working
  have holds := sound.locals cpu notBsp
  have isCount : count = state.startedCpus := holds.count rsp count isAt
  have move : ApMove platform state
      (State.gotoAp { state with startedCpus := count + 1 } cpu (.returning rsp)) cpu
      (.returning rsp) :=
    ⟨rfl, rfl, rfl, rfl, .inr rfl, fun _ => id, fun _ _ => rfl, fun _ _ => rfl⟩
  have self : (State.gotoAp { state with startedCpus := count + 1 } cpu
      (.returning rsp)).ap cpu = .returning rsp := Function.update_self ..
  refine move.sound sound ((sound.stages cpu).move (isAt ▸ ⟨nofun, nofun⟩) ⟨nofun, nofun⟩
    fun _ => rfl) ?_ ?_ ?_ (sound.tables.same rfl rfl)
  · have before := sound.count
    rw [← isCurrent, isAt] at before
    rw [← isCurrent, self]
    exact congrArg (· + 1) (isCount.trans before)
  · refine ⟨?_, ?_, fun _ => ?_, ?_, fun _ => ?_, ?_⟩
    · rw [self]
      exact holds.registers.trans (isAt ▸ rfl)
    · rw [self]
      exact fun other isRsp => holds.rsp other (isAt ▸ isRsp)
    · exact holds.returns (isAt ▸ rfl)
    · rw [self]
      exact holds.enabled.trans (isAt ▸ rfl)
    · exact holds.locks (isAt ▸ rfl)
    · rw [self]
      exact nofun
  · -- no other processor is between the two accesses
    intro other different _ _ isStoring
    have alsoWorking : (state.ap other).Working := isStoring ▸ ⟨nofun, nofun, rfl⟩
    exact absurd ((sound.current_of_working alsoWorking).1.trans isCurrent.symm) different

/-- The call of `boot64_ap` writes the address behind it. -/
theorem SoundAt.calling (sound : SoundAt platform state point) {rsp : BitVec 64}
    (isAt : state.ap cpu = .calling rsp) :
    SoundAt platform ((state.pushReturn rsp platform.behindBoot64Ap).gotoAp cpu
      (.initInterrupts rsp)) point := by
  have holds := sound.locals cpu (sound.notBsp (isAt ▸ nofun))
  have isTop : rsp = platform.bootTop := by
    refine holds.rsp rsp ?_
    rw [isAt]
    exact Option.mem_some_self rsp
  have pushed : ((state.pushReturn rsp platform.behindBoot64Ap).gotoAp cpu
      (.initInterrupts rsp)).returnAddress (platform.bootTop - 8) = platform.behindBoot64Ap := by
    rw [← isTop]
    exact Function.update_self ..
  have self : ((state.pushReturn rsp platform.behindBoot64Ap).gotoAp cpu
      (.initInterrupts rsp)).ap cpu = .initInterrupts rsp := Function.update_self ..
  have move : ApMove platform state ((state.pushReturn rsp platform.behindBoot64Ap).gotoAp cpu
      (.initInterrupts rsp)) cpu (.initInterrupts rsp) :=
    ⟨rfl, rfl, rfl, rfl, .inl pushed, fun _ => id, fun _ _ => rfl, fun _ _ => rfl⟩
  refine move.quiet sound isAt ⟨nofun, nofun⟩ ⟨nofun, nofun⟩ rfl rfl ?_
    (sound.tables.same rfl rfl)
  refine ⟨?_, ?_, fun _ => pushed, ?_, ?_, ?_⟩
  · rw [self]
    exact holds.registers.trans (isAt ▸ rfl)
  · rw [self]
    exact fun _ isRsp => (Option.some.inj isRsp).symm.trans isTop
  · rw [self]
    exact holds.enabled.trans (isAt ▸ rfl)
  · rw [self]
    exact nofun
  · rw [self]
    exact nofun

/-- A processor loads the tables that the boot processor has built. -/
theorem SoundAt.apInitInterrupts (sound : SoundAt platform state point) {rsp : BitVec 64}
    (inside : cpu < platform.places.cpus) (isAt : state.ap cpu = .initInterrupts rsp) :
    ∃ tables, Interrupts.initInterrupts platform.places platform.defaultIsr state.tables cpu =
        some tables ∧
      SoundAt platform (((state.setTables tables).logDebug cpu).gotoAp cpu (.initApic rsp))
        point := by
  have notBsp := sound.notBsp (isAt ▸ nofun : state.ap cpu ≠ .off)
  have holds := sound.locals cpu notBsp
  have first : state.tables.registers cpu = none := by
    have registers := holds.registers
    rw [isAt] at registers
    exact Option.not_isSome_iff_eq_none.mp (Bool.eq_false_iff.mp registers)
  -- the boot processor has gone on, for otherwise this one were off
  have begun : point ≠ .initInterrupts := by
    rintro rfl
    have working : (state.ap cpu).Working := isAt ▸ ⟨nofun, nofun, rfl⟩
    have isStarted := (sound.stages cpu).started_of_working working
    obtain ⟨isCurrent, -⟩ := stageOf_started isStarted
    rw [isCurrent, stageOf_current platform.places _ (isCurrent ▸ notBsp)] at isStarted
    cases isStarted
  have booted := sound.tables.loaded.mpr begun
  obtain ⟨memory, loads, handlers⟩ :=
    Tables.init_other sound.tables.reachable inside first booted notBsp
  refine ⟨_, loads, ?_⟩
  have taken : (tableSystem platform.places platform.defaultIsr).step state.tables (.init cpu) =
      some (Tables.withLoaded platform.places state.tables memory cpu) :=
    (if_pos ⟨inside, first, .inr booted⟩).trans loads
  have move : ApMove platform state (((state.setTables (Tables.withLoaded platform.places
      state.tables memory cpu)).logDebug cpu).gotoAp cpu (.initApic rsp)) cpu (.initApic rsp) :=
    ⟨rfl, rfl, rfl, rfl, .inr rfl, fun _ => id,
      fun _ different => Function.update_of_ne different ..,
      fun _ different => Tables.withLoaded_of_ne different⟩
  have self : (((state.setTables (Tables.withLoaded platform.places state.tables memory
      cpu)).logDebug cpu).gotoAp cpu (.initApic rsp)).ap cpu = .initApic rsp :=
    Function.update_self ..
  refine move.quiet sound isAt ⟨nofun, nofun⟩ ⟨nofun, nofun⟩ rfl rfl
    ⟨?_, ?_, fun _ => ?_, ?_, ?_, ?_⟩ ⟨sound.tables.reachable.extend taken, ?_, ?_, ?_⟩
  · rw [self]
    exact congrArg Option.isSome Tables.withLoaded_self
  · rw [self]
    exact fun other isRsp => holds.rsp other (isAt ▸ isRsp)
  · exact holds.returns (isAt ▸ rfl)
  · rw [self]
    exact Function.update_self ..
  · rw [self]
    exact nofun
  · rw [self]
    exact nofun
  · refine iff_of_true ?_ begun
    exact (congrArg Option.isSome (Tables.withLoaded_of_ne notBsp.symm)).trans booted
  · exact (Function.update_of_ne notBsp.symm ..).trans sound.tables.enabled
  · intro vector handled
    exact fun isZero => sound.tables.handles vector handled
      ((handlers vector (point.handles_lt vector handled)).symm.trans isZero)

theorem SoundAt.apSti (sound : SoundAt platform state point) {rsp : BitVec 64}
    (isAt : state.ap cpu = .sti rsp) :
    SoundAt platform ((state.enable cpu).gotoAp cpu (.initScheduler rsp)) point := by
  have notBsp := sound.notBsp (isAt ▸ nofun : state.ap cpu ≠ .off)
  have holds := sound.locals cpu notBsp
  have move : ApMove platform state ((state.enable cpu).gotoAp cpu (.initScheduler rsp)) cpu
      (.initScheduler rsp) :=
    ⟨rfl, rfl, rfl, rfl, .inr rfl, fun _ => id,
      fun _ different => Function.update_of_ne different .., fun _ _ => rfl⟩
  have self : ((state.enable cpu).gotoAp cpu (.initScheduler rsp)).ap cpu =
      .initScheduler rsp := Function.update_self ..
  refine move.quiet sound isAt ⟨nofun, nofun⟩ ⟨nofun, nofun⟩ rfl rfl
    ⟨?_, ?_, fun _ => ?_, ?_, ?_, ?_⟩
    (sound.tables.same rfl (Function.update_of_ne notBsp.symm ..))
  · rw [self]
    exact holds.registers.trans (isAt ▸ rfl)
  · rw [self]
    exact fun other isRsp => holds.rsp other (isAt ▸ isRsp)
  · exact holds.returns (isAt ▸ rfl)
  · rw [self]
    exact Function.update_self ..
  · rw [self]
    exact nofun
  · rw [self]
    exact nofun

theorem SoundAt.apInitScheduler (sound : SoundAt platform state point) {rsp : BitVec 64}
    (isAt : state.ap cpu = .initScheduler rsp) :
    SoundAt platform ((state.createCpuLock cpu).gotoAp cpu (.loadCount rsp)) point := by
  have holds := sound.locals cpu (sound.notBsp (isAt ▸ nofun))
  have locked : ∀ other, state.cpuLock other = true →
      ((state.createCpuLock cpu).gotoAp cpu (.loadCount rsp)).cpuLock other = true := by
    intro other locked
    show Function.update state.cpuLock cpu true other = true
    rw [Function.update_apply]
    split
    · rfl
    · exact locked
  have move : ApMove platform state ((state.createCpuLock cpu).gotoAp cpu (.loadCount rsp)) cpu
      (.loadCount rsp) :=
    ⟨rfl, rfl, rfl, rfl, .inr rfl, locked, fun _ _ => rfl, fun _ _ => rfl⟩
  have self : ((state.createCpuLock cpu).gotoAp cpu (.loadCount rsp)).ap cpu =
      .loadCount rsp := Function.update_self ..
  refine move.quiet sound isAt ⟨nofun, nofun⟩ ⟨nofun, nofun⟩ rfl rfl
    ⟨?_, ?_, fun _ => ?_, ?_, fun _ => ?_, ?_⟩ (sound.tables.same rfl rfl)
  · rw [self]
    exact holds.registers.trans (isAt ▸ rfl)
  · rw [self]
    exact fun other isRsp => holds.rsp other (isAt ▸ isRsp)
  · exact holds.returns (isAt ▸ rfl)
  · rw [self]
    exact holds.enabled.trans (isAt ▸ rfl)
  · exact Function.update_self ..
  · rw [self]
    exact nofun

/-- A step moves the processor on, and leaves where the others are. -/
theorem apStep_moves (taken : apStep platform state cpu = some next) :
    next.bsp = state.bsp ∧ ∃ target, next.ap = Function.update state.ap cpu target ∧
      target.Begun ∧ (target = .lost ∨ target.stepsLeft + 1 = (state.ap cpu).stepsLeft) := by
  rw [Boot.apStep] at taken
  cases isAt : state.ap cpu with
  | initInterrupts rsp | returning rsp =>
      rw [isAt] at taken
      dsimp only at taken
      split at taken
      · obtain rfl := Option.some.inj taken
        exact ⟨rfl, _, rfl, ⟨nofun, nofun⟩, .inr rfl⟩
      · obtain rfl := Option.some.inj taken
        exact ⟨rfl, _, rfl, ⟨nofun, nofun⟩, .inl rfl⟩
  | off | waitForStartup | halted | lost =>
      rw [isAt] at taken
      cases taken
  | entering | calling rsp | initApic rsp | sti rsp | initScheduler rsp | loadCount rsp
  | storeCount rsp count =>
      rw [isAt] at taken
      obtain rfl := Option.some.inj taken
      exact ⟨rfl, _, rfl, ⟨nofun, nofun⟩, .inr rfl⟩

/-- Each step of another processor keeps the invariant. -/
theorem SoundAt.apStep (proper : platform.Proper) (sound : SoundAt platform state point)
    (inside : cpu < platform.places.cpus) (taken : apStep platform state cpu = some next) :
    SoundAt platform next point := by
  rw [Boot.apStep, proper.index inside] at taken
  cases isAt : state.ap cpu with
  | entering =>
      rw [isAt] at taken
      obtain rfl := Option.some.inj taken
      exact sound.gotoAp isAt ⟨nofun, nofun⟩ ⟨nofun, nofun⟩ rfl rfl
        (fun _ isRsp => .inr (Option.some.inj isRsp).symm) nofun nofun nofun
  | calling rsp =>
      rw [isAt] at taken
      obtain rfl := Option.some.inj taken
      exact sound.calling isAt
  | initInterrupts rsp =>
      rw [isAt] at taken
      obtain ⟨tables, loads, holds⟩ := sound.apInitInterrupts inside isAt
      dsimp only at taken
      rw [loads] at taken
      exact Option.some.inj taken ▸ holds
  | initApic rsp =>
      rw [isAt] at taken
      obtain rfl := Option.some.inj taken
      exact sound.gotoAp isAt ⟨nofun, nofun⟩ ⟨nofun, nofun⟩ rfl rfl (fun _ => .inl) (fun _ => rfl)
        nofun nofun
  | sti rsp =>
      rw [isAt] at taken
      obtain rfl := Option.some.inj taken
      exact sound.apSti isAt
  | initScheduler rsp =>
      rw [isAt] at taken
      obtain rfl := Option.some.inj taken
      exact sound.apInitScheduler isAt
  | loadCount rsp =>
      rw [isAt] at taken
      obtain rfl := Option.some.inj taken
      refine sound.gotoAp isAt ⟨nofun, nofun⟩ ⟨nofun, nofun⟩ rfl rfl (fun _ => .inl) (fun _ => rfl)
        (fun _ => rfl) ?_
      rintro _ _ isStoring
      exact (ApPoint.storeCount.inj isStoring).2.symm
  | storeCount rsp count =>
      rw [isAt] at taken
      obtain rfl := Option.some.inj taken
      exact sound.storeCount isAt
  | returning rsp =>
      rw [isAt] at taken
      dsimp only at taken
      have holds := sound.locals cpu (sound.notBsp (isAt ▸ nofun))
      obtain rfl : rsp = platform.bootTop := holds.rsp rsp (isAt ▸ rfl)
      rw [if_pos (holds.returns (isAt ▸ rfl))] at taken
      obtain rfl := Option.some.inj taken
      exact sound.gotoAp isAt ⟨nofun, nofun⟩ ⟨nofun, nofun⟩ rfl rfl nofun nofun (fun _ => rfl)
        nofun
  | off | waitForStartup | halted | lost =>
      rw [isAt] at taken
      cases taken

end Boot
end ToyKernel
