import ToyKernel.Boot.Invariant

/-!
# The steps of the boot processor

Each step of `boot64` keeps the invariant.  Most steps change neither the stage of a processor nor
what the others see; those that do send an interrupt, or find that a processor has reported.
-/

namespace ToyKernel
namespace Boot

open ApicTimer CpuInfo Interrupts

variable {platform : Platform} {state next : State} {point after : BspPoint} {cpu : Nat}

/-! ## Stages -/

theorem stageOf_congr (places : Places)
    (current : after.current places.cpus = point.current places.cpus)
    (phase : after.phase = point.phase) (cpu : Nat) :
    stageOf places after cpu = stageOf places point cpu := by
  rw [stageOf, stageOf, current, phase]

/-- The stage of the processor that is started. -/
theorem stageOf_current (places : Places) (point : BspPoint)
    (other : point.current places.cpus ≠ places.bspCpu) :
    stageOf places point (point.current places.cpus) = point.phase.stage := by
  rw [stageOf, if_neg other, if_neg (Nat.lt_irrefl _), if_pos rfl]

/-- The stages of the others do not depend on the phase. -/
theorem stageOf_of_ne (places : Places)
    (current : after.current places.cpus = point.current places.cpus)
    (different : cpu ≠ point.current places.cpus) :
    stageOf places after cpu = stageOf places point cpu := by
  rw [stageOf, stageOf, current, if_neg different, if_neg different]

/-! ## Steps without effect on others -/

/-- Nothing changes that the other processors see, but for interrupts and handlers. -/
structure Same (platform : Platform) (state next : State) : Prop where
  ap : next.ap = state.ap
  startedCpus : next.startedCpus = state.startedCpus
  returnAddress : next.returnAddress = state.returnAddress
  cpuLock : ∀ cpu, state.cpuLock cpu = true → next.cpuLock cpu = true
  enabled : ∀ cpu ≠ platform.places.bspCpu, next.enabled cpu = state.enabled cpu
  registers : ∀ cpu ≠ platform.places.bspCpu,
    next.tables.registers cpu = state.tables.registers cpu

theorem Same.refl (state : State) : Same platform state state :=
  ⟨rfl, rfl, rfl, fun _ => id, fun _ _ => rfl, fun _ _ => rfl⟩

theorem Same.local (same : Same platform state next) (other : cpu ≠ platform.places.bspCpu)
    (holds : Local platform state cpu) : Local platform next cpu where
  registers := by rw [same.registers cpu other, same.ap, holds.registers]
  rsp := by rw [same.ap]; exact holds.rsp
  returns := by rw [same.ap, same.returnAddress]; exact holds.returns
  enabled := by rw [same.enabled cpu other, same.ap, holds.enabled]
  locks := by rw [same.ap]; exact fun locks => same.cpuLock cpu (holds.locks locks)
  count := by rw [same.ap, same.startedCpus]; exact holds.count

/-- The boot processor moves, and the stages stay. -/
theorem SoundAt.stay (sound : SoundAt platform state point) (same : Same platform state next)
    (pending : next.pending = state.pending)
    (current : after.current platform.places.cpus = point.current platform.places.cpus)
    (phase : after.phase = point.phase) (fits : Fits platform next after)
    (tables : TablesAt platform after next) : SoundAt platform next after where
  stages := by
    intro cpu
    rw [same.ap, pending, stageOf_congr platform.places current phase]
    exact sound.stages cpu
  fits := fits
  count := by rw [same.startedCpus, same.ap, current]; exact sound.count
  locals cpu other := same.local other (sound.locals cpu other)
  tables := tables

/-- The tables when the boot processor has set its handlers. -/
theorem TablesAt.of_ready (tables : TablesAt platform point state)
    (isReady : point.ready = true) (stays : after.ready = true)
    (sameTables : next.tables = state.tables) (sameEnabled : next.enabled = state.enabled) :
    TablesAt platform after next := by
  have begun : ∀ {point : BspPoint}, point.ready = true → point ≠ .initInterrupts := by
    rintro _ isReady rfl
    cases isReady
  have handles : ∀ {point : BspPoint}, point.ready = true →
      point.handles = [intVectorApicSpurious, intVectorApicTimer] := by
    intro point isReady
    cases point <;> first | rfl | cases isReady
  refine ⟨?_, ?_, ?_, ?_⟩
  · rw [sameTables]
    exact tables.reachable
  · rw [sameTables]
    exact iff_of_true (tables.loaded.mpr (begun isReady)) (begun stays)
  · rw [sameEnabled, tables.enabled]
  · rw [sameTables, handles stays, ← handles isReady]
    exact tables.handles

/-- The boot processor moves while it starts the others, and nothing else changes. -/
theorem SoundAt.goto (sound : SoundAt platform state point)
    (current : after.current platform.places.cpus = point.current platform.places.cpus)
    (phase : after.phase = point.phase) (isReady : point.ready = true)
    (stays : after.ready = true) (fits : Fits platform (state.goto after) after) :
    SoundAt platform (state.goto after) after :=
  sound.stay ⟨rfl, rfl, rfl, fun _ => id, fun _ _ => rfl, fun _ _ => rfl⟩ rfl current phase fits
    (sound.tables.of_ready isReady stays rfl rfl)

/-- It writes the upper half of the interrupt command register. -/
theorem SoundAt.setHigh (sound : SoundAt platform state point) (value : BitVec 32)
    (current : after.current platform.places.cpus = point.current platform.places.cpus)
    (phase : after.phase = point.phase) (isReady : point.ready = true)
    (stays : after.ready = true)
    (fits : ∀ next : State, next.icrHigh = value → next.trampoline = state.trampoline →
      Fits platform next after) :
    SoundAt platform ((state.setHigh value).goto after) after :=
  sound.stay ⟨rfl, rfl, rfl, fun _ => id, fun _ _ => rfl, fun _ _ => rfl⟩ rfl current phase
    (fits _ rfl rfl) (sound.tables.of_ready isReady stays rfl rfl)

/-! ## The processor that is started -/

/-- A processor that is not started yet has not reported. -/
theorem InStage.not_counted {point : ApPoint} {pending : List Ipi} {stage : Stage}
    (inStage : InStage point pending stage) (early : stage = .untouched ∨ stage = .reset) :
    point.counted = false := by
  obtain rfl | rfl := early
  · rw [inStage.1]
    rfl
  · obtain ⟨isOff, -⟩ | ⟨waits, -⟩ := inStage
    · rw [isOff]
      rfl
    · rw [waits]
      rfl

/-- What is known of the processor that is started. -/
theorem SoundAt.starting (sound : SoundAt platform state point)
    (starts : Starts platform state cpu)
    (isCurrent : point.current platform.places.cpus = cpu) :
    InStage (state.ap cpu) (state.pending cpu) point.phase.stage ∧
      state.startedCpus = countBelow platform.places.bspCpu cpu +
        if (state.ap cpu).counted then 1 else 0 := by
  have inStage := sound.stages cpu
  have count := sound.count
  subst isCurrent
  rw [stageOf_current platform.places point starts.other] at inStage
  exact ⟨inStage, count⟩

/-! ## Interrupts to other processors -/

/-- The interrupt goes to the processor that is started. -/
theorem send_eq (proper : platform.Proper) (inside : cpu < platform.places.cpus)
    (high : state.icrHigh = icrHigh platform.table cpu) {low : BitVec 32} {delivery : Delivery}
    {vector : BitVec 8} (encodes : Encodes low delivery vector) :
    state.send platform low = { state with
      pending := Function.update state.pending cpu
        (state.pending cpu ++ [⟨delivery, vector, (platform.table.descs cpu).id⟩]) } := by
  obtain ⟨ids, srat, bits, describes⟩ := proper.described
  rw [State.send, high, encodes.decode, icrHigh_destination]
  dsimp only
  congr 1
  funext other
  obtain rfl | different := eq_or_ne other cpu
  · rw [Function.update_self, if_pos ⟨inside, .inl rfl⟩]
  · rw [Function.update_of_ne different, if_neg]
    rintro ⟨alsoInside, isOther | isAll⟩
    · rw [← proper.num] at inside alsoInside
      exact different (id_injective describes alsoInside inside isOther.symm)
    · exact proper.single cpu inside isAll

/-- An interrupt for the processor that is started. -/
theorem SoundAt.send (sound : SoundAt platform state point) (proper : platform.Proper)
    (starts : Starts platform state cpu)
    (isCurrent : point.current platform.places.cpus = cpu)
    (stillCurrent : after.current platform.places.cpus = cpu)
    (high : state.icrHigh = icrHigh platform.table cpu) {low : BitVec 32} {delivery : Delivery}
    {vector : BitVec 8} (encodes : Encodes low delivery vector)
    (inStage : ∀ ipi : Ipi, ipi.delivery = delivery → ipi.vector = vector →
      InStage (state.ap cpu) (state.pending cpu ++ [ipi]) after.phase.stage)
    (isReady : point.ready = true) (stays : after.ready = true)
    (fits : Fits platform ((state.send platform low).goto after) after) :
    SoundAt platform ((state.send platform low).goto after) after := by
  rw [send_eq proper starts.inside high encodes] at fits ⊢
  refine ⟨fun other => ?_, fits, ?_, fun other notBsp => ?_, ?_⟩
  · obtain rfl | different := eq_or_ne other cpu
    · have stage := stageOf_current platform.places after
        (stillCurrent ▸ starts.other)
      rw [stillCurrent] at stage
      rw [stage]
      dsimp only [State.goto]
      rw [Function.update_self]
      exact inStage _ rfl rfl
    · rw [stageOf_of_ne platform.places (stillCurrent.trans isCurrent.symm)
        (isCurrent.symm ▸ different)]
      dsimp only [State.goto]
      rw [Function.update_of_ne different]
      exact sound.stages other
  · rw [stillCurrent]
    exact (sound.starting starts isCurrent).2
  · have same : Same platform state (State.goto { state with
        pending := Function.update state.pending cpu
          (state.pending cpu ++ [⟨delivery, vector, (platform.table.descs cpu).id⟩]) } after) :=
      ⟨rfl, rfl, rfl, fun _ => id, fun _ _ => rfl, fun _ _ => rfl⟩
    exact same.local notBsp (sound.locals other notBsp)
  · exact sound.tables.of_ready isReady stays rfl rfl

/-- The interrupts for a reset and a startup follow what is on the way. -/
theorem InStage.reset {point : ApPoint} {pending : List Ipi} {ipi : Ipi}
    (inStage : InStage point pending .untouched) (isInit : ipi.delivery = .init) :
    InStage point (pending ++ [ipi]) .reset := by
  rw [inStage.1, inStage.2]
  exact .inl ⟨rfl, ipi, isInit, rfl⟩

theorem Startups.snoc {ipis : List Ipi} {ipi : Ipi} (startups : Startups ipis)
    (isStartup : ipi.delivery = .startup) (vector : ipi.vector = 1) : Startups (ipis ++ [ipi]) := by
  intro other present
  obtain earlier | isLast := List.mem_append.mp present
  · exact startups other earlier
  · obtain rfl := List.mem_singleton.mp isLast
    exact ⟨isStartup, vector⟩

theorem InStage.start {point : ApPoint} {pending : List Ipi} {stage : Stage} {ipi : Ipi}
    (inStage : InStage point pending stage) (late : stage = .reset ∨ stage = .started)
    (isStartup : ipi.delivery = .startup) (vector : ipi.vector = 1) :
    InStage point (pending ++ [ipi]) .started := by
  have single : Startups [ipi] := Startups.snoc (List.forall_mem_nil _) isStartup vector
  obtain rfl | rfl := late
  · obtain ⟨isOff, first, isInit, rfl⟩ | ⟨waits, rfl⟩ := inStage
    · exact .inl ⟨isOff, first, [ipi], isInit, rfl, single⟩
    · exact .inr ⟨waits ▸ nofun, waits ▸ nofun, single⟩
  · obtain ⟨isOff, first, ipis, isInit, rfl, startups⟩ | ⟨notOff, notLost, startups⟩ := inStage
    · exact .inl ⟨isOff, first, ipis ++ [ipi], isInit, rfl, startups.snoc isStartup vector⟩
    · exact .inr ⟨notOff, notLost, startups.snoc isStartup vector⟩

/-- A processor that has reported can be left behind. -/
theorem InStage.report {point : ApPoint} {pending : List Ipi}
    (inStage : InStage point pending .started) (counted : point.counted = true) :
    InStage point pending .reported := by
  obtain ⟨rfl, -⟩ | ⟨-, -, startups⟩ := inStage
  · cases counted
  · exact ⟨counted, startups⟩

/-! ## The next processor -/

theorem countBelow_succ {bspCpu cpu : Nat} (other : cpu ≠ bspCpu) :
    countBelow bspCpu (cpu + 1) = countBelow bspCpu cpu + 1 := by
  simp only [countBelow]
  split <;> split <;> omega

theorem countBelow_bsp (bspCpu : Nat) :
    countBelow bspCpu (bspCpu + 1) = countBelow bspCpu bspCpu := by
  simp [countBelow]

/-- The processors above the one that is started have not been touched. -/
theorem stageOf_above (places : Places) (above : point.current places.cpus < cpu) :
    stageOf places point cpu = .untouched := by
  rw [stageOf, if_neg (Nat.lt_asymm above), if_neg (Nat.ne_of_gt above), ite_self]

/-- The boot processor goes on to the next processor. -/
theorem SoundAt.advance (sound : SoundAt platform state point)
    (isCurrent : point.current platform.places.cpus = cpu)
    (reported : cpu ≠ platform.places.bspCpu →
      InStage (state.ap cpu) (state.pending cpu) .reported)
    (count : state.startedCpus = countBelow platform.places.bspCpu (cpu + 1))
    (isReady : point.ready = true)
    (fits : Fits platform (state.goto (.nextCpu (cpu + 1))) (.nextCpu (cpu + 1))) :
    SoundAt platform (state.goto (.nextCpu (cpu + 1))) (.nextCpu (cpu + 1)) := by
  have above : InStage (state.ap (cpu + 1)) (state.pending (cpu + 1)) .untouched := by
    have inStage := sound.stages (cpu + 1)
    rwa [stageOf_above platform.places (isCurrent ▸ Nat.lt_succ_self cpu)] at inStage
  refine ⟨fun other => ?_, fits, ?_, fun other notBsp => ?_, ?_⟩
  · show InStage (state.ap other) (state.pending other) _
    have inStage := sound.stages other
    have current : (BspPoint.nextCpu (cpu + 1)).current platform.places.cpus = cpu + 1 := rfl
    rw [stageOf, isCurrent] at inStage
    rw [stageOf, current]
    by_cases isBsp : other = platform.places.bspCpu
    · rwa [if_pos isBsp] at inStage ⊢
    · rw [if_neg isBsp] at inStage ⊢
      obtain less | rfl | greater := Nat.lt_trichotomy other cpu
      · rw [if_pos less] at inStage
        rwa [if_pos (Nat.lt_succ_of_lt less)]
      · rw [if_pos (Nat.lt_succ_self other)]
        exact reported isBsp
      · rw [if_neg (Nat.lt_asymm greater), if_neg (Nat.ne_of_gt greater)] at inStage
        rw [if_neg (Nat.not_lt.mpr greater)]
        split <;> exact inStage
  · show state.startedCpus = countBelow platform.places.bspCpu (cpu + 1) +
      if (state.ap (cpu + 1)).counted then 1 else 0
    rw [above.not_counted (.inl rfl)]
    exact count
  · have same : Same platform state (state.goto (.nextCpu (cpu + 1))) :=
      ⟨rfl, rfl, rfl, fun _ => id, fun _ _ => rfl, fun _ _ => rfl⟩
    exact same.local notBsp (sound.locals other notBsp)
  · exact sound.tables.of_ready isReady rfl rfl rfl

/-! ## Handlers -/

/-- `set_isr` sets a handler. -/
theorem TablesAt.setIsr (tables : TablesAt platform point state) {vector : Nat}
    (isVector : vector < intVectors) (isr : BitVec 64) (begun : point ≠ .initInterrupts)
    (stays : after ≠ .initInterrupts) (notZero : vector ∈ after.handles → isr ≠ 0)
    (handles : ∀ other ∈ after.handles, other ≠ vector → other ∈ point.handles) :
    TablesAt platform after ((state.setIsr platform vector isr).goto after) := by
  have booted := tables.loaded.mpr begun
  have taken : (tableSystem platform.places platform.defaultIsr).step state.tables
      (.setIsr vector isr) = some (state.setIsr platform vector isr).tables :=
    if_pos ⟨isVector, booted⟩
  refine ⟨tables.reachable.extend taken, iff_of_true booted stays, tables.enabled,
    fun other handled => ?_⟩
  show getIsr platform.places
    (Interrupts.setIsr platform.places state.tables.memory vector isr) other ≠ 0
  obtain rfl | different := eq_or_ne other vector
  · rw [getIsr_setIsr]
    exact notZero handled
  · rw [getIsr_setIsr_of_ne isVector (after.handles_lt other handled) different]
    exact tables.handles other (handles other handled different)

theorem isVectors : intVectorApicSpurious < intVectors ∧ intVectorApicTimer < intVectors ∧
    intVectorSchedulerTask < intVectors := by decide

/-- `set_isr` is a step of the boot processor alone. -/
theorem same_setIsr (vector : Nat) (isr : BitVec 64) :
    Same platform state ((state.setIsr platform vector isr).goto after) :=
  ⟨rfl, rfl, rfl, fun _ => id, fun _ _ => rfl, fun _ _ => rfl⟩

/-! ## Steps -/

theorem SoundAt.initInterrupts (sound : SoundAt platform state .initInterrupts)
    {tables : Tables}
    (loads : Interrupts.initInterrupts platform.places platform.defaultIsr state.tables
      platform.places.bspCpu = some tables) :
    SoundAt platform (((state.setTables tables).logDebug platform.places.bspCpu).goto
      .setSpuriousIsr) .setSpuriousIsr := by
  have notLoaded : state.tables.registers platform.places.bspCpu = none :=
    Option.not_isSome_iff_eq_none.mp fun loaded => sound.tables.loaded.mp loaded rfl
  have taken : (tableSystem platform.places platform.defaultIsr).step state.tables
      (.init platform.places.bspCpu) = some tables :=
    (if_pos ⟨platform.places.bspCpu_lt, notLoaded, .inl rfl⟩).trans loads
  obtain ⟨memory, isLoaded, -⟩ := (Tables.sound_of_reachable sound.tables.reachable).init
    platform.defaultIsr platform.places.bspCpu_lt notLoaded (.inl rfl)
  obtain rfl := Option.some.inj (loads.symm.trans isLoaded)
  refine sound.stay ⟨rfl, rfl, rfl, fun _ => id, fun other notBsp => ?_, fun other notBsp => ?_⟩ rfl
    rfl rfl trivial ⟨sound.tables.reachable.extend taken, iff_of_true ?_ nofun, ?_, nofun⟩
  · exact Function.update_of_ne notBsp ..
  · exact Tables.withLoaded_of_ne notBsp
  · exact (congrArg Option.isSome Tables.withLoaded_self).trans rfl
  · exact Function.update_self ..

theorem SoundAt.startApCpus (sound : SoundAt platform state .startApCpus)
    (single : platform.places.cpus = 1) :
    SoundAt platform (state.goto .setTimerIsr) .setTimerIsr := by
  have isBsp : platform.places.bspCpu = 0 := by
    have inside := platform.places.bspCpu_lt
    omega
  have untouched : ∀ cpu, InStage (state.ap cpu) (state.pending cpu) .untouched := by
    intro cpu
    have inStage := sound.stages cpu
    have idle : stageOf platform.places .startApCpus cpu = .untouched := by
      rw [stageOf]
      exact (ite_eq_left_iff.mpr fun _ => (if_neg (Nat.not_lt_zero cpu)).trans (ite_self _))
    rwa [idle] at inStage
  refine ⟨fun cpu => ?_, trivial, ?_, fun cpu notBsp => ?_, sound.tables.of_ready rfl rfl rfl rfl⟩
  · have idle : stageOf platform.places .setTimerIsr cpu = .untouched := by
      rw [stageOf]
      split
      · rfl
      · rename_i notBsp
        rw [if_neg (by simp only [BspPoint.current]; omega)]
        exact ite_self _
    rw [idle]
    exact untouched cpu
  · have count := sound.count
    rw [(untouched _).not_counted (.inl rfl)] at count
    show state.startedCpus = countBelow platform.places.bspCpu platform.places.cpus +
      if (state.ap platform.places.cpus).counted then 1 else 0
    rw [(untouched _).not_counted (.inl rfl), count, single, isBsp]
    rfl
  · have same : Same platform state (state.goto .setTimerIsr) :=
      ⟨rfl, rfl, rfl, fun _ => id, fun _ _ => rfl, fun _ _ => rfl⟩
    exact same.local notBsp (sound.locals cpu notBsp)

/-- Each step of the boot processor keeps the invariant. -/
theorem Sound.bspStep (proper : platform.Proper) (sound : Sound platform state)
    (taken : bspStep platform state = some next) : Sound platform next := by
  rw [Sound] at sound
  unfold Boot.bspStep at taken
  cases isAt : state.bsp with
  | initInterrupts =>
      rw [isAt] at sound taken
      dsimp only at taken
      have notLoaded : state.tables.registers platform.places.bspCpu = none :=
        Option.not_isSome_iff_eq_none.mp fun loaded => sound.tables.loaded.mp loaded rfl
      obtain ⟨memory, loads, -⟩ := (Tables.sound_of_reachable sound.tables.reachable).init
        platform.defaultIsr platform.places.bspCpu_lt notLoaded (.inl rfl)
      rw [loads] at taken
      exact Option.some.inj taken ▸ sound.initInterrupts loads
  | setSpuriousIsr =>
      rw [isAt] at sound taken
      obtain rfl := Option.some.inj taken
      exact sound.stay (same_setIsr ..) rfl rfl rfl trivial
        (sound.tables.setIsr isVectors.1 _ nofun nofun (fun _ => proper.emptyIsr)
          (show ∀ other ∈ [intVectorApicSpurious], other ≠ intVectorApicSpurious →
            other ∈ ([] : List Nat) by decide))
  | setEmptyTimerIsr =>
      rw [isAt] at sound taken
      obtain rfl := Option.some.inj taken
      exact sound.stay (same_setIsr ..) rfl rfl rfl trivial
        (sound.tables.setIsr isVectors.2.1 _ nofun nofun (fun _ => proper.emptyIsr)
          (show ∀ other ∈ [intVectorApicSpurious, intVectorApicTimer],
            other ≠ intVectorApicTimer → other ∈ [intVectorApicSpurious] by decide))
  | sti =>
      rw [isAt] at sound taken
      obtain rfl := Option.some.inj taken
      refine sound.stay ⟨rfl, rfl, rfl, fun _ => id, fun other notBsp => ?_, fun _ _ => rfl⟩ rfl
        rfl rfl trivial ⟨sound.tables.reachable, iff_of_true ?_ nofun, ?_, sound.tables.handles⟩
      · exact Function.update_of_ne notBsp ..
      · exact sound.tables.loaded.mpr nofun
      · exact Function.update_self ..
  | startApCpus =>
      rw [isAt] at sound taken
      dsimp only at taken
      split at taken
      · rename_i single
        exact Option.some.inj taken ▸ sound.startApCpus single
      · have same (after : BspPoint) :
            Same platform state (State.goto { state with trampoline := true } after) :=
          ⟨rfl, rfl, rfl, fun _ => id, fun _ _ => rfl, fun _ _ => rfl⟩
        split at taken
        · obtain rfl := Option.some.inj taken
          exact sound.stay (same _) rfl rfl rfl trivial (sound.tables.of_ready rfl rfl rfl rfl)
        · obtain rfl := Option.some.inj taken
          exact sound.stay (same _) rfl rfl rfl ⟨Nat.zero_le _, rfl⟩
            (sound.tables.of_ready rfl rfl rfl rfl)
  | nextCpu cpu =>
      rw [isAt] at sound taken
      dsimp only at taken
      obtain ⟨few, trampoline⟩ := sound.fits
      split at taken
      · rename_i inside
        split at taken
        · rename_i other
          obtain rfl := Option.some.inj taken
          exact sound.goto rfl rfl rfl rfl ⟨inside, other, trampoline⟩
        · rename_i isBsp
          obtain rfl := Option.some.inj taken
          obtain rfl := not_not.mp isBsp
          have untouched := sound.stages platform.places.bspCpu
          rw [stageOf, if_pos rfl] at untouched
          have count : state.startedCpus =
              countBelow platform.places.bspCpu platform.places.bspCpu +
                if (state.ap platform.places.bspCpu).counted then 1 else 0 := sound.count
          rw [untouched.not_counted (.inl rfl), ← countBelow_bsp] at count
          exact sound.advance rfl (absurd rfl) count rfl ⟨inside, trampoline⟩
      · rename_i outside
        obtain rfl := Option.some.inj taken
        exact sound.goto (Nat.le_antisymm (Nat.not_lt.mp outside) few) rfl rfl rfl trivial
  | initHigh cpu =>
      rw [isAt] at sound taken
      obtain rfl := Option.some.inj taken
      have starts : Starts platform state cpu := sound.fits
      exact sound.setHigh _ rfl rfl rfl rfl fun _ high same =>
        ⟨⟨starts.inside, starts.other, same.trans starts.trampoline⟩, high⟩
  | initLow cpu =>
      rw [isAt] at sound taken
      obtain rfl := Option.some.inj taken
      obtain ⟨starts, high⟩ := sound.fits
      refine sound.send proper starts rfl rfl high encodes_init (fun ipi isInit _ => ?_) rfl rfl ?_
      · exact (sound.starting starts rfl).1.reset isInit
      · rw [send_eq proper starts.inside high encodes_init]
        exact ⟨starts.inside, starts.other, starts.trampoline⟩
  | initHalt cpu =>
      rw [isAt] at sound taken
      obtain rfl := Option.some.inj taken
      have starts : Starts platform state cpu := sound.fits
      exact sound.goto rfl rfl rfl rfl ⟨starts.inside, starts.other, starts.trampoline⟩
  | readCount cpu =>
      rw [isAt] at sound taken
      obtain rfl := Option.some.inj taken
      have starts : Starts platform state cpu := sound.fits
      obtain ⟨inStage, count⟩ := sound.starting starts rfl
      rw [inStage.not_counted (.inr rfl)] at count
      exact sound.goto rfl rfl rfl rfl
        ⟨⟨starts.inside, starts.other, starts.trampoline⟩, count⟩
  | startupHigh cpu cpus attempt =>
      rw [isAt] at sound taken
      dsimp only at taken
      obtain ⟨starts, isCount⟩ := sound.fits
      split at taken
      · obtain rfl := Option.some.inj taken
        exact sound.setHigh _ rfl rfl rfl rfl fun _ high same =>
          ⟨⟨starts.inside, starts.other, same.trans starts.trampoline⟩, isCount, high⟩
      · obtain rfl := Option.some.inj taken
        refine sound.goto rfl ?_ rfl rfl ⟨starts.inside, starts.other, starts.trampoline⟩
        exact (if_neg (by omega)).symm
  | startupLow cpu cpus attempt =>
      rw [isAt] at sound taken
      obtain rfl := Option.some.inj taken
      obtain ⟨starts, isCount, high⟩ := sound.fits
      have encodes := encodes_startup bstart16Addr
      refine sound.send proper starts rfl rfl high encodes (fun ipi isStartup vector => ?_) rfl rfl
        ?_
      · refine (sound.starting starts rfl).1.start ?_ isStartup vector
        rw [BspPoint.phase]
        split
        · exact .inl rfl
        · exact .inr rfl
      · rw [send_eq proper starts.inside high encodes]
        exact ⟨⟨starts.inside, starts.other, starts.trampoline⟩, isCount⟩
  | retryHalt cpu cpus attempt timeout =>
      rw [isAt] at sound taken
      dsimp only at taken
      obtain ⟨starts, isCount⟩ := sound.fits
      split at taken
      · obtain rfl := Option.some.inj taken
        exact sound.goto rfl rfl rfl rfl
          ⟨⟨starts.inside, starts.other, starts.trampoline⟩, isCount⟩
      · obtain rfl := Option.some.inj taken
        exact sound.goto rfl rfl rfl rfl
          ⟨⟨starts.inside, starts.other, starts.trampoline⟩, isCount⟩
  | check cpu cpus attempt timeout =>
      rw [isAt] at sound taken
      dsimp only at taken
      obtain ⟨starts, isCount⟩ := sound.fits
      split at taken
      · rename_i more
        obtain rfl := Option.some.inj taken
        obtain ⟨inStage, count⟩ := sound.starting starts rfl
        -- the counter has grown since `cpus` was read, and only this processor can have done so
        have counted : (state.ap cpu).counted = true := by
          by_contra notCounted
          rw [if_neg notCounted] at count
          omega
        rw [if_pos counted, ← countBelow_succ starts.other] at count
        exact sound.advance rfl (fun _ => inStage.report counted) count rfl
          ⟨starts.inside, starts.trampoline⟩
      · obtain rfl := Option.some.inj taken
        exact sound.goto rfl rfl rfl rfl
          ⟨⟨starts.inside, starts.other, starts.trampoline⟩, isCount⟩
  | setTimerIsr =>
      rw [isAt] at sound taken
      obtain rfl := Option.some.inj taken
      exact sound.stay (same_setIsr ..) rfl rfl rfl trivial
        (sound.tables.setIsr isVectors.2.1 _ nofun nofun (fun _ => proper.timerIsr)
          fun _ handled _ => handled)
  | setTaskIsr =>
      rw [isAt] at sound taken
      obtain rfl := Option.some.inj taken
      exact sound.stay (same_setIsr ..) rfl rfl rfl trivial
        (sound.tables.setIsr isVectors.2.2 _ nofun nofun
          (fun handled => absurd handled (show intVectorSchedulerTask ∉
            [intVectorApicSpurious, intVectorApicTimer] by decide)) fun _ handled _ => handled)
  | createLock =>
      rw [isAt] at sound taken
      obtain rfl := Option.some.inj taken
      refine sound.stay ⟨rfl, rfl, rfl, fun other locked => ?_, fun _ _ => rfl, fun _ _ => rfl⟩ rfl
        rfl rfl trivial (sound.tables.of_ready rfl rfl rfl rfl)
      show Function.update state.cpuLock platform.places.bspCpu true other = true
      rw [Function.update_apply]
      split
      · rfl
      · exact locked
  | booted | failed cpu | noMemory | lost =>
      rw [isAt] at taken
      cases taken

end Boot
end ToyKernel
