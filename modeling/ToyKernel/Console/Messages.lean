import ToyKernel.Console.Format
import ToyKernel.Console.Screen
import ToyKernel.Console.Transcript
import ToyKernel.Library.GuardedSection

/-!
# Messages from several processors

Calls of `kprintf` and `kclear` under the lock of the display, one statement at a time.  The
display shows their messages one after another, and the controller the cursor behind them.
-/

namespace ToyKernel
namespace Console

open GuardedBody StateTransition

/-! ## The bodies -/

/-- The calls, with what is in the place of `buf` before. -/
inductive Request
  | kprintf (call : Call) (stack : Nat → BitVec 8)
  | kclear

/-- The local data of a call: the local variables of `kprintf`, and the point in the functions
that it calls. -/
inductive Locals
  | kprintf (printing : Kprintf) (work : Option Work)
  | kclear (work : Option Work)

/-- What a call returns. -/
def Locals.num : Locals → BitVec 32
  | .kprintf printing _ => printing.num
  | .kclear _ => 0

namespace Kprintf

/-- The local variables, without the data of the display. -/
def locals (state : Kprintf) : Kprintf :=
  { state with console := blankDisplay }

/-- The function that a step of `kprintf` calls. -/
def works (before after : Kprintf) : Option Work :=
  if after.point = .done then
    some .cursor
  else
    (after.passed.drop before.passed.length).head?.map .character

end Kprintf

/-- One statement of a call. -/
def Locals.access : Request → Locals × Screen → Option (Locals × Screen)
  | .kprintf call _, (.kprintf printing none, screen) =>
      (Kprintf.step call { printing with console := screen.console }).map fun next =>
        (.kprintf next.locals (printing.works next), screen)
  | .kprintf _ _, (.kprintf printing (some work), screen) =>
      let performed := work.perform screen
      some (.kprintf printing performed.1, performed.2)
  | .kclear, (.kclear (some work), screen) =>
      let performed := work.perform screen
      some (.kclear performed.1, performed.2)
  | _, _ => none

/-- The bodies of `kprintf` and `kclear`. -/
def console : GuardedBody Request Locals Screen where
  enter
    | .kprintf _ stack => .kprintf (Kprintf.start stack Kprintf.blankDisplay) none
    | .kclear => .kclear (some (.clear 0 0))
  access := Locals.access

/-! ## Steps of `kprintf` -/

namespace Kprintf

/-- What a step of `kprintf` does to the display: nothing, one character, or the cursor. -/
inductive Effect (state next : Kprintf) : Prop
  | silent :
      next.point ≠ .done → next.passed = state.passed → next.console = state.console →
      Effect state next
  | put (chr : BitVec 8) :
      next.point ≠ .done → next.passed = state.passed ++ [chr] →
      next.console = putChar state.console chr → Effect state next
  | ended :
      next.point = .done → next.passed = state.passed →
      next.console = setDisplayCursor state.console state.console.displayRow
        state.console.displayCol → Effect state next

variable {call : Call} {state next : Kprintf} {chr : BitVec 8}

theorem effect_switch (taken : state.switch call chr = some next)
    (notDone : state.point ≠ .done) : Effect state next := by
  simp only [switch] at taken
  split at taken
  · exact Option.some.inj taken ▸ .silent notDone rfl rfl
  · split at taken
    · exact Option.some.inj taken ▸ .put 0x25 (by simp) rfl rfl
    · split at taken
      · exact Option.some.inj taken ▸ .silent (by simp) rfl rfl
      · split at taken
        · obtain ⟨buf, -, taken⟩ := Option.bind_eq_some_iff.mp taken
          obtain rfl := Option.some.inj taken
          by_cases negative : (if state.sizeLong = true then call.vargs state.vargs
            else ((call.vargs state.vargs).setWidth 32).signExtend 64).slt 0 = true
          · rw [if_pos negative]
            exact .put 0x2D (by simp) rfl rfl
          · rw [if_neg negative]
            exact .silent (by simp) rfl rfl
        · split at taken
          · obtain ⟨buf, -, taken⟩ := Option.bind_eq_some_iff.mp taken
            exact Option.some.inj taken ▸ .silent (by simp) rfl rfl
          · split at taken
            · exact Option.some.inj taken ▸ .silent (by simp) rfl rfl
            · exact Option.some.inj taken ▸ .silent (by simp) rfl rfl

theorem effect_of_step (taken : step call state = some next) : Effect state next := by
  simp only [step] at taken
  split at taken
  · rename_i atFormat
    split at taken
    · exact Option.some.inj taken ▸ .ended rfl rfl rfl
    · split at taken
      · exact Option.some.inj taken ▸ .silent (by simp) rfl rfl
      · refine Option.some.inj taken ▸ .put _ ?_ rfl rfl
        exact fun done => absurd (atFormat.symm.trans done) (by simp)
  · rename_i atType
    have notDone : state.point ≠ .done := by simp [atType]
    cases effect_switch taken notDone with
    | silent notDone passed console => exact .silent notDone passed console
    | put chr notDone passed console => exact .put chr notDone passed console
    | ended done passed console => exact .ended done passed console
  · split at taken
    · exact Option.some.inj taken ▸ .put _ (by simp) rfl rfl
    · exact Option.some.inj taken ▸ .silent (by simp) rfl rfl
  · cases taken

end Kprintf

/-! ## Calls -/

section Calls

variable {call : Call} {stack : Nat → BitVec 8} {state next final : Kprintf} {crtc : Crtc}

/-- The functions that `kprintf` calls do their work. -/
theorem reaches_work {printing : Kprintf} {before after : Option Work × Screen}
    (runs : Work.Runs before after) :
    Reaches (Locals.access (.kprintf call stack)) (.kprintf printing before.1, before.2)
      (.kprintf printing after.1, after.2) := by
  refine Relation.ReflTransGen.lift
    (fun point : Option Work × Screen => (Locals.kprintf printing point.1, point.2)) ?_ _ _ runs
  rintro ⟨work, screen⟩ ⟨nextWork, nextScreen⟩ taken
  cases work with
  | none => cases taken
  | some work => exact congrArg (fun point : Option Work × Screen =>
      some (Locals.kprintf printing point.1, point.2)) (Option.some.inj taken)

theorem reaches_kclear (screen : Screen) :
    Reaches (Locals.access .kclear) (.kclear (some (.clear 0 0)), screen)
      (.kclear none, screen.kclear) := by
  refine Relation.ReflTransGen.lift
    (fun point : Option Work × Screen => (Locals.kclear point.1, point.2)) ?_ _ _
    (Work.runs_kclear screen)
  rintro ⟨work, screen⟩ ⟨nextWork, nextScreen⟩ taken
  cases work with
  | none => cases taken
  | some work => exact congrArg (fun point : Option Work × Screen =>
      some (Locals.kclear point.1, point.2)) (Option.some.inj taken)

/-- The controller while `kprintf` runs, and after it has ended. -/
def crtcAt (crtc : Crtc) (state : Kprintf) : Crtc :=
  if state.point = .done then
    crtc.setLocation
      (BitVec.ofInt 32 (state.console.displayRow * vgaCols + state.console.displayCol))
  else
    crtc

/-- A step of `kprintf` and the work that it calls for. -/
theorem reaches_step (taken : Kprintf.step call state = some next) :
    Reaches (Locals.access (.kprintf call stack))
      (.kprintf state.locals none, ⟨state.console, crtc⟩)
      (.kprintf next.locals none, ⟨next.console, crtcAt crtc next⟩) := by
  have called : Locals.access (.kprintf call stack)
      (.kprintf state.locals none, ⟨state.console, crtc⟩) =
        some (.kprintf next.locals (state.works next), ⟨state.console, crtc⟩) :=
    congrArg (Option.map _) taken
  refine .head called ?_
  cases Kprintf.effect_of_step taken with
  | silent notDone passed console =>
      rw [Kprintf.works, if_neg notDone, passed, List.drop_length, crtcAt, if_neg notDone, console]
      exact .refl
  | put chr notDone passed console =>
      rw [Kprintf.works, if_neg notDone, passed, List.drop_left, crtcAt, if_neg notDone, console]
      exact reaches_work (Work.runs_putChar ⟨state.console, crtc⟩ chr)
  | ended done passed console =>
      rw [Kprintf.works, if_pos done, crtcAt, if_pos done, console]
      exact reaches_work (Work.runs_cursor ⟨state.console, crtc⟩)

theorem reaches_runs {console : State}
    (runs : Kprintf.Runs call (Kprintf.start stack console) next) :
    Reaches (Locals.access (.kprintf call stack))
      (.kprintf (Kprintf.start stack Kprintf.blankDisplay) none, ⟨console, crtc⟩)
      (.kprintf next.locals none, ⟨next.console, crtcAt crtc next⟩) := by
  induction runs with
  | refl => exact .refl
  | @tail middle next _ taken inductionHypothesis =>
      -- a call that has ended does not go on
      have notDone : middle.point ≠ .done := fun done => by
        rw [Kprintf.step, done] at taken
        cases taken
      rw [crtcAt, if_neg notDone] at inductionHypothesis
      exact inductionHypothesis.trans (reaches_step taken)

/-- What a call of `kprintf` that returns does to the screen. -/
theorem kprintf_performs (crtc : Crtc) {console : State}
    (returns : Kprintf.Returns call stack console final) :
    Console.console.Performs (.kprintf call stack) ⟨console, crtc⟩ (.kprintf final.locals none)
      ⟨final.console, crtcAt crtc final⟩ := by
  refine mem_eval.mpr ⟨reaches_runs returns.runs, ?_⟩
  have ended : Kprintf.step call final = none := by
    rw [Kprintf.step, returns.done]
  exact congrArg (Option.map _) ended

theorem kclear_performs (screen : Screen) :
    console.Performs .kclear screen (.kclear none) screen.kclear :=
  mem_eval.mpr ⟨reaches_kclear screen, rfl⟩

end Calls

/-! ## The messages -/

/-- The screen shows a terminal, and the controller its cursor. -/
structure Displays (display : Screen) (terminal : Terminal) : Prop extends
    Shows display.console terminal where
  tidy : terminal.Tidy
  location : (display.crtc.location.toNat : Int) =
    display.console.displayRow * vgaCols + display.console.displayCol

/-- The message that a call prints; the format and the arguments must match. -/
inductive Prints : Request → List (BitVec 8) → Prop
  | kprintf {call : Call} {stack : Nat → BitVec 8} {pieces : List Piece}
      {text : List (BitVec 8)} :
      IsString call.formatByte 0 (spell pieces) → Renders call 0 pieces text →
      Prints (.kprintf call stack) text
  | kclear : Prints .kclear []

/-- What a call does to the terminal. -/
def Terminal.apply (terminal : Terminal) (text : List (BitVec 8)) : Request → Terminal
  | .kprintf _ _ => text.foldl Terminal.type terminal
  | .kclear => Terminal.blank

theorem Shows.setDisplayCursor {state : State} {terminal : Terminal} (shows : Shows state terminal)
    (row col : Int) : Shows (Console.setDisplayCursor state row col) terminal :=
  ⟨⟨shows.rowFits, shows.sameRow, shows.screen⟩, shows.colFits, shows.sameCol⟩

theorem Terminal.Tidy.types {terminal : Terminal} (tidy : terminal.Tidy)
    (text : List (BitVec 8)) : (text.foldl Terminal.type terminal).Tidy := by
  induction text generalizing terminal with
  | nil => exact tidy
  | cons chr text inductionHypothesis => exact inductionHypothesis (tidy.type chr)

theorem displays_kclear (screen : Screen) : Displays screen.kclear Terminal.blank where
  toShows := (shows_kclear screen.console).setDisplayCursor 0 0
  tidy := Terminal.tidy_blank
  location :=
    have first : (0 : Int) ≤ 0 ∧ (0 : Int) < vgaRows ∧ (0 : Int) < vgaCols := by decide
    location_setLocation screen.crtc ⟨first.1, first.2.1⟩ ⟨first.1, first.2.2⟩

variable {Party : Type*} {screen after : Screen} {terminal : Terminal} {request : Request}
  {locals : Locals} {text : List (BitVec 8)}

/-- A call prints its message. -/
theorem Displays.performs (displays : Displays screen terminal)
    (performs : console.Performs request screen locals after) (prints : Prints request text) :
    Displays after (terminal.apply text request) ∧ locals.num = BitVec.ofNat 32 text.length := by
  cases prints with
  | @kprintf call stack pieces text isFormat renders =>
      obtain ⟨final, returns, -, num, -, -, console⟩ :=
        Kprintf.kprintf_renders call pieces text stack screen.console isFormat renders
      obtain ⟨rfl, rfl⟩ := Prod.mk.inj (Part.mem_unique performs
        (kprintf_performs screen.crtc returns))
      have shows : Shows final.console (text.foldl Terminal.type terminal) := by
        rw [console]
        exact (displays.toShows.putChars displays.tidy text).setDisplayCursor _ _
      refine ⟨⟨shows, displays.tidy.types text, ?_⟩, num⟩
      simp only [crtcAt, if_pos returns.done]
      exact location_setLocation screen.crtc shows.rowFits shows.colFits
  | kclear =>
      obtain ⟨rfl, rfl⟩ := Prod.mk.inj (Part.mem_unique performs (kclear_performs screen))
      exact ⟨displays_kclear screen, rfl⟩

/-- The terminal after some calls. -/
def Terminal.applies (terminal : Terminal) (texts : Request → List (BitVec 8))
    (calls : List Request) : Terminal :=
  calls.foldl (fun terminal call => terminal.apply (texts call) call) terminal

theorem Terminal.applies_snoc (terminal : Terminal) (texts : Request → List (BitVec 8))
    (calls : List Request) (call : Request) :
    terminal.applies texts (calls ++ [call]) =
      (terminal.applies texts calls).apply (texts call) call := by
  rw [Terminal.applies, List.foldl_append]
  rfl

theorem Displays.serial {operations : List (Operation Party Request Locals)}
    {texts : Request → List (BitVec 8)} (displays : Displays screen terminal)
    (serial : Serial console screen operations after)
    (prints : ∀ operation ∈ operations, Prints operation.call (texts operation.call)) :
    Displays after (terminal.applies texts (operations.map (·.call))) ∧
      ∀ operation ∈ operations,
        operation.locals.num = BitVec.ofNat 32 (texts operation.call).length := by
  induction serial with
  | nil => exact ⟨displays, List.forall_mem_nil _⟩
  | @snoc operations before after operation _ performs inductionHypothesis =>
      obtain ⟨displays, nums⟩ := inductionHypothesis fun other earlier =>
        prints other (List.mem_append_left _ earlier)
      obtain ⟨displays, num⟩ := displays.performs performs
        (prints operation (List.mem_append_right _ (List.mem_singleton_self operation)))
      refine ⟨?_, fun other present => ?_⟩
      · rw [List.map_append, List.map_singleton, Terminal.applies_snoc]
        exact displays
      · obtain earlier | isLast := List.mem_append.mp present
        · exact nums other earlier
        · obtain rfl := List.mem_singleton.mp isLast
          exact num

/-- Whatever the interleaving of the calls of `kprintf` and `kclear`, whenever the lock is free
the display shows their messages one after another, in the order in which the calls free the
lock, with the cursor behind them; and each call returns the length of its message. -/
theorem messages_serial [DecidableEq Party] {actions : List (Action Party Request)}
    {state : GuardedBody.State Party Request Locals Screen} {texts : Request → List (BitVec 8)}
    (displays : Displays screen terminal) (short : actions.length < 2 ^ 64)
    (executed : (console.system screen).exec (started screen) actions = some state)
    (prints : ∀ operation ∈ state.finished, Prints operation.call (texts operation.call)) :
    (state.busy = false →
      Displays state.shared (terminal.applies texts (state.finished.map (·.call)))) ∧
      ∀ operation ∈ state.finished,
        operation.locals.num = BitVec.ofNat 32 (texts operation.call).length := by
  obtain ⟨base, serial, holds⟩ := (sound_of_exec short executed).holds
  obtain ⟨displays, nums⟩ := displays.serial serial prints
  refine ⟨fun isFree => ?_, nums⟩
  cases holds with
  | free _ shared => exact shared ▸ displays
  | held busy => exact absurd (isFree.symm.trans busy) Bool.false_ne_true

/-- `init_vga` leaves a blank display. -/
theorem displays_initVga (screen : Screen) : Displays screen.initVga Terminal.blank :=
  displays_kclear _

/-- The display after the start of the machine. -/
def bootScreen : Screen :=
  Screen.initVga ⟨Kprintf.blankDisplay, ⟨0, fun _ => 0⟩⟩

/-- A call that prints one letter, with the formats `A` and `B` in memory. -/
def letter (format : BitVec 64) : Request :=
  .kprintf { Kprintf.callOn [0x41, 0, 0x42] (fun _ => 0) with format := format } fun _ => 0

/-- Two processors print; the second one finds the lock taken at first. -/
def twoLetters : List (Action Nat Request) :=
  [.call 0 (letter 2), .call 1 (letter 0), .exchange 0, .exchange 1] ++
    List.replicate 10 (.access 0) ++ [.exchange 1, .release 0, .exchange 1] ++
    List.replicate 10 (.access 1) ++ [.release 1]

/-- The letter that a call prints. -/
def letterOf : Request → List (BitVec 8)
  | .kprintf call _ => [call.formatByte 0]
  | .kclear => []

theorem messages_serial_twoLetters :
    ∃ state, (console.system bootScreen).exec (started bootScreen) twoLetters = some state ∧
      Displays state.shared (Terminal.typed [0x42, 0x41]) := by
  obtain ⟨state, executed, isFree⟩ := (Option.any_eq_true _ _).mp
    (show ((console.system bootScreen).exec (started bootScreen) twoLetters).any (fun state =>
      !state.busy) = true by decide +kernel)
  have finished : state.finished.map (·.call) = [letter 2, letter 0] := by
    have calls : ((console.system bootScreen).exec (started bootScreen) twoLetters).map
        (fun state => state.finished.map (·.call)) = some [letter 2, letter 0] := rfl
    rw [executed] at calls
    exact Option.some.inj calls
  have prints : ∀ request ∈ [letter 2, letter 0], Prints request (letterOf request) := by
    refine List.forall_mem_cons.mpr ⟨?_, List.forall_mem_singleton.mpr ?_⟩
    · exact @Prints.kprintf _ _ [.literal 0x42] _ (by decide) (.literal (by decide) .nil)
    · exact @Prints.kprintf _ _ [.literal 0x41] _ (by decide) (.literal (by decide) .nil)
  obtain ⟨shown, -⟩ := messages_serial (displays_initVga _) (by decide) executed
    fun operation present => prints operation.call (finished ▸ List.mem_map_of_mem present)
  rw [finished] at shown
  exact ⟨state, executed, shown (Bool.eq_false_of_not_eq_true' isFree)⟩

end Console
end ToyKernel
