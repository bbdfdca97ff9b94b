import Mathlib.Data.Set.Insert
import Mathlib.Logic.Function.Basic

/-!
# Programs on a memory

A program reads and writes the cells of a memory, which keeps a history of the addresses.
Each loop of a program gets an upper bound for its rounds.  A program returns when it does so
under every bound that is large enough, and the rules for what it then ensures follow its text.
-/

namespace ToyKernel

universe u

/-- The cells at all addresses, and the addresses that have been read and written. -/
structure Memory (Address Cell : Type u) where
  cells : Address → Cell
  loaded : List Address
  stored : List Address

/-- A program, as a function of the bound for the rounds of its loops and of the memory. -/
def Program (Address Cell Result : Type u) : Type u :=
  Nat → Memory Address Cell → Option (Result × Memory Address Cell)

/-- What a round of a loop decides. -/
inductive Round (State Result : Type u) : Type u
  | next (state : State)
  | leave (result : Result)

/-- A property of the state to go on from, or of the result to leave with. -/
def Round.Decides {State Result : Type u} (onNext : State → Prop) (onLeave : Result → Prop) :
    Round State Result → Prop
  | .next state => onNext state
  | .leave result => onLeave result

section Decides

variable {State Result : Type u} {onNext : State → Prop} {onLeave : Result → Prop}

@[simp] theorem Round.decides_next (state : State) :
    (Round.next state).Decides onNext onLeave ↔ onNext state := Iff.rfl

@[simp] theorem Round.decides_leave (result : Result) :
    (Round.leave result).Decides onNext onLeave ↔ onLeave result := Iff.rfl

end Decides

variable {Address Cell Result Other State : Type u}

namespace Memory

/-- Read one cell. -/
def load (memory : Memory Address Cell) (address : Address) : Memory Address Cell :=
  { memory with loaded := address :: memory.loaded }

/-- Write one cell. -/
def store [DecidableEq Address] (memory : Memory Address Cell) (address : Address)
    (cell : Cell) : Memory Address Cell :=
  { memory with
    cells := Function.update memory.cells address cell
    stored := address :: memory.stored }

@[simp] theorem load_cells (memory : Memory Address Cell) (address : Address) :
    (memory.load address).cells = memory.cells := rfl

@[simp] theorem store_cells [DecidableEq Address] (memory : Memory Address Cell)
    (address : Address) (cell : Cell) :
    (memory.store address cell).cells = Function.update memory.cells address cell := rfl

/-- From one memory to the next, only cells at these addresses are read, and exactly the cells
at those are written. -/
structure Accesses (before after : Memory Address Cell) (reads writes : Set Address) :
    Prop where
  loaded : ∀ address ∈ after.loaded, address ∈ before.loaded ∨ address ∈ reads
  stored : ∀ address, address ∈ after.stored ↔ address ∈ before.stored ∨ address ∈ writes
  kept : ∀ address, address ∉ writes → after.cells address = before.cells address

namespace Accesses

variable {before middle after : Memory Address Cell} {reads writes more others : Set Address}
  {address : Address} {cell : Cell}

theorem refl (memory : Memory Address Cell) : Accesses memory memory ∅ ∅ where
  loaded _ present := .inl present
  stored _ := by simp
  kept _ _ := rfl

theorem trans (first : Accesses before middle reads writes)
    (second : Accesses middle after more others) :
    Accesses before after (reads ∪ more) (writes ∪ others) where
  loaded address present := by
    rcases second.loaded address present with earlier | isMore
    · exact (first.loaded address earlier).imp_right .inl
    · exact .inr (.inr isMore)
  stored address := by
    rw [second.stored, first.stored, Set.mem_union, or_assoc]
  kept address absent := by
    rw [Set.mem_union, not_or] at absent
    rw [second.kept address absent.2, first.kept address absent.1]

/-- More may be said to be read. -/
theorem weaken (accesses : Accesses before after reads writes) (subset : reads ⊆ more)
    (same : writes = others) : Accesses before after more others where
  loaded address present := (accesses.loaded address present).imp_right (subset ·)
  stored := same ▸ accesses.stored
  kept := same ▸ accesses.kept

theorem load (accesses : Accesses before after reads writes) (address : Address) :
    Accesses before (after.load address) (insert address reads) writes where
  loaded other present := by
    rcases List.mem_cons.mp present with rfl | earlier
    · exact .inr (Set.mem_insert ..)
    · exact (accesses.loaded other earlier).imp_right (Set.mem_insert_of_mem address)
  stored := accesses.stored
  kept := accesses.kept

theorem store [DecidableEq Address] (accesses : Accesses before after reads writes)
    (address : Address) (cell : Cell) :
    Accesses before (after.store address cell) reads (insert address writes) where
  loaded := accesses.loaded
  stored other := by
    rw [Set.mem_insert_iff, ← or_assoc, or_comm (b := other = address), or_assoc,
      ← accesses.stored]
    exact List.mem_cons
  kept other absent := by
    rw [Set.mem_insert_iff, not_or] at absent
    rw [store_cells, Function.update_of_ne absent.1]
    exact accesses.kept other absent.2

/-- A program that writes nothing leaves the cells alone. -/
theorem cells_eq (accesses : Accesses before after reads ∅) : after.cells = before.cells :=
  funext fun address => accesses.kept address (Set.notMem_empty address)

end Accesses

end Memory

namespace Program

/-! ## Statements -/

instance : Monad (Program Address Cell) where
  pure result := fun _ memory => some (result, memory)
  bind program continuation := fun rounds memory =>
    (program rounds memory).bind fun (result, memory) => continuation result rounds memory

/-- Read one cell. -/
def load (address : Address) : Program Address Cell Cell :=
  fun _ memory => some (memory.cells address, memory.load address)

/-- Write one cell. -/
def store [DecidableEq Address] (address : Address) (cell : Cell) :
    Program Address Cell PUnit :=
  fun _ memory => some (⟨⟩, memory.store address cell)

/-- A value that may be undefined; if it is, then nothing is known of the program. -/
def defined (value : Option Result) : Program Address Cell Result :=
  fun _ memory => value.map (·, memory)

/-- So many rounds of a loop at most. -/
def iterate (body : State → Program Address Cell (Round State Result)) :
    Nat → State → Program Address Cell Result
  | 0, _ => fun _ _ => none
  | count + 1, state => do
      match ← body state with
      | .next state => iterate body count state
      | .leave result => pure result

/-- A loop, from a state on. -/
def loop (body : State → Program Address Cell (Round State Result)) (state : State) :
    Program Address Cell Result :=
  fun rounds memory => iterate body rounds state rounds memory

/-! ## What programs ensure -/

/-- With enough rounds for its loops, the program returns this result. -/
def Returns (program : Program Address Cell Result) (before : Memory Address Cell)
    (result : Result) (after : Memory Address Cell) : Prop :=
  ∃ enough, ∀ rounds, enough ≤ rounds → program rounds before = some (result, after)

/-- The program returns, and this holds of its result and of the memory after it. -/
def Ensures (program : Program Address Cell Result) (before : Memory Address Cell)
    (post : Result → Memory Address Cell → Prop) : Prop :=
  ∃ result after, Returns program before result after ∧ post result after

section Rules

variable {program : Program Address Cell Result}
  {continuation : Result → Program Address Cell Other}
  {before after middle other : Memory Address Cell} {result found : Result}
  {post weaker : Result → Memory Address Cell → Prop}
  {final : Other → Memory Address Cell → Prop}

theorem Returns.unique (returns : Returns program before result after)
    (again : Returns program before found other) : result = found ∧ after = other := by
  obtain ⟨enough, returns⟩ := returns
  obtain ⟨sufficient, again⟩ := again
  have same := (returns _ (Nat.le_max_left enough sufficient)).symm.trans
    (again _ (Nat.le_max_right enough sufficient))
  exact Prod.mk.inj (Option.some.inj same)

/-- Whatever a program returns is as it ensures. -/
theorem Ensures.of_returns (ensures : Ensures program before post)
    (returns : Returns program before result after) : post result after := by
  obtain ⟨found, other, again, holds⟩ := ensures
  obtain ⟨rfl, rfl⟩ := returns.unique again
  exact holds

theorem Ensures.mono (ensures : Ensures program before post)
    (implies : ∀ result after, post result after → weaker result after) :
    Ensures program before weaker := by
  obtain ⟨result, after, returns, holds⟩ := ensures
  exact ⟨result, after, returns, implies result after holds⟩

theorem Ensures.pure (holds : post result before) :
    Ensures (Pure.pure result : Program Address Cell Result) before post :=
  ⟨result, before, ⟨0, fun _ _ => rfl⟩, holds⟩

theorem Ensures.bind
    (first : Ensures program before fun result middle =>
      Ensures (continuation result) middle final) :
    Ensures (program >>= continuation) before final := by
  obtain ⟨result, middle, ⟨enough, returns⟩, ensures⟩ := first
  obtain ⟨other, after, ⟨sufficient, continues⟩, holds⟩ := ensures
  refine ⟨other, after, ⟨max enough sufficient, fun rounds large => ?_⟩, holds⟩
  have ran := returns rounds (le_trans (Nat.le_max_left ..) large)
  have ended := continues rounds (le_trans (Nat.le_max_right ..) large)
  exact (congrArg (Option.bind · _) ran).trans ended

theorem Ensures.load {address : Address} {post : Cell → Memory Address Cell → Prop}
    (holds : post (before.cells address) (before.load address)) :
    Ensures (Program.load address) before post :=
  ⟨_, _, ⟨0, fun _ _ => rfl⟩, holds⟩

theorem Ensures.store [DecidableEq Address] {address : Address} {cell : Cell}
    {post : PUnit → Memory Address Cell → Prop}
    (holds : post ⟨⟩ (before.store address cell)) :
    Ensures (Program.store address cell) before post :=
  ⟨_, _, ⟨0, fun _ _ => rfl⟩, holds⟩

theorem Ensures.defined {value : Option Result} (isDefined : value = some result)
    (holds : post result before) : Ensures (Program.defined value) before post := by
  rw [isDefined]
  exact ⟨result, before, ⟨0, fun _ _ => rfl⟩, holds⟩

end Rules

/-! ## Loops -/

section Loops

variable {body : State → Program Address Cell (Round State Result)} {state start : State}
  {before after : Memory Address Cell} {count limit : Nat}
  {invariant : Nat → State → Memory Address Cell → Prop}
  {post : Result → Memory Address Cell → Prop}

/-- The state at the head of the loop after so many rounds. -/
inductive Reaches (body : State → Program Address Cell (Round State Result)) (start : State)
    (before : Memory Address Cell) : Nat → State → Memory Address Cell → Prop
  | start : Reaches body start before 0 start before
  | round {count : Nat} {state next : State} {middle after : Memory Address Cell} :
      Reaches body start before count state middle →
      Returns (body state) middle (.next next) after →
      Reaches body start before (count + 1) next after

/-- The body keeps an invariant that is indexed by the rounds, and goes on at most to the
limit. -/
def Keeps (body : State → Program Address Cell (Round State Result)) (limit : Nat)
    (invariant : Nat → State → Memory Address Cell → Prop)
    (post : Result → Memory Address Cell → Prop) : Prop :=
  ∀ count state before, invariant count state before → Ensures (body state) before
    fun round after => round.Decides
      (fun next => count < limit ∧ invariant (count + 1) next after) (post · after)

/-- The invariant holds at the head of the loop. -/
theorem Keeps.of_reaches (keeps : Keeps body limit invariant post)
    (holds : invariant 0 start before) (reaches : Reaches body start before count state after) :
    count ≤ limit ∧ invariant count state after := by
  induction reaches with
  | start => exact ⟨Nat.zero_le limit, holds⟩
  | round _ returns inductionHypothesis =>
      exact (keeps _ _ _ inductionHypothesis.2).of_returns returns

/-- A loop whose body keeps an invariant returns. -/
theorem Keeps.ensures (keeps : Keeps body limit invariant post)
    (holds : invariant 0 state before) : Ensures (loop body state) before post := by
  -- the induction is on the rounds that are left
  have iterated : ∀ left count state before, count + left = limit →
      invariant count state before → ∃ result after, post result after ∧
        ∃ enough, ∀ total, left + 1 ≤ total → ∀ rounds, enough ≤ rounds →
          iterate body total state rounds before = some (result, after) := by
    intro left
    induction left with
    | zero =>
        intro count state before isLast holds
        obtain ⟨round, after, ⟨enough, returns⟩, decides⟩ := keeps count state before holds
        cases round with
        | next state => exact absurd decides.1 (by omega)
        | leave result =>
            refine ⟨result, after, decides, enough, fun total more rounds large => ?_⟩
            obtain ⟨total, rfl⟩ := Nat.exists_eq_add_one.mpr more
            exact congrArg (Option.bind · _) (returns rounds large)
    | succ left inductionHypothesis =>
        intro count state before isCount holds
        obtain ⟨round, middle, ⟨enough, returns⟩, decides⟩ := keeps count state before holds
        cases round with
        | next state =>
            obtain ⟨result, after, isPost, sufficient, iterated⟩ :=
              inductionHypothesis (count + 1) state middle (by omega) decides.2
            refine ⟨result, after, isPost, max enough sufficient,
              fun total more rounds large => ?_⟩
            obtain ⟨total, rfl⟩ := Nat.exists_eq_add_one.mpr (Nat.zero_lt_of_lt more)
            have ran := returns rounds (le_trans (Nat.le_max_left ..) large)
            have rest := iterated total (Nat.le_of_succ_le_succ more) rounds
              (le_trans (Nat.le_max_right ..) large)
            exact (congrArg (Option.bind · _) ran).trans rest
        | leave result =>
            refine ⟨result, middle, decides, enough, fun total more rounds large => ?_⟩
            obtain ⟨total, rfl⟩ := Nat.exists_eq_add_one.mpr (Nat.zero_lt_of_lt more)
            exact congrArg (Option.bind · _) (returns rounds large)
  obtain ⟨result, after, isPost, enough, iterated⟩ :=
    iterated limit 0 state before (Nat.zero_add limit) holds
  refine ⟨result, after, ⟨max enough (limit + 1), fun rounds large => ?_⟩, isPost⟩
  exact iterated rounds (le_trans (Nat.le_max_right ..) large) rounds
    (le_trans (Nat.le_max_left ..) large)

end Loops

end Program

end ToyKernel
