import Mathlib.Data.List.Count
import Mathlib.Logic.Function.Iterate

/-!
# Round robin

The first element of a queue is served until its quantum is used up and then goes
to the end of the queue with a full quantum.  A round is as many ticks as all full
slices take together.  Whatever is left of the quantum of the first element, a round
serves every element for one slice and restores the queue.
-/

namespace ToyKernel

/-- A queue, what is left of the quantum of its first element, and how often each
element was served. -/
@[ext] structure RoundRobin (Element : Type*) where
  queue : List Element
  left : Nat
  served : Element → Nat

namespace RoundRobin

variable {Element : Type*} [DecidableEq Element]

/-- Serve an element so many times more. -/
def serve (served : Element → Nat) (element : Element) (times : Nat) : Element → Nat :=
  fun other => served other + if other = element then times else 0

/-- One tick.  The tick that finds nothing left of the quantum is the last one of the
slice. -/
def tick (quantum : Nat) (robin : RoundRobin Element) : RoundRobin Element :=
  match robin.queue with
  | [] => robin
  | first :: rest =>
      if robin.left = 0 then
        ⟨rest ++ [first], quantum, serve robin.served first 1⟩
      else
        ⟨first :: rest, robin.left - 1, serve robin.served first 1⟩

variable {quantum left : Nat} {first : Element} {rest : List Element} {served : Element → Nat}

theorem serve_zero : serve served first 0 = served := by
  funext other
  simp [serve]

theorem serve_serve (once more : Nat) :
    serve (serve served first once) first more = serve served first (once + more) := by
  funext other
  simp only [serve]
  split
  · rw [Nat.add_assoc]
  · rfl

/-- One slice more is one occurrence more in the queue. -/
theorem serve_add_count (times : Nat) (element : Element) :
    serve served first times element + times * rest.count element =
      served element + times * (first :: rest).count element := by
  rw [serve, List.count_cons]
  by_cases same : element = first
  · rw [if_pos same, if_pos (by simp [same]), Nat.mul_add]
    omega
  · rw [if_neg same, if_neg (by simpa using Ne.symm same), Nat.add_zero, Nat.add_zero]

theorem tick_of_left (remains : left ≠ 0) :
    tick quantum ⟨first :: rest, left, served⟩ =
      ⟨first :: rest, left - 1, serve served first 1⟩ :=
  if_neg remains

theorem tick_last :
    tick quantum ⟨first :: rest, 0, served⟩ = ⟨rest ++ [first], quantum, serve served first 1⟩ :=
  rfl

/-- A tick keeps the elements of the queue. -/
theorem mem_queue_tick {robin : RoundRobin Element} {element : Element} :
    element ∈ (tick quantum robin).queue ↔ element ∈ robin.queue := by
  obtain ⟨queue, left, served⟩ := robin
  cases queue with
  | nil => rfl
  | cons first rest =>
      by_cases used : left = 0
      · rw [used, tick_last]
        simp [or_comm]
      · rw [tick_of_left used]

/-- The ticks of a slice before its last one. -/
theorem tick_iterate_of_le (ticks : Nat) (enough : ticks ≤ left) :
    (tick quantum)^[ticks] ⟨first :: rest, left, served⟩ =
      ⟨first :: rest, left - ticks, serve served first ticks⟩ := by
  induction ticks with
  | zero => rw [Function.iterate_zero_apply, Nat.sub_zero, serve_zero]
  | succ ticks inductionHypothesis =>
      have remains : left - ticks ≠ 0 := by omega
      rw [Function.iterate_succ_apply', inductionHypothesis (by omega), tick_of_left remains,
        serve_serve, Nat.sub_sub]

/-- The rest of a slice. -/
theorem tick_iterate_slice :
    (tick quantum)^[left + 1] ⟨first :: rest, left, served⟩ =
      ⟨rest ++ [first], quantum, serve served first (left + 1)⟩ := by
  rw [Function.iterate_succ_apply', tick_iterate_of_le left (Nat.le_refl left), Nat.sub_self,
    tick_last, serve_serve]

/-- Full slices for the elements at the front of the queue. -/
theorem tick_iterate_slices (front back : List Element) (served : Element → Nat) :
    (tick quantum)^[(quantum + 1) * front.length] ⟨front ++ back, quantum, served⟩ =
      ⟨back ++ front, quantum,
        fun element => served element + (quantum + 1) * front.count element⟩ := by
  induction front generalizing back served with
  | nil => simp
  | cons first front inductionHypothesis =>
      rw [List.length_cons, Nat.mul_succ, Function.iterate_add_apply, List.cons_append,
        tick_iterate_slice, List.append_assoc, inductionHypothesis, List.append_assoc]
      simp only [serve_add_count, List.singleton_append]

/-- A round serves each element for one slice and restores the rest. -/
theorem tick_iterate_round (robin : RoundRobin Element) (atMost : robin.left ≤ quantum) :
    (tick quantum)^[(quantum + 1) * robin.queue.length] robin =
      { robin with
        served := fun element =>
          robin.served element + (quantum + 1) * robin.queue.count element } := by
  obtain ⟨queue, left, served⟩ := robin
  cases queue with
  | nil => simp
  | cons first rest =>
      simp only at atMost
      -- the slice of the first element is split between the two ends of the round
      have split : (quantum + 1) * (first :: rest).length =
          (quantum - left) + ((quantum + 1) * rest.length + (left + 1)) := by
        rw [List.length_cons, Nat.mul_succ]
        omega
      rw [split, Function.iterate_add_apply, Function.iterate_add_apply, tick_iterate_slice,
        tick_iterate_slices, List.singleton_append, tick_iterate_of_le _ (Nat.sub_le ..),
        Nat.sub_sub_self atMost]
      congr 1
      funext element
      rw [← serve_add_count]
      simp only [serve]
      split
      · omega
      · omega

end RoundRobin
end ToyKernel
