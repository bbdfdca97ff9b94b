import Mathlib.Data.List.Nodup
import Mathlib.Data.List.Perm.Basic

/-!
# A queue kept as two lists

Elements leave at the head of the active list and arrive at the end of the
expired list, which takes the place of the active one when that runs empty.
Seen as one list, active before expired, every operation is the corresponding
operation of a FIFO queue.
-/

namespace ToyKernel

/-- The two lists of a queue. -/
@[ext] structure TwoListQueue (Element : Type*) where
  active : List Element
  expired : List Element

namespace TwoListQueue

variable {Element : Type*}

/-- The empty queue. -/
def empty : TwoListQueue Element := ⟨[], []⟩

/-- The elements in the order in which they leave. -/
def toList (queue : TwoListQueue Element) : List Element :=
  queue.active ++ queue.expired

/-- The active list is empty only if the queue is. -/
def Filled (queue : TwoListQueue Element) : Prop :=
  queue.active = [] → queue.expired = []

/-- The expired list takes the place of an empty active one. -/
def refill (queue : TwoListQueue Element) : TwoListQueue Element :=
  match queue.active with
  | [] => ⟨queue.expired, []⟩
  | _ :: _ => queue

/-- An element arrives. -/
def push (queue : TwoListQueue Element) (element : Element) : TwoListQueue Element :=
  refill ⟨queue.active, queue.expired ++ [element]⟩

/-- The first element goes to the end. -/
def rotate (queue : TwoListQueue Element) : TwoListQueue Element :=
  match queue.active with
  | [] => queue
  | first :: rest => refill ⟨rest, queue.expired ++ [first]⟩

/-- An element is taken out, wherever it is. -/
def remove [DecidableEq Element] (queue : TwoListQueue Element) (element : Element) :
    TwoListQueue Element :=
  refill ⟨queue.active.erase element, queue.expired.erase element⟩

@[simp] theorem toList_empty : (empty : TwoListQueue Element).toList = [] := rfl

theorem mem_toList {queue : TwoListQueue Element} {element : Element} :
    element ∈ queue.toList ↔ element ∈ queue.active ∨ element ∈ queue.expired :=
  List.mem_append

theorem Filled.toList_eq_nil_iff {queue : TwoListQueue Element} (filled : queue.Filled) :
    queue.toList = [] ↔ queue.active = [] := by
  rw [toList, List.append_eq_nil_iff]
  exact ⟨And.left, fun noActive => ⟨noActive, filled noActive⟩⟩

/-- In a filled queue the first active element is the first of all. -/
theorem Filled.head?_toList {queue : TwoListQueue Element} (filled : queue.Filled) :
    queue.toList.head? = queue.active.head? := by
  cases active : queue.active with
  | nil => simp [toList, active, filled active]
  | cons first rest => simp [toList, active]

@[simp] theorem toList_refill (queue : TwoListQueue Element) :
    queue.refill.toList = queue.toList := by
  obtain ⟨active, expired⟩ := queue
  cases active <;> simp [refill, toList]

theorem filled_refill (queue : TwoListQueue Element) : queue.refill.Filled := by
  obtain ⟨active, expired⟩ := queue
  cases active <;> simp [refill, Filled]

/-- A push is a push at the end. -/
@[simp] theorem toList_push (queue : TwoListQueue Element) (element : Element) :
    (queue.push element).toList = queue.toList ++ [element] := by
  rw [push, toList_refill, toList, toList, List.append_assoc]

theorem filled_push (queue : TwoListQueue Element) (element : Element) :
    (queue.push element).Filled :=
  filled_refill _

/-- A push does not change who is first. -/
theorem Filled.head?_push {queue : TwoListQueue Element} (filled : queue.Filled)
    (element : Element) :
    (queue.push element).active.head? = queue.active.head?.or (some element) := by
  cases active : queue.active with
  | nil => simp [push, refill, active, filled active]
  | cons first rest => simp [push, refill, active]

/-- A rotation moves the first element to the end. -/
theorem toList_rotate {queue : TwoListQueue Element} {first : Element} {rest : List Element}
    (active : queue.active = first :: rest) :
    queue.rotate.toList = rest ++ queue.expired ++ [first] := by
  simp only [rotate, active, toList_refill]
  rw [toList, List.append_assoc]

theorem filled_rotate {queue : TwoListQueue Element} (filled : queue.Filled) :
    queue.rotate.Filled := by
  cases active : queue.active with
  | nil => simpa [rotate, active] using filled
  | cons first rest =>
      simp only [rotate, active]
      exact filled_refill _

section Remove

variable [DecidableEq Element]

theorem filled_remove (queue : TwoListQueue Element) (element : Element) :
    (queue.remove element).Filled :=
  filled_refill _

/-- A removal is a removal from the list of all elements. -/
theorem toList_remove {queue : TwoListQueue Element} (nodup : queue.toList.Nodup)
    (element : Element) :
    (queue.remove element).toList = queue.toList.erase element := by
  have disjoint := (List.nodup_append.mp nodup).2.2
  simp only [remove, toList_refill]
  simp only [toList, List.erase_append]
  split
  · rename_i inActive
    have notExpired : element ∉ queue.expired := fun inExpired =>
      disjoint element inActive element inExpired rfl
    rw [List.erase_of_not_mem notExpired]
  · rename_i notActive
    rw [List.erase_of_not_mem notActive]

theorem nodup_remove {queue : TwoListQueue Element} (nodup : queue.toList.Nodup)
    (element : Element) : (queue.remove element).toList.Nodup := by
  rw [toList_remove nodup]
  exact nodup.erase element

theorem mem_toList_remove {queue : TwoListQueue Element} (nodup : queue.toList.Nodup)
    {element other : Element} :
    other ∈ (queue.remove element).toList ↔ other ≠ element ∧ other ∈ queue.toList := by
  rw [toList_remove nodup]
  exact nodup.mem_erase_iff

/-- Removing somebody else does not change who is first. -/
theorem head?_remove_of_ne {queue : TwoListQueue Element} {first element : Element}
    (isFirst : queue.active.head? = some first) (different : element ≠ first) :
    (queue.remove element).active.head? = some first := by
  cases active : queue.active with
  | nil => simp [active] at isFirst
  | cons head rest =>
      simp only [active, List.head?_cons, Option.some.injEq] at isFirst
      subst isFirst
      have keepsHead : (head :: rest).erase element = head :: rest.erase element :=
        List.erase_cons_tail (by simpa using different.symm)
      simp [remove, refill, active, keepsHead]

end Remove

theorem nodup_push {queue : TwoListQueue Element} (nodup : queue.toList.Nodup)
    {element : Element} (absent : element ∉ queue.toList) :
    (queue.push element).toList.Nodup := by
  rw [toList_push, List.nodup_append]
  refine ⟨nodup, List.nodup_singleton element, ?_⟩
  rintro left present right atEnd rfl
  rw [List.mem_singleton] at atEnd
  exact absent (atEnd ▸ present)

theorem perm_rotate (queue : TwoListQueue Element) :
    queue.rotate.toList.Perm queue.toList := by
  cases active : queue.active with
  | nil => simp [rotate, active]
  | cons first rest =>
      rw [toList_rotate active, toList, active]
      exact List.perm_append_singleton first (rest ++ queue.expired)

/-- A rotation leaves somebody first. -/
theorem Filled.rotate_active_ne_nil {queue : TwoListQueue Element} (filled : queue.Filled)
    (someActive : queue.active ≠ []) : queue.rotate.active ≠ [] := by
  rw [ne_eq, ← (filled_rotate filled).toList_eq_nil_iff, ← List.length_eq_zero_iff,
    (perm_rotate queue).length_eq, List.length_eq_zero_iff, filled.toList_eq_nil_iff]
  exact someActive

end TwoListQueue
end ToyKernel
