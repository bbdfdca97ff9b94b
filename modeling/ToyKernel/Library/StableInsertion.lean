import Mathlib.Data.List.Nodup
import Mathlib.Order.Lattice

/-!
# Stable insertion

A new element goes into a list sorted by a key behind all elements whose keys are not
greater.  Elements with equal keys then stay in the order of their insertion.
-/

namespace ToyKernel
namespace StableInsertion

variable {Element Key : Type*} [LinearOrder Key]

/-- The elements that stay in front of a new one with this key. -/
def notLater (key : Element → Key) (bound : Key) (elements : List Element) : List Element :=
  elements.takeWhile (key · ≤ bound)

/-- The elements that come behind it. -/
def later (key : Element → Key) (bound : Key) (elements : List Element) : List Element :=
  elements.dropWhile (key · ≤ bound)

/-- Insert an element at its place. -/
def insert (key : Element → Key) (fresh : Element) (elements : List Element) : List Element :=
  notLater key (key fresh) elements ++ fresh :: later key (key fresh) elements

variable {key : Element → Key} {bound : Key} {fresh element first : Element}
  {elements rest : List Element}

@[simp] theorem notLater_append_later :
    notLater key bound elements ++ later key bound elements = elements :=
  List.takeWhile_append_dropWhile

theorem mem_notLater_or_later :
    element ∈ elements ↔
      element ∈ notLater key bound elements ∨ element ∈ later key bound elements := by
  rw [← List.mem_append, notLater_append_later]

theorem notLater_cons (small : key first ≤ bound) :
    notLater key bound (first :: rest) = first :: notLater key bound rest :=
  List.takeWhile_cons_of_pos (decide_eq_true small)

theorem later_cons (small : key first ≤ bound) :
    later key bound (first :: rest) = later key bound rest :=
  List.dropWhile_cons_of_pos (decide_eq_true small)

theorem notLater_cons_of_lt (large : bound < key first) :
    notLater key bound (first :: rest) = [] := by
  apply List.takeWhile_cons_of_neg
  rw [decide_eq_true_iff, not_le]
  exact large

theorem later_cons_of_lt (large : bound < key first) :
    later key bound (first :: rest) = first :: rest := by
  apply List.dropWhile_cons_of_neg
  rw [decide_eq_true_iff, not_le]
  exact large

@[simp] theorem notLater_nil : notLater key bound [] = [] := rfl

@[simp] theorem later_nil : later key bound [] = [] := rfl

theorem le_of_mem_notLater (present : element ∈ notLater key bound elements) :
    key element ≤ bound :=
  of_decide_eq_true (List.all_eq_true.mp List.all_takeWhile element present)

/-- In a sorted list nothing behind the place is as small as the new key. -/
theorem lt_of_mem_later (sorted : elements.Pairwise (key · ≤ key ·))
    (present : element ∈ later key bound elements) : bound < key element := by
  induction elements with
  | nil => cases present
  | cons first rest inductionHypothesis =>
      obtain ⟨fromFirst, sortedRest⟩ := List.pairwise_cons.mp sorted
      rcases le_or_gt (key first) bound with small | large
      · rw [later_cons small] at present
        exact inductionHypothesis sortedRest present
      · rw [later_cons_of_lt large] at present
        rcases List.mem_cons.mp present with rfl | behind
        · exact large
        · exact lt_of_lt_of_le large (fromFirst element behind)

/-- Insertion adds the new element. -/
theorem perm_insert : (insert key fresh elements).Perm (fresh :: elements) := by
  refine List.perm_middle.trans (List.Perm.cons fresh ?_)
  rw [notLater_append_later]

@[simp] theorem mem_insert :
    element ∈ insert key fresh elements ↔ element = fresh ∨ element ∈ elements := by
  rw [perm_insert.mem_iff, List.mem_cons]

theorem insert_cons :
    insert key fresh (first :: rest) =
      if key first ≤ key fresh then first :: insert key fresh rest
      else fresh :: first :: rest := by
  split
  · rename_i small
    rw [insert, notLater_cons small, later_cons small, List.cons_append, insert]
  · rename_i large
    rw [insert, notLater_cons_of_lt (not_le.mp large), later_cons_of_lt (not_le.mp large),
      List.nil_append]

/-- A map that keeps the keys maps insertions to insertions. -/
theorem map_insert {Image : Type*} {imageKey : Image → Key} {map : Element → Image}
    (sameKey : ∀ element, element = fresh ∨ element ∈ elements →
      imageKey (map element) = key element) :
    (insert key fresh elements).map map = insert imageKey (map fresh) (elements.map map) := by
  induction elements with
  | nil => rfl
  | cons first rest inductionHypothesis =>
      have sameRest := inductionHypothesis fun element present =>
        sameKey element (present.imp_right (List.mem_cons_of_mem _))
      have sameFirst := sameKey first (.inr List.mem_cons_self)
      have sameFresh := sameKey fresh (.inl rfl)
      rw [List.map_cons, insert_cons, insert_cons, sameFirst, sameFresh, apply_ite (List.map map),
        List.map_cons, sameRest, List.map_cons, List.map_cons]

/-- The new element is the first one if its key is smaller than all others. -/
theorem insert_of_lt (large : ∀ first ∈ elements.head?, key fresh < key first) :
    insert key fresh elements = fresh :: elements := by
  cases elements with
  | nil => rfl
  | cons first rest =>
      have smaller : key fresh < key first := large first rfl
      rw [insert, notLater_cons_of_lt smaller, later_cons_of_lt smaller, List.nil_append]

/-- Insertion keeps an order in which the keys grow, if the new element comes last among
those with its key. -/
theorem pairwise_insert {before : Element → Element → Prop}
    (grows : ∀ left right, before left right → key left ≤ key right)
    (sorted : elements.Pairwise before)
    (behind : ∀ element ∈ elements, key element ≤ key fresh → before element fresh)
    (ahead : ∀ element ∈ elements, key fresh < key element → before fresh element) :
    (insert key fresh elements).Pairwise before := by
  have whole : notLater key (key fresh) elements ++ later key (key fresh) elements = elements :=
    notLater_append_later
  have parts := sorted
  rw [← whole, List.pairwise_append] at parts
  obtain ⟨sortedFront, sortedBack, across⟩ := parts
  have keys : elements.Pairwise (key · ≤ key ·) := sorted.imp (grows _ _)
  rw [insert, List.pairwise_append, List.pairwise_cons]
  refine ⟨sortedFront, ⟨?_, sortedBack⟩, ?_⟩
  · intro element present
    exact ahead element (mem_notLater_or_later.mpr (.inr present)) (lt_of_mem_later keys present)
  · intro element inFront other inBack
    rcases List.mem_cons.mp inBack with rfl | inBack
    · exact behind element (mem_notLater_or_later.mpr (.inl inFront))
        (le_of_mem_notLater inFront)
    · exact across element inFront other inBack

end StableInsertion
end ToyKernel
