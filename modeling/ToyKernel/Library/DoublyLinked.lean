import Mathlib.Data.List.Basic
import Mathlib.Data.List.Nodup
import Mathlib.Logic.Function.Basic

/-!
# Intrusive doubly linked lists

The links of all lists are two partial functions on nodes, and several disjoint
lists may share them.  Each operation is the sequence of assignments that a
program performs; its effect on one list is stated over the sequence of the
list's nodes, and its effect on all other lists by a frame lemma.
-/

namespace ToyKernel

/-- The `next` and `prev` fields of all nodes. -/
@[ext] structure Links (Node : Type*) where
  next : Node → Option Node
  prev : Node → Option Node

namespace Links

variable {Node : Type*}

/-- The given nodes are linked to each other in this order, to `before` on the
left and to `after` on the right. -/
def Segment (links : Links Node) : Option Node → List Node → Option Node → Prop
  | _, [], _ => True
  | before, node :: nodes, after =>
      links.prev node = before ∧
      links.next node = nodes.head?.or after ∧
      links.Segment (some node) nodes after

/-- The list that starts at `first` consists of the given nodes. -/
structure Represents (links : Links Node) (first : Option Node) (nodes : List Node) :
    Prop where
  first_eq : first = nodes.head?
  segment : links.Segment none nodes none
  nodup : nodes.Nodup

/-- Two sets of links are the same on the given nodes. -/
def AgreeOn (links other : Links Node) (nodes : List Node) : Prop :=
  ∀ node ∈ nodes, other.next node = links.next node ∧ other.prev node = links.prev node

section Segments

variable {links other : Links Node} {before after : Option Node} {nodes : List Node}

theorem Segment.congr
    (segment : links.Segment before nodes after) (agree : links.AgreeOn other nodes) :
    other.Segment before nodes after := by
  induction nodes generalizing before with
  | nil => trivial
  | cons node nodes inductionHypothesis =>
      obtain ⟨prevNode, nextNode, rest⟩ := segment
      obtain ⟨sameNext, samePrev⟩ := agree node List.mem_cons_self
      refine ⟨samePrev.trans prevNode, sameNext.trans nextNode, ?_⟩
      exact inductionHypothesis rest fun later member =>
        agree later (List.mem_cons_of_mem node member)

/-- A segment splits at every place. -/
theorem segment_append (front back : List Node) :
    links.Segment before (front ++ back) after ↔
      links.Segment before front (back.head?.or after) ∧
        links.Segment (front.getLast?.or before) back after := by
  induction front generalizing before with
  | nil => simp [Segment]
  | cons node front inductionHypothesis =>
      have headOr : (front ++ back).head?.or after =
          front.head?.or (back.head?.or after) := by
        cases front <;> simp
      have lastOr : (node :: front).getLast?.or before =
          front.getLast?.or (some node) := by
        cases front <;> simp [List.getLast?_cons]
      simp only [List.cons_append, Segment, headOr, lastOr, inductionHypothesis, and_assoc]

theorem segment_singleton (node : Node) :
    links.Segment before [node] after ↔
      links.prev node = before ∧ links.next node = after := by
  simp [Segment]

theorem AgreeOn.trans {first second third : Links Node} {nodes : List Node}
    (left : first.AgreeOn second nodes) (right : second.AgreeOn third nodes) :
    first.AgreeOn third nodes := fun node present =>
  ⟨(right node present).1.trans (left node present).1,
    (right node present).2.trans (left node present).2⟩

end Segments

section Represented

variable {links : Links Node} {first : Option Node} {nodes : List Node} {node : Node}

theorem Represents.congr {other : Links Node}
    (represents : links.Represents first nodes) (agree : links.AgreeOn other nodes) :
    other.Represents first nodes where
  first_eq := represents.first_eq
  segment := represents.segment.congr agree
  nodup := represents.nodup

theorem represents_nil (links : Links Node) : links.Represents none [] where
  first_eq := rfl
  segment := trivial
  nodup := List.nodup_nil

/-- The links determine the nodes behind a place. -/
theorem Segment.unique {before : Option Node} {others : List Node}
    (segment : links.Segment before nodes none) (otherSegment : links.Segment before others none)
    (sameHead : nodes.head? = others.head?) : nodes = others := by
  induction nodes generalizing before others with
  | nil => exact (List.head?_eq_none_iff.mp sameHead.symm).symm
  | cons node nodes inductionHypothesis =>
      obtain ⟨others, rfl⟩ := List.head?_eq_some_iff.mp sameHead.symm
      obtain ⟨-, nextNode, rest⟩ := segment
      obtain ⟨-, nextOther, otherRest⟩ := otherSegment
      rw [nextNode, Option.or_none, Option.or_none] at nextOther
      rw [inductionHypothesis rest otherRest nextOther]

/-- A list is determined by its first node and the links. -/
theorem Represents.unique {others : List Node}
    (represents : links.Represents first nodes) (otherwise : links.Represents first others) :
    nodes = others :=
  represents.segment.unique otherwise.segment (represents.first_eq.symm.trans otherwise.first_eq)

/-- The neighbours of a node of a list. -/
theorem Represents.neighbours {front back : List Node}
    (represents : links.Represents first (front ++ node :: back)) :
    links.prev node = front.getLast? ∧ links.next node = back.head? := by
  have segment := represents.segment
  rw [segment_append] at segment
  obtain ⟨-, prevNode, nextNode, -⟩ := segment
  refine ⟨?_, ?_⟩
  · simpa using prevNode
  · simpa using nextNode

end Represented

/-! ## Assignments -/

section Assignments

variable [DecidableEq Node]

/-- `node->next = value`. -/
def setNext (links : Links Node) (node : Node) (value : Option Node) : Links Node :=
  { links with next := Function.update links.next node value }

/-- `node->prev = value`. -/
def setPrev (links : Links Node) (node : Node) (value : Option Node) : Links Node :=
  { links with prev := Function.update links.prev node value }

@[simp] theorem setNext_next (links : Links Node) (node other : Node)
    (value : Option Node) :
    (links.setNext node value).next other =
      if other = node then value else links.next other := by
  simp [setNext, Function.update_apply]

@[simp] theorem setNext_prev (links : Links Node) (node : Node) (value : Option Node) :
    (links.setNext node value).prev = links.prev := rfl

@[simp] theorem setPrev_prev (links : Links Node) (node other : Node)
    (value : Option Node) :
    (links.setPrev node value).prev other =
      if other = node then value else links.prev other := by
  simp [setPrev, Function.update_apply]

@[simp] theorem setPrev_next (links : Links Node) (node : Node) (value : Option Node) :
    (links.setPrev node value).next = links.next := rfl

@[simp] theorem setNext_self (links : Links Node) (node : Node) :
    links.setNext node (links.next node) = links := by
  simp [setNext]

@[simp] theorem setPrev_self (links : Links Node) (node : Node) :
    links.setPrev node (links.prev node) = links := by
  simp [setPrev]

/-- `if (target) target->next = value`. -/
def setNextOf (links : Links Node) (target value : Option Node) : Links Node :=
  match target with
  | some node => links.setNext node value
  | none => links

/-- `if (target) target->prev = value`. -/
def setPrevOf (links : Links Node) (target value : Option Node) : Links Node :=
  match target with
  | some node => links.setPrev node value
  | none => links

@[simp] theorem setNextOf_some (links : Links Node) (node : Node) (value : Option Node) :
    links.setNextOf (some node) value = links.setNext node value := rfl

@[simp] theorem setNextOf_none (links : Links Node) (value : Option Node) :
    links.setNextOf none value = links := rfl

@[simp] theorem setPrevOf_some (links : Links Node) (node : Node) (value : Option Node) :
    links.setPrevOf (some node) value = links.setPrev node value := rfl

@[simp] theorem setPrevOf_none (links : Links Node) (value : Option Node) :
    links.setPrevOf none value = links := rfl

theorem agreeOn_setNext {links : Links Node} {node : Node} {value : Option Node}
    {nodes : List Node} (absent : node ∉ nodes) :
    links.AgreeOn (links.setNext node value) nodes := by
  intro member present
  have different : member ≠ node := fun same => absent (same ▸ present)
  simp [different]

theorem agreeOn_setPrev {links : Links Node} {node : Node} {value : Option Node}
    {nodes : List Node} (absent : node ∉ nodes) :
    links.AgreeOn (links.setPrev node value) nodes := by
  intro member present
  have different : member ≠ node := fun same => absent (same ▸ present)
  simp [different]

/-- Redirect the last node of a segment. -/
theorem Segment.setNext_last {links : Links Node} {before after : Option Node}
    {front : List Node} {last : Node}
    (segment : links.Segment before (front ++ [last]) after)
    (nodup : (front ++ [last]).Nodup) (value : Option Node) :
    (links.setNext last value).Segment before (front ++ [last]) value := by
  rw [segment_append] at segment ⊢
  obtain ⟨frontSegment, lastSegment⟩ := segment
  rw [segment_singleton] at lastSegment ⊢
  have absent : last ∉ front := by
    intro present
    have distinct := (List.nodup_append.mp nodup).2.2 last present last (by simp)
    exact distinct rfl
  refine ⟨frontSegment.congr (agreeOn_setNext absent), ?_, ?_⟩
  · rw [setNext_prev, lastSegment.1]
  · simp

/-- Redirect the first node of a segment. -/
theorem Segment.setPrev_first {links : Links Node} {before after : Option Node}
    {first : Node} {rest : List Node}
    (segment : links.Segment before (first :: rest) after)
    (nodup : (first :: rest).Nodup) (value : Option Node) :
    (links.setPrev first value).Segment value (first :: rest) after := by
  obtain ⟨-, nextFirst, restSegment⟩ := segment
  have absent : first ∉ rest := (List.nodup_cons.mp nodup).1
  refine ⟨by simp, by simpa using nextFirst, ?_⟩
  exact restSegment.congr (agreeOn_setPrev absent)

/-! ## Operations -/

/-- Take a node out of its list. -/
def unlink (links : Links Node) (node : Node) : Links Node :=
  let links := links.setPrevOf (links.next node) (links.prev node)
  links.setNextOf (links.prev node) (links.next node)

/-- Put a node in front of the list that starts at `first`. -/
def pushFront (links : Links Node) (node : Node) (first : Option Node) : Links Node :=
  ((links.setPrev node none).setNext node first).setPrevOf first (some node)

/-- Put a node behind the list that ends with `last`. -/
def pushBack (links : Links Node) (node : Node) (last : Option Node) : Links Node :=
  let links := (links.setPrev node none).setNext node none
  (links.setNextOf last (some node)).setPrev node last

/-- What an unlinking changes: the `next` field of the node before. -/
theorem Represents.unlink_next {links : Links Node} {first : Option Node} {node : Node}
    {front back : List Node}
    (represents : links.Represents first (front ++ node :: back)) (other : Node) :
    (links.unlink node).next other =
      if front.getLast? = some other then back.head? else links.next other := by
  obtain ⟨prevNode, nextNode⟩ := represents.neighbours
  have notBack : back.head? ≠ some node := by
    intro same
    have distinct := (List.nodup_append.mp represents.nodup).2.1
    exact (List.nodup_cons.mp distinct).1 (List.mem_of_head? same)
  cases backHead : back.head? with
  | none =>
      cases frontLast : front.getLast? with
      | none => simp [unlink, prevNode, nextNode, backHead, frontLast]
      | some prev =>
          simp [unlink, prevNode, nextNode, backHead, frontLast, eq_comm]
  | some next =>
      have different : node ≠ next := fun same => notBack (by rw [backHead, same])
      cases frontLast : front.getLast? with
      | none => simp [unlink, prevNode, nextNode, backHead, frontLast, different]
      | some prev =>
          simp [unlink, prevNode, nextNode, backHead, frontLast, different, eq_comm]

/-- What an unlinking changes: the `prev` field of the node behind. -/
theorem Represents.unlink_prev {links : Links Node} {first : Option Node} {node : Node}
    {front back : List Node}
    (represents : links.Represents first (front ++ node :: back)) (other : Node) :
    (links.unlink node).prev other =
      if back.head? = some other then front.getLast? else links.prev other := by
  obtain ⟨prevNode, nextNode⟩ := represents.neighbours
  have notBack : back.head? ≠ some node := by
    intro same
    have distinct := (List.nodup_append.mp represents.nodup).2.1
    exact (List.nodup_cons.mp distinct).1 (List.mem_of_head? same)
  cases backHead : back.head? with
  | none =>
      cases frontLast : front.getLast? with
      | none => simp [unlink, prevNode, nextNode, backHead, frontLast]
      | some prev => simp [unlink, prevNode, nextNode, backHead, frontLast]
  | some next =>
      have different : node ≠ next := fun same => notBack (by rw [backHead, same])
      cases frontLast : front.getLast? with
      | none => simp [unlink, prevNode, nextNode, backHead, frontLast, different, eq_comm]
      | some prev =>
          simp [unlink, prevNode, nextNode, backHead, frontLast, different, eq_comm]

/-- The node itself keeps its fields. -/
theorem Represents.unlink_self {links : Links Node} {first : Option Node} {node : Node}
    {front back : List Node}
    (represents : links.Represents first (front ++ node :: back)) :
    (links.unlink node).next node = links.next node ∧
      (links.unlink node).prev node = links.prev node := by
  obtain ⟨-, nodeBackNodup, distinct⟩ := List.nodup_append.mp represents.nodup
  rw [represents.unlink_next, represents.unlink_prev, if_neg, if_neg]
  · exact ⟨rfl, rfl⟩
  · exact fun same => (List.nodup_cons.mp nodeBackNodup).1 (List.mem_of_head? same)
  · exact fun same =>
      distinct node (List.mem_of_getLast? same) node List.mem_cons_self rfl

/-- The two assignments of an unlinking may be made in either order. -/
theorem Represents.unlink_eq {links : Links Node} {first : Option Node} {node : Node}
    {front back : List Node} (represents : links.Represents first (front ++ node :: back)) :
    let redirected := links.setNextOf (links.prev node) (links.next node)
    redirected.setPrevOf (redirected.next node) (redirected.prev node) =
      links.unlink node := by
  obtain ⟨prevNode, nextNode⟩ := represents.neighbours
  obtain ⟨-, nodeBackNodup, distinct⟩ := List.nodup_append.mp represents.nodup
  have notPrev : ∀ prev, links.prev node = some prev → node ≠ prev := by
    rintro prev isPrev rfl
    rw [prevNode] at isPrev
    exact distinct node (List.mem_of_getLast? isPrev) node List.mem_cons_self rfl
  have notNext : ∀ next, links.next node = some next → node ≠ next := by
    rintro next isNext rfl
    rw [nextNode] at isNext
    exact (List.nodup_cons.mp nodeBackNodup).1 (List.mem_of_head? isNext)
  cases isPrev : links.prev node with
  | none =>
      cases isNext : links.next node with
      | none => simp [Links.unlink, isPrev, isNext]
      | some next => simp [Links.unlink, isPrev, isNext, notNext next isNext]
  | some prev =>
      have different := notPrev prev isPrev
      cases isNext : links.next node with
      | none => simp [Links.unlink, isPrev, isNext, different]
      | some next =>
          simp only [Links.unlink, isPrev, isNext, setNextOf_some, setPrevOf_some,
            setNext_next, setNext_prev, setPrev_next, setPrev_prev, if_neg different,
            if_neg (notNext next isNext)]
          rfl

/-- Unlinking changes only the neighbours of the node. -/
theorem Represents.agreeOn_unlink {links : Links Node} {first : Option Node} {node : Node}
    {front back others : List Node}
    (represents : links.Represents first (front ++ node :: back))
    (elsewhere : ∀ other ∈ others, other ∉ front ∧ other ∉ back) :
    links.AgreeOn (links.unlink node) others := by
  intro other present
  obtain ⟨notFront, notBack⟩ := elsewhere other present
  rw [represents.unlink_next, represents.unlink_prev, if_neg, if_neg]
  · exact ⟨rfl, rfl⟩
  · exact fun same => notBack (List.mem_of_head? same)
  · exact fun same => notFront (List.mem_of_getLast? same)

/-- Unlinking removes the node from its list. -/
theorem Represents.unlink {links : Links Node} {first : Option Node} {node : Node}
    {front back : List Node}
    (represents : links.Represents first (front ++ node :: back)) :
    (links.unlink node).Represents (if first = some node then links.next node else first)
      (front ++ back) := by
  have nextOf := represents.unlink_next
  have prevOf := represents.unlink_prev
  obtain ⟨-, nextNode⟩ := represents.neighbours
  obtain ⟨first_eq, segment, nodup⟩ := represents
  obtain ⟨frontNodup, nodeBackNodup, distinct⟩ := List.nodup_append.mp nodup
  obtain ⟨nodeNotBack, backNodup⟩ := List.nodup_cons.mp nodeBackNodup
  have disjoint : ∀ other ∈ front, other ∉ back := fun other inFront inBack =>
    distinct other inFront other (List.mem_cons_of_mem _ inBack) rfl
  rw [segment_append] at segment
  obtain ⟨frontSegment, -, -, backSegment⟩ := segment
  refine ⟨?_, ?_, ?_⟩
  · cases front with
    | nil => simp [first_eq, nextNode]
    | cons head front =>
        have different : head ≠ node := fun same =>
          distinct head List.mem_cons_self node List.mem_cons_self same
        simp [first_eq, different]
  · rw [segment_append]
    refine ⟨?_, ?_⟩
    · rcases List.eq_nil_or_concat front with rfl | ⟨init, last, rfl⟩
      · trivial
      · rw [List.concat_eq_append] at *
        have redirected := frontSegment.setNext_last frontNodup (back.head?.or none)
        refine redirected.congr fun other present => ?_
        have notBack : back.head? ≠ some other := fun same =>
          disjoint other present (List.mem_of_head? same)
        rw [nextOf, prevOf, if_neg notBack]
        simp [eq_comm]
    · cases back with
      | nil => trivial
      | cons head rest =>
          have redirected := backSegment.setPrev_first backNodup (front.getLast?.or none)
          refine redirected.congr fun other present => ?_
          have notFront : front.getLast? ≠ some other := fun same =>
            disjoint other (List.mem_of_getLast? same) present
          rw [nextOf, prevOf, if_neg notFront]
          simp [eq_comm]
  · rw [List.nodup_append]
    exact ⟨frontNodup, backNodup, fun left inFront right inBack =>
      distinct left inFront right (List.mem_cons_of_mem _ inBack)⟩

/-- A push in front changes only the node and the old first node. -/
theorem agreeOn_pushFront {links : Links Node} {node : Node} {first : Option Node}
    {others : List Node} (absent : node ∉ others) (notFirst : ∀ other ∈ others,
      first ≠ some other) :
    links.AgreeOn (links.pushFront node first) others := by
  intro other present
  have different : other ≠ node := fun same => absent (same ▸ present)
  have notOld := notFirst other present
  cases first with
  | none => simp [pushFront, different]
  | some head =>
      have notHead : other ≠ head := fun same => notOld (by rw [same])
      simp [pushFront, different, notHead]

/-- A push in front adds the node. -/
theorem Represents.pushFront {links : Links Node} {first : Option Node}
    {nodes : List Node} {node : Node} (represents : links.Represents first nodes)
    (absent : node ∉ nodes) :
    (links.pushFront node first).Represents (some node) (node :: nodes) := by
  obtain ⟨first_eq, segment, nodup⟩ := represents
  refine ⟨rfl, ?_, List.nodup_cons.mpr ⟨absent, nodup⟩⟩
  cases nodes with
  | nil => simp [Links.pushFront, first_eq, Segment]
  | cons head rest =>
      have different : node ≠ head := fun same => absent (same ▸ List.mem_cons_self)
      have relinked := segment.setPrev_first nodup (some node)
      refine ⟨?_, ?_, relinked.congr fun other present => ?_⟩
      · simp [Links.pushFront, first_eq, different]
      · simp [Links.pushFront, first_eq]
      · have notNode : other ≠ node := fun same => absent (same ▸ present)
        simp [Links.pushFront, first_eq, notNode]

/-- A push behind changes only the node and the old last node. -/
theorem agreeOn_pushBack {links : Links Node} {node : Node} {last : Option Node}
    {others : List Node} (absent : node ∉ others)
    (notLast : ∀ other ∈ others, last ≠ some other) :
    links.AgreeOn (links.pushBack node last) others := by
  intro other present
  have different : other ≠ node := fun same => absent (same ▸ present)
  have notOld := notLast other present
  cases last with
  | none => simp [pushBack, different]
  | some old =>
      have notEnd : other ≠ old := fun same => notOld (by rw [same])
      simp [pushBack, different, notEnd]

/-- A push behind adds the node at the end. -/
theorem Represents.pushBack {links : Links Node} {first : Option Node}
    {nodes : List Node} {node : Node} (represents : links.Represents first nodes)
    (absent : node ∉ nodes) :
    (links.pushBack node nodes.getLast?).Represents (first.or (some node))
      (nodes ++ [node]) := by
  obtain ⟨first_eq, segment, nodup⟩ := represents
  refine ⟨?_, ?_, ?_⟩
  · rw [first_eq]
    cases nodes <;> rfl
  · rcases List.eq_nil_or_concat nodes with rfl | ⟨init, last, rfl⟩
    · simp [Links.pushBack, Segment]
    · rw [List.concat_eq_append] at *
      have different : last ≠ node := fun same => absent (by simp [same])
      have relinked := segment.setNext_last nodup (some node)
      rw [segment_append, segment_singleton]
      refine ⟨relinked.congr fun other present => ?_, ?_, ?_⟩
      · have notNode : other ≠ node := fun same => absent (same ▸ present)
        simp [Links.pushBack, notNode]
      · simp [Links.pushBack]
      · simp [Links.pushBack, different.symm]
  · rw [List.nodup_append]
    refine ⟨nodup, List.nodup_singleton node, fun left present right atEnd same => ?_⟩
    rw [List.mem_singleton.mp atEnd] at same
    exact absent (same ▸ present)

end Assignments
end Links
end ToyKernel
