import Mathlib.Data.List.Nodup
import Mathlib.Logic.Function.Basic
import Mathlib.Logic.Relation

/-!
Owns singly linked queues whose links are inside of the queued nodes, as in
`nuttx/libc/queue`. The links of all nodes are one function, so that a node keeps
its link when its queue is emptied or when it is removed as the first one.

`Holds` says that a queue is a proper list, and the lemmas about it say how the
operations change the list. The lemmas about single links hold for any links.
-/

namespace Thingsee.Support

universe u

variable {N : Type u}

/-- `sq_queue_t`. -/
structure Queue (N : Type u) where
  head : Option N
  tail : Option N

/-- The links of all nodes. -/
abbrev Links (N : Type u) := N → Option N

def Links.Behind (flink : Links N) : N → N → Prop :=
  Relation.TransGen (fun a b => flink a = some b)

variable [DecidableEq N]

structure Linked (N : Type u) where
  flink : Links N
  queue : Queue N

namespace Linked

variable {linked : Linked N} {fuel : Nat} {node a b : N}

/-- `sq_init`. -/
def init (linked : Linked N) : Linked N := { linked with queue := ⟨none, none⟩ }

/-- `sq_addlast`. A queue with a first node has a last one. -/
def addlast (linked : Linked N) (node : N) : Linked N :=
  let flink := Function.update linked.flink node none
  match linked.queue.head, linked.queue.tail with
  | none, _ => ⟨flink, ⟨some node, some node⟩⟩
  | some first, some last => ⟨Function.update flink last (some node), ⟨some first, some node⟩⟩
  | some first, none => ⟨flink, ⟨some first, none⟩⟩

/-- `sq_remafter`. -/
def remafter (linked : Linked N) (node : N) : Linked N :=
  match linked.flink node with
  | none => linked
  | some removed =>
    if linked.queue.tail = some removed then
      { flink := Function.update (Function.update linked.flink node none) removed none
        queue := { linked.queue with tail := some node } }
    else
      { linked with
        flink :=
          Function.update (Function.update linked.flink node (linked.flink removed)) removed none }

/-- The search of `sq_rem` for the node in front, in at most `fuel` turns. -/
def findPrev (flink : Links N) (node : N) : Nat → N → Option N
  | 0, _ => none
  | fuel + 1, prev =>
    if flink prev = some node then some prev
    else
      match flink prev with
      | none => none
      | some next => findPrev flink node fuel next

/-- `sq_rem`. -/
def rem (linked : Linked N) (fuel : Nat) (node : N) : Linked N :=
  match linked.queue.head with
  | none => linked
  | some first =>
    if first = node then
      { linked with
        queue :=
          ⟨linked.flink node, if linked.queue.tail = some node then none else linked.queue.tail⟩ }
    else
      match findPrev linked.flink node fuel first with
      | none => linked
      | some prev => linked.remafter prev

theorem addlast_link (link : (linked.addlast node).flink a = some b) :
    linked.flink a = some b ∨ (linked.queue.tail = some a ∧ b = node) := by
  unfold addlast at link
  have kept (same : Function.update linked.flink node none a = some b) :
      linked.flink a = some b := by
    by_cases isNode : a = node
    · subst isNode
      simp at same
    · rwa [Function.update_of_ne isNode] at same
  split at link
  · exact Or.inl (kept link)
  · next last isHead isTail =>
    dsimp only at link
    by_cases isLast : a = last
    · subst isLast
      rw [Function.update_self] at link
      exact Or.inr ⟨isTail, (Option.some.inj link).symm⟩
    · rw [Function.update_of_ne isLast] at link
      exact Or.inl (kept link)
  · exact Or.inl (kept link)

theorem addlast_queue (linked : Linked N) (node : N) :
    ((linked.addlast node).queue.head = linked.queue.head ∨
        (linked.addlast node).queue.head = some node) ∧
      ((linked.addlast node).queue.tail = none ∨
        (linked.addlast node).queue.tail = some node) := by
  unfold addlast
  split
  · exact ⟨Or.inr rfl, Or.inr rfl⟩
  · next isHead _ => exact ⟨Or.inl isHead.symm, Or.inr rfl⟩
  · next isHead _ => exact ⟨Or.inl isHead.symm, Or.inl rfl⟩

theorem addlast_flink_of_ne (notNode : a ≠ node) (notLast : linked.queue.tail ≠ some a) :
    (linked.addlast node).flink a = linked.flink a := by
  unfold addlast
  split
  · exact Function.update_of_ne notNode _ _
  · next last _ isLast =>
    have other : a ≠ last := by
      intro same
      exact notLast (by rw [isLast, same])
    dsimp only
    rw [Function.update_of_ne other, Function.update_of_ne notNode]
  · exact Function.update_of_ne notNode _ _

theorem findPrev_link {flink : Links N} {first prev : N}
    (found : findPrev flink node fuel first = some prev) : flink prev = some node := by
  induction fuel generalizing first with
  | zero => simp [findPrev] at found
  | succ fuel ih =>
    unfold findPrev at found
    split at found
    · next here => rwa [← Option.some.inj found]
    · split at found
      · simp at found
      · exact ih found

theorem rem_link (link : (linked.rem fuel node).flink a = some b) :
    linked.flink a = some b ∨ (linked.flink a = some node ∧ linked.flink node = some b) := by
  unfold rem at link
  split at link
  · exact Or.inl link
  · split at link
    · exact Or.inl link
    · split at link
      · exact Or.inl link
      · next prev found =>
        have isPrev := findPrev_link found
        unfold remafter at link
        rw [isPrev] at link
        dsimp only at link
        split at link
        · dsimp only at link
          by_cases isNode : a = node
          · subst isNode
            simp at link
          · rw [Function.update_of_ne isNode] at link
            by_cases isA : a = prev
            · subst isA
              simp at link
            · rw [Function.update_of_ne isA] at link
              exact Or.inl link
        · dsimp only at link
          by_cases isNode : a = node
          · subst isNode
            simp at link
          · rw [Function.update_of_ne isNode] at link
            by_cases isA : a = prev
            · subst isA
              rw [Function.update_self] at link
              exact Or.inr ⟨isPrev, link⟩
            · rw [Function.update_of_ne isA] at link
              exact Or.inl link

theorem rem_behind (link : (linked.rem fuel node).flink a = some b) : linked.flink.Behind a b := by
  rcases rem_link link with old | ⟨toNode, fromNode⟩
  · exact Relation.TransGen.single old
  · apply Relation.TransGen.trans
    · exact Relation.TransGen.single toNode
    · exact Relation.TransGen.single fromNode

theorem rem_of_empty (fuel : Nat) (node : N) (empty : linked.queue.head = none) :
    linked.rem fuel node = linked := by
  unfold rem
  rw [empty]

theorem rem_queue :
    ((linked.rem fuel node).queue.head = linked.queue.head ∨
        (linked.queue.head = some node ∧
          (linked.rem fuel node).queue.head = linked.flink node)) ∧
      ((linked.rem fuel node).queue.tail = linked.queue.tail ∨
        (linked.rem fuel node).queue.tail = none ∨
        ∃ prev, linked.flink prev = some node ∧
          (linked.rem fuel node).queue.tail = some prev) := by
  unfold rem
  split
  · exact ⟨Or.inl rfl, Or.inl rfl⟩
  · next first isFirst =>
    split
    · next same =>
      subst same
      refine ⟨Or.inr ⟨isFirst, rfl⟩, ?_⟩
      split
      · exact Or.inr (Or.inl rfl)
      · exact Or.inl rfl
    · split
      · exact ⟨Or.inl rfl, Or.inl rfl⟩
      · next prev found =>
        have isPrev := findPrev_link found
        unfold remafter
        rw [isPrev]
        dsimp only
        split
        · exact ⟨Or.inl rfl, Or.inr (Or.inr ⟨prev, isPrev, rfl⟩)⟩
        · exact ⟨Or.inl rfl, Or.inl rfl⟩

end Linked

end Thingsee.Support
