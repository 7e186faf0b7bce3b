/-! First-in first-out queues. Two lists hold a queue, so that both of its ends are cheap; `toList`
is the view that all operations are described by. -/

namespace FrameGateway

structure Fifo (α : Type u) where
  front : List α
  /-- newest first -/
  back : List α

namespace Fifo

variable {α : Type u}

def empty : Fifo α := ⟨[], []⟩

instance : Inhabited (Fifo α) := ⟨empty⟩

def toList (q : Fifo α) : List α := q.front ++ q.back.reverse

def size (q : Fifo α) : Nat := q.front.length + q.back.length

def push (q : Fifo α) (a : α) : Fifo α := ⟨q.front, a :: q.back⟩

def pop? (q : Fifo α) : Option (α × Fifo α) :=
  match q.front with
  | a :: f => some (a, ⟨f, q.back⟩)
  | [] => match q.back.reverse with
    | a :: f => some (a, ⟨f, []⟩)
    | [] => none

@[simp] theorem toList_empty : (empty : Fifo α).toList = [] := rfl

@[simp] theorem length_toList (q : Fifo α) : q.toList.length = q.size := by simp [toList, size]

@[simp] theorem toList_push (q : Fifo α) (a : α) : (q.push a).toList = q.toList ++ [a] := by
  simp [toList, push]

theorem toList_of_pop?_eq_some {q q' : Fifo α} {a : α} (h : q.pop? = some (a, q')) :
    q.toList = a :: q'.toList := by
  unfold pop? at h
  split at h
  next f hf => cases h; simp [toList, hf]
  next hf =>
    split at h
    next f hb => cases h; simp [toList, hf, hb]
    next => cases h

theorem toList_of_pop?_eq_none {q : Fifo α} (h : q.pop? = none) : q.toList = [] := by
  unfold pop? at h
  split at h
  next => cases h
  next hf =>
    split at h
    next => cases h
    next hb => simp [toList, hf, hb]

theorem size_of_pop? {q q' : Fifo α} {a : α} (h : q.pop? = some (a, q')) : q.size = q'.size + 1 := by
  have := congrArg List.length (toList_of_pop?_eq_some h)
  simpa using this

end Fifo

end FrameGateway
