import FrameGateway.Cluster.Coordinator
/-! Coordinators that stand side by side, and may share one table of nodes. -/

namespace FrameGateway

structure CoordinatorGroup where
  /-- each with the number of its table; those of one number share it -/
  members : List (Nat × Coordinator)

namespace CoordinatorGroup

/-- The coordinators in order. One that names an earlier member shares that member's table. -/
def create (cs : List (Option Nat × Coordinator)) : CoordinatorGroup :=
  ⟨cs.foldl (fun ms (earlier, c) => ms ++ [match earlier.bind (ms[·]?) with
    | some (table, d) => (table, { c with nodes := d.nodes })
    | none => (ms.length, c)]) []⟩

/-- Lets one member act, if there is one with that number; all that share its table see the change. -/
def act (g : CoordinatorGroup) (i : Nat) (f : Coordinator → Coordinator × α) : CoordinatorGroup × Option α :=
  match g.members[i]? with
  | none => (g, none)
  | some (table, c) =>
    let (c, a) := f c
    let share : Nat × Coordinator → Nat × Coordinator
      | (t, d) => (t, if t = table then { d with nodes := c.nodes } else d)
    (⟨(g.members.set i (table, c)).map share⟩, some a)

end CoordinatorGroup

end FrameGateway
