import FrameGateway.Session.Outbox
/-! Pools of backend sessions, taken in turns. The turns follow the order in which the sessions came;
when one leaves, the next turn is that of the session that would have followed. This is the one policy by
which backends are chosen here; a gateway takes others too, which are not covered. -/

namespace FrameGateway

structure Pool where
  members : List Handle
  /-- the place of the next session -/
  cursor : Nat
  deriving DecidableEq, Inhabited

namespace Pool

def empty : Pool := ⟨[], 0⟩

def size (p : Pool) : Nat := p.members.length

def ids (p : Pool) : List SessionId := p.members.map (·.id)

def find? (p : Pool) (id : SessionId) : Option Handle := p.members.find? (·.id == id)

def contains (p : Pool) (id : SessionId) : Bool := p.members.any (·.id == id)

/-- Puts a session at the end, unless its id is there already. -/
def add (p : Pool) (h : Handle) : Pool × Bool :=
  if p.contains h.id then (p, false) else ({ p with members := p.members ++ [h] }, true)

/-- Takes a session out; was it there? -/
def remove (p : Pool) (id : SessionId) : Pool × Bool :=
  match p.members.findIdx? (·.id == id) with
  | none => (p, false)
  | some i =>
    let members := p.members.eraseIdx i
    let cursor := if i < p.cursor then p.cursor - 1 else p.cursor
    (⟨members, if cursor < members.length then cursor else 0⟩, true)

/-- The session whose turn it is, and the pool after that turn. -/
def next? (p : Pool) : Option (Handle × Pool) :=
  p.members[p.cursor]?.map fun h => (h, { p with cursor := (p.cursor + 1) % p.members.length })

def get (p : Pool) : Pool × Except Fault Handle :=
  match p.next? with
  | some (h, p) => (p, .ok h)
  | none => (p, .error .noSessionsAvailable)

def getMany (p : Pool) : Nat → Pool × Except Fault (List Handle)
  | 0 => (p, .ok [])
  | n + 1 => match p.get with
    | (p, .error e) => (p, .error e)
    | (p, .ok h) =>
      let (p, r) := p.getMany n
      (p, r.map (h :: ·))

/-- Takes all sessions out; how many were there? -/
def clear (p : Pool) : Pool × Nat := (empty, p.size)

theorem length_remove_lt {p : Pool} {h : Handle} (hm : h ∈ p.members) :
    (p.remove h.id).1.members.length < p.members.length := by
  unfold remove
  split
  next hn => simp [List.findIdx?_eq_none_iff] at hn; exact absurd rfl (hn h hm)
  next i hi =>
    have := (List.findIdx?_eq_some_iff_getElem.mp hi).1
    simp [List.length_eraseIdx, this]
    omega

theorem members_of_next? {p q : Pool} {h : Handle} (e : p.next? = some (h, q)) :
    h ∈ p.members ∧ q.members = p.members := by
  simp only [next?, Option.map_eq_some_iff, Prod.mk.injEq] at e
  obtain ⟨a, ha, rfl, rfl⟩ := e
  exact ⟨List.mem_of_getElem? ha, rfl⟩

end Pool

end FrameGateway
