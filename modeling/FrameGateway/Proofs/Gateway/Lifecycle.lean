import FrameGateway.Gateway.Basic
import Mathlib.Tactic.Common
/-! The life cycle of a gateway under calls to start and to stop that come in any order, each start
cut where it waits for the address to be bound. All starts that succeed give one address. A stop
ends the life cycle for good exactly where no bind fails behind it (`stays_stopped_iff`): the
outcome of a failed bind puts the gateway back at the beginning, a stopped one too. -/

namespace FrameGateway

/-- A stretch of a call that nothing else comes between. -/
inductive LifeStep where
  /-- a call to start begins -/
  | start
  /-- the bind that a call waits for is over -/
  | bound (call : Nat) (outcome : Except Fault String)
  | stop

/-- A gateway and the calls to start it, numbered as they begin. -/
structure Life where
  gateway : Gateway
  begun : Nat
  /-- calls that wait for their bind -/
  binding : List Nat
  /-- what the calls that are over returned, oldest first -/
  answers : List (Nat × Except Fault String)

namespace Gateway

@[simp] theorem phase_stop (g : Gateway) : g.stop.phase = .stopped := by
  rw [stop_eq]; split <;> simp [*]

@[simp] theorem address_stop (g : Gateway) : g.stop.address = g.address := by
  unfold stop; split <;> rfl

theorem finishStart_of_stopped {g : Gateway} (a : String) (h : g.phase = .stopped) :
    g.finishStart (.ok a) = ({ g with address := some a }, .error .gatewayStopped) := if_pos h

theorem finishStart_of_not_stopped {g : Gateway} (a : String) (h : g.phase ≠ .stopped) :
    g.finishStart (.ok a) = ({ g with address := some a, phase := .running }, .ok a) := if_neg h

end Gateway

namespace Life

def create (config : Config) : Life := ⟨.create config, 0, [], []⟩

/-- The next stretch; only a call that waits for its bind can be told of its end. -/
def step? (l : Life) : LifeStep → Option Life
  | .start => match l.gateway.beginStart with
    | (gateway, some r) =>
      some { l with gateway, begun := l.begun + 1, answers := l.answers ++ [(l.begun, r)] }
    | (gateway, none) => some { l with gateway, begun := l.begun + 1, binding := l.begun :: l.binding }
  | .bound i outcome =>
    if i ∈ l.binding then
      let (gateway, r) := l.gateway.finishStart outcome
      some { l with gateway, binding := l.binding.erase i, answers := l.answers ++ [(i, r)] }
    else none
  | .stop => some { l with gateway := l.gateway.stop }

def run? (l : Life) (steps : List LifeStep) : Option Life := steps.foldlM step? l

@[simp] theorem run?_nil (l : Life) : l.run? [] = some l := rfl

theorem run?_cons (l : Life) (a : LifeStep) (steps : List LifeStep) :
    l.run? (a :: steps) = (l.step? a).bind (·.run? steps) := rfl

theorem run?_cons_eq_some {l l' : Life} {a : LifeStep} {steps : List LifeStep} :
    l.run? (a :: steps) = some l' ↔ ∃ m, l.step? a = some m ∧ m.run? steps = some l' := by
  rw [run?_cons, Option.bind_eq_some_iff]

theorem run?_append (l : Life) (a b : List LifeStep) :
    l.run? (a ++ b) = (l.run? a).bind (·.run? b) := by
  rw [run?, List.foldlM_append]; rfl

inductive Stepped (l : Life) : LifeStep → Life → Prop
  | begins (h : l.gateway.phase = .uninitialized) :
    Stepped l .start { l with gateway := { l.gateway with phase := .initializing }
                              begun := l.begun + 1, binding := l.begun :: l.binding }
  | answered (r : Except Fault String) (h : l.gateway.phase ≠ .uninitialized)
      (hr : ∀ a, r = .ok a → l.gateway.phase = .running ∧ l.gateway.address = some a) :
    Stepped l .start { l with begun := l.begun + 1, answers := l.answers ++ [(l.begun, r)] }
  | failed (i : Nat) (e : Fault) (hi : i ∈ l.binding) :
    Stepped l (.bound i (.error e))
      { l with gateway := { l.gateway with phase := .uninitialized }
               binding := l.binding.erase i, answers := l.answers ++ [(i, .error e)] }
  | runs (i : Nat) (a : String) (hi : i ∈ l.binding) (h : l.gateway.phase ≠ .stopped) :
    Stepped l (.bound i (.ok a))
      { l with gateway := { l.gateway with address := some a, phase := .running }
               binding := l.binding.erase i, answers := l.answers ++ [(i, .ok a)] }
  | late (i : Nat) (a : String) (hi : i ∈ l.binding) (h : l.gateway.phase = .stopped) :
    Stepped l (.bound i (.ok a))
      { l with gateway := { l.gateway with address := some a }
               binding := l.binding.erase i, answers := l.answers ++ [(i, .error .gatewayStopped)] }
  | stops : Stepped l .stop { l with gateway := l.gateway.stop }

theorem stepped_of_step? {l l' : Life} {a : LifeStep} (h : l.step? a = some l') : l.Stepped a l' := by
  cases a with
  | start =>
    cases hp : l.gateway.phase with
    | uninitialized =>
      simp only [step?, Gateway.beginStart, hp, Option.some.injEq] at h
      exact h ▸ .begins hp
    | initializing =>
      simp only [step?, Gateway.beginStart, hp, Option.some.injEq] at h
      exact h ▸ .answered _ (by simp [hp]) (by simp)
    | running =>
      simp only [step?, Gateway.beginStart, hp, Option.some.injEq] at h
      refine h ▸ .answered _ (by simp [hp]) fun a ha => ⟨hp, ?_⟩
      cases had : l.gateway.address with
      | none => simp [had] at ha
      | some b => simpa [had] using ha
    | stopped =>
      simp only [step?, Gateway.beginStart, hp, Option.some.injEq] at h
      exact h ▸ .answered _ (by simp [hp]) (by simp)
  | bound i outcome =>
    simp only [step?] at h
    split at h
    next hi =>
      cases outcome with
      | error e => cases h; exact .failed i e hi
      | ok a =>
        by_cases hp : l.gateway.phase = .stopped
        · rw [Gateway.finishStart_of_stopped a hp] at h
          cases h
          exact .late i a hi hp
        · rw [Gateway.finishStart_of_not_stopped a hp] at h
          cases h
          exact .runs i a hi hp
    next => cases h
  | stop => cases h; exact .stops

/-- Only a gateway that is starting, or that was stopped meanwhile, has a bind under way, and only one.
Once a start has succeeded there is none, and the address stands. -/
structure Inv (l : Life) : Prop where
  alone : l.binding.length ≤ 1
  idle : l.gateway.phase = .uninitialized ∨ l.gateway.phase = .running → l.binding = []
  settled : ∀ i a, (i, .ok a) ∈ l.answers →
    l.gateway.address = some a ∧ l.binding = [] ∧
      (l.gateway.phase = .running ∨ l.gateway.phase = .stopped)

theorem inv_create (config : Config) : (create config).Inv :=
  ⟨Nat.zero_le _, fun _ => rfl, fun _ _ h => by simp [create] at h⟩

/-- While a bind is under way no start has succeeded. -/
theorem Inv.not_ok {l : Life} (h : l.Inv) {i : Nat} (hi : i ∈ l.binding) (j : Nat) (a : String) :
    (j, .ok a) ∉ l.answers := by
  intro hm
  rw [(h.settled j a hm).2.1] at hi
  exact List.not_mem_nil hi

theorem Inv.phase_of_binding {l : Life} (h : l.Inv) {i : Nat} (hi : i ∈ l.binding) :
    l.gateway.phase = .initializing ∨ l.gateway.phase = .stopped := by
  cases hp : l.gateway.phase with
  | initializing => exact .inl rfl
  | stopped => exact .inr rfl
  | uninitialized => rw [h.idle (.inl hp)] at hi; exact absurd hi List.not_mem_nil
  | running => rw [h.idle (.inr hp)] at hi; exact absurd hi List.not_mem_nil

theorem Inv.erase_binding {l : Life} (h : l.Inv) {i : Nat} (hi : i ∈ l.binding) :
    l.binding.erase i = [] := by
  have := h.alone
  rw [← List.length_eq_zero_iff, List.length_erase_of_mem hi]
  omega

theorem Inv.step {l l' : Life} {a : LifeStep} (h : l.Inv) (hs : l.Stepped a l') : l'.Inv := by
  cases hs with
  | begins hp =>
    have hb := h.idle (.inl hp)
    refine ⟨by simp [hb], by simp, fun i a hm => ?_⟩
    have := (h.settled i a hm).2.2
    simp [hp] at this
  | answered r hp hr =>
    refine ⟨h.alone, h.idle, fun i a hm => ?_⟩
    rcases List.mem_append.mp hm with hm | hm
    · exact h.settled i a hm
    · obtain ⟨rfl, rfl⟩ : i = l.begun ∧ r = .ok a := by simpa [eq_comm] using hm
      obtain ⟨hrun, had⟩ := hr a rfl
      exact ⟨had, h.idle (.inr hrun), .inl hrun⟩
  | failed i e hi =>
    refine ⟨by simp [h.erase_binding hi], fun _ => h.erase_binding hi, fun j a hm => ?_⟩
    rcases List.mem_append.mp hm with hm | hm
    · exact absurd hm (h.not_ok hi j a)
    · simp at hm
  | runs i a hi hp =>
    refine ⟨by simp [h.erase_binding hi], fun _ => h.erase_binding hi, fun j b hm => ?_⟩
    rcases List.mem_append.mp hm with hm | hm
    · exact absurd hm (h.not_ok hi j b)
    · obtain ⟨rfl, rfl⟩ : j = i ∧ b = a := by simpa using hm
      exact ⟨rfl, h.erase_binding hi, .inl rfl⟩
  | late i a hi hp =>
    refine ⟨by simp [h.erase_binding hi], fun _ => h.erase_binding hi, fun j b hm => ?_⟩
    rcases List.mem_append.mp hm with hm | hm
    · exact absurd hm (h.not_ok hi j b)
    · simp at hm
  | stops =>
    refine ⟨h.alone, by simp, fun i a hm => ?_⟩
    obtain ⟨had, hb, -⟩ := h.settled i a hm
    exact ⟨by simpa using had, hb, .inr (Gateway.phase_stop _)⟩

theorem Inv.run {l l' : Life} {steps : List LifeStep} (h : l.Inv) (hr : l.run? steps = some l') :
    l'.Inv := by
  induction steps generalizing l with
  | nil => cases hr; exact h
  | cons a steps ih =>
    obtain ⟨m, hm, hr⟩ := run?_cons_eq_some.mp hr
    exact ih (h.step (stepped_of_step? hm)) hr

/-- Where a stretch takes the phase of the gateway. -/
def nextPhase : Phase → LifeStep → Phase
  | .uninitialized, .start => .initializing
  | .initializing, .bound _ (.ok _) => .running
  | .initializing, .bound _ (.error _) => .uninitialized
  -- the one way out of a stop
  | .stopped, .bound _ (.error _) => .uninitialized
  | _, .stop => .stopped
  | p, _ => p

theorem Inv.phase_step {l l' : Life} {a : LifeStep} (h : l.Inv) (hs : l.Stepped a l') :
    l'.gateway.phase = nextPhase l.gateway.phase a := by
  cases hs with
  | begins hp => rw [hp]; rfl
  | answered r hp hr => cases hp' : l.gateway.phase <;> simp_all [nextPhase]
  | failed i e hi => rcases h.phase_of_binding hi with hp | hp <;> rw [hp] <;> rfl
  | runs i a hi hp =>
    have hp := (h.phase_of_binding hi).resolve_right hp
    rw [hp]; rfl
  | late i a hi hp => exact hp.trans (by rw [hp]; rfl)
  | stops => cases l.gateway.phase <;> simp [nextPhase]

/-- Behind a stop, whatever is not a failed bind leaves the gateway stopped, and returns faults only. -/
theorem Stepped.of_stopped {l l' : Life} {a : LifeStep} (hs : l.Stepped a l')
    (hp : l.gateway.phase = .stopped) (ha : ∀ i e, a ≠ .bound i (.error e)) :
    l'.gateway.phase = .stopped ∧
      ∃ new, l'.answers = l.answers ++ new ∧ ∀ x ∈ new, ∃ e, x.2 = .error e := by
  cases hs with
  | begins h => rw [hp] at h; cases h
  | answered r h hr =>
    refine ⟨hp, [(l.begun, r)], rfl, fun x hx => ?_⟩
    cases List.mem_singleton.mp hx
    cases r with
    | error e => exact ⟨e, rfl⟩
    | ok a => have := (hr a rfl).1; rw [hp] at this; cases this
  | failed i e hi => exact absurd rfl (ha i e)
  | runs i a hi h => exact absurd hp h
  | late i a hi h =>
    refine ⟨hp, [(i, .error .gatewayStopped)], rfl, fun x hx => ?_⟩
    cases List.mem_singleton.mp hx
    exact ⟨_, rfl⟩
  | stops => exact ⟨Gateway.phase_stop _, [], by simp, by simp⟩

theorem Stepped.phase_failed {l l' : Life} {i : Nat} {e : Fault}
    (hs : l.Stepped (.bound i (.error e)) l') : l'.gateway.phase = .uninitialized := by
  cases hs; rfl

/-- From here on the gateway is stopped after every stretch, and the calls that are over by then
return faults. -/
def StaysStopped (l : Life) (steps : List LifeStep) : Prop :=
  ∀ done m, done <+: steps → l.run? done = some m → m.gateway.phase = .stopped ∧
    ∃ new, m.answers = l.answers ++ new ∧ ∀ x ∈ new, ∃ e, x.2 = .error e

theorem run_of_stopped {l l' : Life} {steps : List LifeStep} (hr : l.run? steps = some l')
    (hp : l.gateway.phase = .stopped) (hf : ∀ i e, LifeStep.bound i (.error e) ∉ steps) :
    l'.gateway.phase = .stopped ∧
      ∃ new, l'.answers = l.answers ++ new ∧ ∀ x ∈ new, ∃ e, x.2 = .error e := by
  induction steps generalizing l with
  | nil => cases hr; exact ⟨hp, [], by simp, by simp⟩
  | cons a steps ih =>
    obtain ⟨m, hm, hr⟩ := run?_cons_eq_some.mp hr
    obtain ⟨hpm, new, hnew, herr⟩ :=
      (stepped_of_step? hm).of_stopped hp fun i e ha => hf i e (by simp [ha])
    obtain ⟨hpl, more, hmore, hmerr⟩ := ih hr hpm fun i e hi => hf i e (by simp [hi])
    refine ⟨hpl, new ++ more, by rw [hmore, hnew, List.append_assoc], fun x hx => ?_⟩
    rcases List.mem_append.mp hx with hx | hx
    · exact herr x hx
    · exact hmerr x hx

/-- A stop is final exactly where no bind fails behind it. -/
theorem stays_stopped_iff {l l' : Life} {steps : List LifeStep} (hp : l.gateway.phase = .stopped)
    (hr : l.run? steps = some l') :
    l.StaysStopped steps ↔ ∀ i e, LifeStep.bound i (.error e) ∉ steps := by
  constructor
  · intro h i e hm
    obtain ⟨done, rest, rfl⟩ := List.append_of_mem hm
    rw [run?_append, Option.bind_eq_some_iff] at hr
    obtain ⟨m, hdone, hr⟩ := hr
    obtain ⟨m', hm', hr⟩ := run?_cons_eq_some.mp hr
    have hpre : done ++ [.bound i (.error e)] <+: done ++ .bound i (.error e) :: rest := by simp
    have hrun : l.run? (done ++ [.bound i (.error e)]) = some m' := by
      rw [run?_append, hdone]
      exact run?_cons_eq_some.mpr ⟨m', hm', rfl⟩
    have hstop := (h _ m' hpre hrun).1
    rw [(stepped_of_step? hm').phase_failed] at hstop
    cases hstop
  · intro hf done m hpre hrun
    exact run_of_stopped hrun hp fun i e hm => hf i e (hpre.subset hm)

/-- The life cycle of a gateway, whatever the order of its calls. At every point that can be reached,
one address is all that starts have returned; the next stretch moves the phase as `nextPhase`
says; and once the gateway is stopped it stays so, and starts return faults only, exactly where no
bind that the stop has come upon fails. -/
theorem lifecycle (config : Config) (steps : List LifeStep) (l : Life)
    (h : (create config).run? steps = some l) :
    (∃ address, ∀ i a, (i, .ok a) ∈ l.answers → a = address) ∧
    (∀ a l', l.step? a = some l' → l'.gateway.phase = nextPhase l.gateway.phase a) ∧
    (l.gateway.phase = .stopped → ∀ rest l', l.run? rest = some l' →
      (l.StaysStopped rest ↔ ∀ i e, LifeStep.bound i (.error e) ∉ rest)) := by
  have hi := (inv_create config).run h
  refine ⟨?_, fun a l' hs => hi.phase_step (stepped_of_step? hs), fun hp rest l' hr =>
    stays_stopped_iff hp hr⟩
  refine ⟨l.gateway.address.getD "", fun i a hm => ?_⟩
  rw [(hi.settled i a hm).1, Option.getD_some]

/-- A stop comes upon a bind that succeeds, and a start behind it is refused. -/
theorem lifecycle_of_stop_in_bind :
    ∃ l l', (create {}).run? [.start, .stop] = some l ∧
      l.run? [.bound 0 (.ok "127.0.0.1:7100"), .start] = some l' ∧
      l.StaysStopped [.bound 0 (.ok "127.0.0.1:7100"), .start] := by
  refine ⟨_, _, rfl, rfl, ?_⟩
  exact ((lifecycle {} [.start, .stop] _ rfl).2.2 rfl _ _ rfl).mpr (by simp)

/-- A bind that fails behind a stop undoes it: the gateway starts again. -/
theorem restarts_after_stop :
    ∃ l l', (create {}).run? [.start, .stop] = some l ∧ l.gateway.phase = .stopped ∧
      l.run? [.bound 0 (.error .timeout), .start, .bound 1 (.ok "127.0.0.1:7100")] = some l' ∧
      l'.gateway.phase = .running ∧ (1, .ok "127.0.0.1:7100") ∈ l'.answers := by
  refine ⟨_, _, rfl, rfl, rfl, rfl, ?_⟩
  exact List.mem_append_right _ (List.mem_singleton_self _)

end Life

end FrameGateway
