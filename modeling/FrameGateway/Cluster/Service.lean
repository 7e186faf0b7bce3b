import FrameGateway.Cluster.Coordinator
import FrameGateway.Cluster.Family
import FrameGateway.Dispatcher
/-! The coordinator behind a dispatcher: logins and queries by frames. -/

namespace FrameGateway

/-- A coordinator with its clocks: the wall clock in milliseconds, if it can be read, and the steady one
in nanoseconds. -/
structure ClockedCoordinator where
  coordinator : Coordinator
  now : Option UInt64
  clock : Nat

namespace ClockedCoordinator

variable {α : Type} [MessageFamily α]

def loginHandler : Handler (WithCluster α) ClockedCoordinator where
  request := .inl .loginRequest
  reply := .inl .loginResponse
  run (r : LoginRequest) s :=
    let (c, answer) := s.coordinator.loginByClock r s.now s.clock
    ({ s with coordinator := c }, .ok answer)

def queryHandler : Handler (WithCluster α) ClockedCoordinator where
  request := .inl .queryRequest
  reply := .inl .queryResponse
  run (r : QueryRequest) s := (s, .ok (s.coordinator.query r))

/-- Puts both handlers in; the first fault ends it. -/
def install [DecidableEq α] (d : Dispatcher (WithCluster α) ClockedCoordinator)
    (m : TypeTable (WithCluster α)) :
    (Dispatcher (WithCluster α) ClockedCoordinator × TypeTable (WithCluster α)) × Except Fault Unit :=
  match d.register m loginHandler with
  | (dm, .error e) => (dm, .error e)
  | ((d, m), .ok _) =>
    let (dm, r) := d.register m queryHandler
    (dm, r.map fun _ => ())

end ClockedCoordinator

end FrameGateway
