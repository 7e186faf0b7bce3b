import FrameGateway.Duration
import FrameGateway.Fault
/-! Waiting with a limit. What is ready when the limit is reached still counts. -/

namespace FrameGateway

/-- The outcome of work that takes so long, waited for no longer than `limit`. -/
def within (limit takes : Duration) (outcome : Except Fault α) : Except Fault α :=
  if takes.timer ≤ limit.timer then outcome else .error .timeout

end FrameGateway
