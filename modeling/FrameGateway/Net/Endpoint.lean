import FrameGateway.Fault
import FrameGateway.Net.Address
/-! Texts that say where to connect or to listen: a socket address, or a host and a port. -/

namespace FrameGateway.Endpoint

def portText? (s : String) : Option String :=
  match s.splitOn ":" with
  | _ :: last => last.getLast?
  | [] => none

/-- Hands back a text that leads somewhere, and refuses one without a port. -/
def check (s : String) : Except Fault String :=
  if Address.isSocketAddress s then .ok s
  else match portText? s with
    | none => .error (.transport .invalidInput "invalid socket address")
    | some p => match natural? 65536 p with
      | none => .error (.transport .invalidInput "invalid port value")
      | some _ => .ok s

end FrameGateway.Endpoint
