import FrameGateway.Text.Hex
/-! TOML text of strings: double quotes for plain text, single quotes where that spares escapes. -/

namespace FrameGateway.Toml

def longestRun (c : Char) (cs : List Char) : Nat :=
  (cs.foldl (fun (best, run) d => if d = c then (max best (run + 1), run + 1) else (best, 0)) (0, 0)).1

def isControl (c : Char) : Bool := (c.toNat < 0x20 && c ≠ '\t' && c ≠ '\n') || c.toNat = 0x7f

/-- Escapes for a string in double quotes; `most` quotes in a row need none. -/
def escaped (lines : Bool) (most : Nat) : List Char → Nat → List Char
  | [], _ => []
  | c :: r, run =>
    if c = '"' then
      if run < most then '"' :: escaped lines most r (run + 1) else '\\' :: '"' :: escaped lines most r 0
    else
      let piece := match c with
        | '\\' => ['\\', '\\']
        | '\x08' => ['\\', 'b']
        | '\t' => ['\\', 't']
        | '\n' => if lines then ['\n'] else ['\\', 'n']
        | '\x0c' => ['\\', 'f']
        | '\r' => ['\\', 'r']
        | c => if isControl c then '\\' :: 'u' :: (hexDigits 4 c.toNat).map Char.toUpper else [c]
      piece ++ escaped lines most r 0

/-- The first of these that needs no escapes: one line in double or single quotes, many lines in double
or single quotes; else one or many lines with escapes. -/
def quoted (s : String) : String :=
  let cs := s.toList
  let lines := cs.contains '\n'
  let codes := cs.any isControl
  let slashes := cs.contains '\\'
  let double := longestRun '"' cs
  let single := longestRun '\'' cs
  let block (q : String) (body : List Char) := q ++ (if lines then "\n" else "") ++ String.ofList body ++ q
  if !codes && !slashes && double = 0 && !lines then "\"" ++ String.ofList (escaped false 0 cs 0) ++ "\""
  else if !codes && single = 0 && !lines then "'" ++ s ++ "'"
  else if !codes && !slashes && double ≤ 2 then block "\"\"\"" (escaped true 2 cs 0)
  else if !codes && single ≤ 2 then block "'''" cs
  else if lines then block "\"\"\"" (escaped true 2 cs 0)
  else "\"" ++ String.ofList (escaped false 0 cs 0) ++ "\""

end FrameGateway.Toml
