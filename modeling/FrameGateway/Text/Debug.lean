import FrameGateway.Text.Hex
import FrameGateway.Text.Invisible
/-! Diagnostic forms of texts and lists. -/

namespace FrameGateway

/-- A text between quotes, with escapes for quotes, backslashes and what cannot be seen. -/
def debugQuoted (s : String) : String :=
  let esc (c : Char) : String := match c with
    | '"' => "\\\""
    | '\\' => "\\\\"
    | '\n' => "\\n"
    | '\r' => "\\r"
    | '\t' => "\\t"
    | '\x00' => "\\0"
    | c => if isInvisible c then "\\u\x7b" ++ hexShort c.toNat ++ "\x7d" else String.singleton c
  "\"" ++ s.foldl (fun acc c => acc ++ esc c) "" ++ "\""

def debugList (items : List String) : String := "[" ++ ", ".intercalate items ++ "]"

def debugOption (f : α → String) : Option α → String
  | none => "None"
  | some a => "Some(" ++ f a ++ ")"

def debugRecord (name : String) (fields : List (String × String)) : String :=
  name ++ " \x7b " ++ ", ".intercalate (fields.map fun (k, v) => k ++ ": " ++ v) ++ " \x7d"

def debugOpenRecord (name : String) (fields : List (String × String)) : String :=
  name ++ " \x7b " ++ ", ".intercalate (fields.map fun (k, v) => k ++ ": " ++ v) ++ ", .. \x7d"

end FrameGateway
