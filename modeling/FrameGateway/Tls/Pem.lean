import FrameGateway.Text.Utf8
import FrameGateway.Tls.Base64
/-! Files of labelled sections in base 64. Text between sections and sections with other labels are
passed over, but a section that is not well formed spoils the file. -/

namespace FrameGateway.Pem

structure Item where
  label : String
  content : Bytes
  deriving DecidableEq

def labels : List String :=
  ["CERTIFICATE", "RSA PRIVATE KEY", "PRIVATE KEY", "EC PRIVATE KEY", "X509 CRL"]

def isBreak (b : UInt8) : Bool := b == 10 || b == 13
def isFiller (b : UInt8) : Bool := isBreak b || b == 32
def dash : UInt8 := 0x2d

def lines (bs : Bytes) : List Bytes :=
  let step (b : UInt8) : List Bytes → List Bytes
    | line :: rest => if isBreak b then [] :: line :: rest else (b :: line) :: rest
    | [] => [[b]]
  bs.foldr step [[]]

def trimEnd (line : Bytes) : Bytes := (line.reverse.dropWhile isFiller).reverse

/-- The label of an opening line, between its dashes: five in front and five behind, with fillers
among them. -/
def opened? (line : Bytes) : Option Bytes :=
  let back := line.reverse.takeWhile fun b => b == dash || isFiller b
  let stop := line.length - back.length + (back.reverse.takeWhile (· != dash)).length
  if back.count dash = 5 then some ((line.take stop).drop 11) else none

/-- A file while it is read: the label of the section, its text so far, and the sections before it. -/
structure State where
  label : Option Bytes := none
  text : Bytes := []
  items : List Item := []

def State.step? (s : State) (line : Bytes) : Option State :=
  if (utf8 "-----BEGIN ").isPrefixOf line then do return { s with label := some (← opened? line) }
  else match s.label with
    | none => some s
    | some label =>
      if (utf8 "-----END " ++ (label ++ utf8 "-----")).isPrefixOf line then do
        let content ← Base64.decode? s.text
        match labels.find? fun l => utf8 l == label with
        | some l => return { s with label := none, text := [], items := s.items ++ [⟨l, content⟩] }
        | none => return { s with label := none, text := [] }
      else some { s with text := s.text ++ trimEnd line }

/-- The sections of a file; `none` if one is not well formed or has no end. -/
def items? (bs : Bytes) : Option (List Item) := do
  let s ← (lines bs).foldlM State.step? {}
  if s.label.isSome then none else return s.items

def contents? (label : String) (bs : Bytes) : Option (List Bytes) :=
  (items? bs).map fun is => (is.filter (·.label == label)).map (·.content)

end FrameGateway.Pem
