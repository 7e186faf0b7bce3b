/-! TOML documents as values, and the way tables come about while one is read. A table is made by
its own header, by a header below it, or by a dotted key; only some of these may be added to. -/

namespace FrameGateway.Toml

inductive Value where
  | string (s : String)
  | integer (i : Int)
  | float
  | boolean (b : Bool)
  | datetime
  | array (items : List Value)
  | table (entries : List (String × Value))
  deriving Inhabited

inductive Origin where
  /-- by its own header, or the document itself -/
  | header
  /-- by a header below it -/
  | implied
  /-- by a dotted key -/
  | dotted
  deriving DecidableEq

inductive Node where
  | value (v : Value)
  | table (origin : Origin) (entries : List (String × Node))
  | tables (items : List (List (String × Node)))
  deriving Inhabited

abbrev Entries := List (String × Node)

/-- Puts a node in the place of the entry of a key, or at the end. -/
def Entries.put (k : String) (n : Node) (es : Entries) : Entries :=
  if (es.lookup k).isSome then es.map fun e => if e.1 = k then (k, n) else e else es ++ [(k, n)]

/-- Works on the table at a path. Missing tables are made on the way; in an array of tables the last
one counts. By a dotted key only tables without a header of their own can be entered. -/
def descend (byKey : Bool) (f : Origin → Entries → Option Entries) :
    List String → Origin → Entries → Option Entries
  | [], o, es => f o es
  | k :: ks, _, es => match es.lookup k with
    | none => do
      let o := if byKey then .dotted else .implied
      return Entries.put k (.table o (← descend byKey f ks o [])) es
    | some (.table o sub) =>
      if byKey && o = .header then none
      else (descend byKey f ks o sub).map fun sub => Entries.put k (.table o sub) es
    | some (.tables ts) => match ts.getLast? with
      | some t => (descend byKey f ks .header t).map fun t => Entries.put k (.tables (ts.dropLast ++ [t])) es
      | none => none
    | some (.value _) => none

/-- Opens the table of a header: a new one, or one that headers below it have implied. -/
def openTable (path : List String) (doc : Entries) : Option Entries :=
  match path.getLast? with
  | none => none
  | some k => descend false (fun _ es => match es.lookup k with
    | none => some (Entries.put k (.table .header []) es)
    | some (.table .implied sub) => some (Entries.put k (.table .header sub) es)
    | _ => none) path.dropLast .header doc

/-- Opens one more table of an array of tables. -/
def openItem (path : List String) (doc : Entries) : Option Entries :=
  match path.getLast? with
  | none => none
  | some k => descend false (fun _ es => match es.lookup k with
    | none => some (Entries.put k (.tables [[]]) es)
    | some (.tables ts) => some (Entries.put k (.tables (ts ++ [[]])) es)
    | _ => none) path.dropLast .header doc

/-- Enters a key of the open table. A dotted key ends in a table that dotted keys made. -/
def assign (key : List String) (v : Value) (o : Origin) (table : Entries) : Option Entries :=
  match key.getLast? with
  | none => none
  | some k => descend true (fun o es =>
    if (decide (o = .dotted)) == key.dropLast.isEmpty then none
    else match es.lookup k with
      | none => some (Entries.put k (.value v) es)
      | some _ => none) key.dropLast o table

def assignAt (path key : List String) (v : Value) (doc : Entries) : Option Entries :=
  descend false (assign key v) path .header doc

mutual
def Node.toValue : Node → Value
  | .value v => v
  | .table _ es => .table (entriesValue es)
  | .tables ts => .array (tablesValue ts)

def entriesValue : List (String × Node) → List (String × Value)
  | [] => []
  | (k, n) :: r => (k, n.toValue) :: entriesValue r

def tablesValue : List (List (String × Node)) → List Value
  | [] => []
  | t :: r => .table (entriesValue t) :: tablesValue r
end

end FrameGateway.Toml
