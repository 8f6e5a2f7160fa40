import DomFlow.Toml.Scalar

/-! # Documents of TOML

A document is read line by line into a tree of tables. A table can be made in three ways, and which keys
may extend it later depends on how it was made: by a header, on the way of a header to a deeper table, or by
a key with dots. -/

namespace DomFlow.Toml

inductive Origin where
  | header
  /-- On the way of a header to a deeper table. -/
  | implied
  /-- By a key with dots. -/
  | dotted
deriving DecidableEq, Repr, Inhabited

inductive Node where
  | value (v : Value)
  | table (origin : Origin) (entries : List (String × Node))
  /-- An array of tables, each with a header, the last one first. -/
  | tables (items : List (List (String × Node)))
deriving Inhabited

abbrev Entries := List (String × Node)

/-- Changes the table that a path leads to, making tables on the way; the function is told how the table
was made. -/
def Entries.descend (dotted : Bool) (f : Origin → Entries → Option Entries) :
    List String → Origin → Entries → Option Entries
  | [], origin, es => f origin es
  | k :: ks, _, es =>
    match es.lookup k with
    | none => do
      let origin : Origin := if dotted then .dotted else .implied
      return Assoc.set k (.table origin (← Entries.descend dotted f ks origin [])) es
    | some (.value _) => none
    | some (.tables []) => none
    | some (.tables (last :: before)) => do
      return Assoc.set k (.tables ((← Entries.descend dotted f ks .header last) :: before)) es
    | some (.table origin sub) =>
      if dotted && origin == .header then none
      else do return Assoc.set k (.table origin (← Entries.descend dotted f ks origin sub)) es

/-- Adds a value under a key with dots: its path must lead to a table made by such keys, and the last part
must be new. -/
def Entries.add (path : List String) (key : String) (v : Value) (es : Entries) : Option Entries :=
  es.descend true (fun origin es =>
    if (origin == .dotted) == path.isEmpty || (es.lookup key).isSome then none
    else some (Assoc.set key (.value v) es)) path .header

def Entries.startTable (path : List String) (key : String) (es : Entries) : Option Entries :=
  es.descend false (fun _ es => match es.lookup key with
    | none => some (Assoc.set key (.table .header []) es)
    | some (.table .implied sub) => some (Assoc.set key (.table .header sub) es)
    | some _ => none) path .header

def Entries.startItem (path : List String) (key : String) (es : Entries) : Option Entries :=
  es.descend false (fun _ es => match es.lookup key with
    | none => some (Assoc.set key (.tables [[]]) es)
    | some (.tables items) => some (Assoc.set key (.tables ([] :: items)) es)
    | some _ => none) path .header

mutual

def Node.toValue : Node → Value
  | .value v => v
  | .table _ es => .table (Node.tableOf es)
  | .tables items => .array (Node.itemsOf items).reverse

def Node.tableOf : List (String × Node) → List (String × Value)
  | [] => []
  | (k, n) :: r => (k, n.toValue) :: Node.tableOf r

/-- The tables of an array, in the order of the list. -/
def Node.itemsOf : List (List (String × Node)) → List Value
  | [] => []
  | es :: r => .table (Node.tableOf es) :: Node.itemsOf r

end

def isBareChar (c : Char) : Bool := c.isAlphanum || c == '_' || c == '-'

def keyPart (cs : List Char) : Option (String × List Char) :=
  match cs with
  | '\x22' :: r => basicString (r.length + 1) [] r
  | '\x27' :: r => literalString r
  | _ =>
    let bare := cs.takeWhile isBareChar
    if bare.isEmpty then none else some (String.ofList bare, cs.dropWhile isBareChar)

/-- The parts of a key, with blanks around them; `fuel` bounds their number. -/
def keyParts : Nat → Reader (List String)
  | 0, _ => none
  | fuel + 1, cs => do
    let (part, r) ← keyPart (skipBlanks cs)
    match skipBlanks r with
    | '.' :: r' =>
      let (parts, r) ← keyParts fuel r'
      return (part :: parts, r)
    | r => return ([part], r)

def depthBound : Nat := 80

/-- A key: the path to its table, and its last part. -/
def key (cs : List Char) : Option ((List String × String) × List Char) := do
  let (parts, r) ← keyParts cs.length cs
  guard (parts.length < depthBound)
  return ((parts.dropLast, parts.getLast?.getD ""), r)

/-- What follows a comment, up to the end of its line. -/
def afterComment? (cs : List Char) : Option (List Char) :=
  match cs with
  | '#' :: r =>
    let rest := r.dropWhile isTextChar
    if rest.isEmpty || (newline? rest).isSome then some rest else none
  | _ => some cs

/-- Skips blanks, ends of lines and comments between the items of an array. -/
def skipSpace : Nat → List Char → Option (List Char)
  | 0, _ => none
  | fuel + 1, cs =>
    match skipBlanks cs with
    | [] => some []
    | c :: r =>
      if c == '#' then match afterComment? (c :: r) with
        | some r' => skipSpace fuel r'
        | none => none
      else match newline? (c :: r) with
        | some r' => skipSpace fuel r'
        | none => some (c :: r)

mutual

/-- A value inside `depth` others; `fuel` bounds the number of parts. -/
def valueAt : Nat → Nat → Reader Value
  | 0, _, _ => none
  | fuel + 1, depth, cs =>
    match cs with
    | '[' :: r =>
      if depth + 1 < depthBound then (itemsAt fuel (depth + 1) r).map fun (vs, r) => (.array vs, r) else none
    | '\x7b' :: r =>
      if depth + 1 < depthBound then
        match skipBlanks r with
        | '\x7d' :: r' => some (.table [], r')
        | r' => (pairsAt fuel (depth + 1) [] r').map fun (es, r) => (.table (Node.tableOf es), r)
      else none
    | _ => scalar cs

/-- The items of an array up to its closing bracket. -/
def itemsAt : Nat → Nat → Reader (List Value)
  | 0, _, _ => none
  | fuel + 1, depth, cs => do
    match ← skipSpace (cs.length + 1) cs with
    | ']' :: r => return ([], r)
    | r =>
      let (v, r) ← valueAt fuel depth r
      match ← skipSpace (r.length + 1) r with
      | ',' :: r =>
        let (vs, r) ← itemsAt fuel depth r
        return (v :: vs, r)
      | ']' :: r => return ([v], r)
      | _ => none

/-- The pairs of an inline table up to its closing brace, added to those before. -/
def pairsAt : Nat → Nat → Entries → Reader Entries
  | 0, _, _, _ => none
  | fuel + 1, depth, es, cs => do
    let ((path, last), r) ← key cs
    let (v, r) ← valueAt fuel depth (skipBlanks (← mark '=' r))
    let es ← es.add path last v
    match skipBlanks r with
    | ',' :: r => pairsAt fuel depth es r
    | '\x7d' :: r => return (es, r)
    | _ => none

end

/-- What follows the end of a line, after blanks and a comment. -/
def afterLine? (cs : List Char) : Option (List Char) := do
  match ← afterComment? (skipBlanks cs) with
  | [] => return []
  | r => newline? r

/-- A document as far as it is read: its tables, and the path of the last header. -/
structure Draft where
  entries : Entries := []
  current : List String := []
deriving Inhabited

/-- Adds a value to the table of the last header. -/
def Draft.add (d : Draft) (path : List String) (last : String) (v : Value) : Option Draft := do
  let es ← d.entries.descend false (fun _ es => es.add path last v) d.current .header
  return { d with entries := es }

def Draft.header (d : Draft) (cs : List Char) : Option (Draft × List Char) := do
  match cs with
  | '[' :: r =>
    let ((path, last), r) ← key r
    let r ← mark ']' (← mark ']' r)
    return ({ entries := ← d.entries.startItem path last, current := path ++ [last] }, r)
  | _ =>
    let ((path, last), r) ← key cs
    let r ← mark ']' r
    return ({ entries := ← d.entries.startTable path last, current := path ++ [last] }, r)

def Draft.pair (d : Draft) (cs : List Char) : Option (Draft × List Char) := do
  let ((path, last), r) ← key cs
  let (v, r) ← valueAt (cs.length + 1) 0 (skipBlanks (← mark '=' r))
  return (← d.add path last v, r)

/-- Reads lines; `fuel` bounds their number. -/
def Draft.lines : Nat → Draft → List Char → Option Draft
  | 0, _, _ => none
  | fuel + 1, d, cs => do
    match skipBlanks cs with
    | [] => return d
    | c :: r =>
      if c == '#' || c == '\n' || c == '\r' then Draft.lines fuel d (← afterLine? (c :: r))
      else
        let (d, r) ← if c == '[' then d.header r else d.pair (c :: r)
        Draft.lines fuel d (← afterLine? r)

/-- The table that a text denotes, if it is a document; a byte order mark may stand in front. -/
def parse? (text : String) : Option Table :=
  let cs := match text.toList with
    | '\ufeff' :: r => r
    | cs => cs
  (Draft.lines (cs.length + 1) {} cs).map fun d => Node.tableOf d.entries

end DomFlow.Toml
