import DomFlow.Sandbox.Builtin.Object

/-! # Values as JSON text

Reading makes ordinary objects and arrays; writing follows an object's own methods for it. -/

namespace DomFlow.Sandbox.Builtin

open Text (CodeUnits)

namespace Json

def malformed {α : Type} : Eval α := fail .syntaxError "invalid JSON"

def skipBlanks : List UInt16 → List UInt16
  | c :: r => if c == 32 || c == 9 || c == 10 || c == 13 then skipBlanks r else c :: r
  | [] => []

private def isDigit (c : UInt16) : Bool := 48 ≤ c && c ≤ 57

private def hexUnit? (c : UInt16) : Option Nat := Text.hexDigit? (Char.ofNat c.toNat)

/-- The text up to the closing quote, and what follows it. -/
def readText : List UInt16 → Array UInt16 → Option (CodeUnits × List UInt16)
  | [], _ => none
  | 34 :: r, acc => some (⟨acc⟩, r)
  | 92 :: 117 :: a :: b :: c :: d :: r, acc =>
    match hexUnit? a, hexUnit? b, hexUnit? c, hexUnit? d with
    | some w, some x, some y, some z => readText r (acc.push (((w * 16 + x) * 16 + y) * 16 + z).toUInt16)
    | _, _, _, _ => none
  | 92 :: c :: r, acc =>
    let plain : Option UInt16 :=
      if c == 34 || c == 92 || c == 47 then some c
      else if c == 98 then some 8
      else if c == 102 then some 12
      else if c == 110 then some 10
      else if c == 114 then some 13
      else if c == 116 then some 9
      else none
    match plain with
    | some u => readText r (acc.push u)
    | none => none
  | c :: r, acc => if c < 32 then none else readText r (acc.push c)

def readNumber? (cs : List UInt16) : Option (Float × List UInt16) :=
  let (sign, r) : List UInt16 × List UInt16 := match cs with
    | 45 :: r => ([45], r)
    | r => ([], r)
  let whole := r.takeWhile isDigit
  let r := r.dropWhile isDigit
  if whole.isEmpty || (whole.length > 1 && whole.head? == some 48) then none
  else
    let fraction : Option (List UInt16 × List UInt16) := match r with
      | 46 :: r' =>
        let ds := r'.takeWhile isDigit
        if ds.isEmpty then none else some (46 :: ds, r'.dropWhile isDigit)
      | _ => some ([], r)
    fraction.bind fun (f, r) =>
      let exponent : Option (List UInt16 × List UInt16) := match r with
        | e :: r' =>
          if e == 101 || e == 69 then
            let (s, r'') : List UInt16 × List UInt16 := match r' with
              | 43 :: t => ([43], t)
              | 45 :: t => ([45], t)
              | t => ([], t)
            let ds := r''.takeWhile isDigit
            if ds.isEmpty then none else some (101 :: s ++ ds, r''.dropWhile isDigit)
          else some ([], r)
        | [] => some ([], r)
      exponent.map fun (e, r) => (Numeral.ofText ⟨(sign ++ whole ++ f ++ e).toArray⟩, r)

/-- What follows a word at the front of a text. -/
def afterWord? (word : String) (cs : List UInt16) : Option (List UInt16) :=
  let w := (CodeUnits.ofString word).data.toList
  if cs.take w.length == w then some (cs.drop w.length) else none

mutual

/-- Reads a value; `fuel` bounds the size of the text. -/
def readValue : Nat → List UInt16 → Eval (Val × List UInt16)
  | 0, _ => malformed
  | fuel + 1, cs =>
    match skipBlanks cs with
    | 34 :: r => match readText r #[] with
      | some (s, r') => return (.str s, r')
      | none => malformed
    | 91 :: r => match skipBlanks r with
      | 93 :: r' => do return (← newArray [], r')
      | r' => do
        let (vs, r'') ← readItems fuel r'
        return (← newArray vs, r'')
    | 123 :: r => match skipBlanks r with
      | 125 :: r' => do return (.obj (← newPlain), r')
      | r' => do
        let id ← newPlain
        let r'' ← readFields fuel id r'
        return (.obj id, r'')
    | cs' =>
      match afterWord? "true" cs', afterWord? "false" cs', afterWord? "null" cs' with
      | some r, _, _ => return (.bool true, r)
      | _, some r, _ => return (.bool false, r)
      | _, _, some r => return (.null, r)
      | _, _, _ => match readNumber? cs' with
        | some (x, r) => return (.num x, r)
        | none => malformed

def readItems : Nat → List UInt16 → Eval (List Val × List UInt16)
  | 0, _ => malformed
  | fuel + 1, cs => do
    let (v, r) ← readValue fuel cs
    match skipBlanks r with
    | 93 :: r' => return ([v], r')
    | 44 :: r' =>
      let (vs, r'') ← readItems fuel r'
      return (v :: vs, r'')
    | _ => malformed

def readFields : Nat → ObjId → List UInt16 → Eval (List UInt16)
  | 0, _, _ => malformed
  | fuel + 1, id, cs => do
    match skipBlanks cs with
    | 34 :: r => match readText r #[] with
      | some (k, r') => match skipBlanks r' with
        | 58 :: r'' =>
          let (v, rest) ← readValue fuel r''
          createOrFail id k v
          match skipBlanks rest with
          | 125 :: rest' => return rest'
          | 44 :: rest' => readFields fuel id rest'
          | _ => malformed
        | _ => malformed
      | none => malformed
    | _ => malformed

end

/-- Lets a function look at every value, inner ones first; `depth` bounds the nesting. -/
def revive (f : Val) : Nat → ObjId → PropKey → Run Val
  | 0, _, _ => malformed
  | depth + 1, holder, k => do
    let v ← getProp holder k
    match v with
    | .obj id =>
      let keys ← match (← getObj id).kind with
        | .array _ length => pure ((List.range length).map PropKey.ofNat)
        | _ => do pure ((← enumerableTexts id).map PropKey.str)
      for key in keys do
        match ← revive f depth id key with
        | .undefined => discard (remove id key)
        | new => discard (createField id key new)
    | _ => pure ()
    call f (.obj holder) [k.value, v]

def parse (text : CodeUnits) : Eval Val := do
  let cs := text.data.toList
  let (v, r) ← readValue (2 * cs.length + 4) cs
  unless (skipBlanks r).isEmpty do malformed
  return v

private def hex4 (n : Nat) : String :=
  let ds := Nat.toDigits 16 n
  String.ofList (List.replicate (4 - ds.length) '0' ++ ds)

def quoteUnit (u : UInt16) : CodeUnits :=
  if u == 34 then "\\\x22"
  else if u == 92 then "\\\\"
  else if u == 8 then "\\b"
  else if u == 12 then "\\f"
  else if u == 10 then "\\n"
  else if u == 13 then "\\r"
  else if u == 9 then "\\t"
  else if u < 32 then "\\u" ++ hex4 u.toNat
  else ⟨#[u]⟩

/-- The units of a text inside quotes; halves without a partner are escaped. -/
def quoteUnits : List UInt16 → Array UInt16 → Array UInt16
  | [], acc => acc
  | [u], acc =>
    if CodeUnits.isHighHalf u || CodeUnits.isLowHalf u then acc ++ (CodeUnits.ofString ("\\u" ++ hex4 u.toNat)).data
    else acc ++ (quoteUnit u).data
  | u :: v :: r, acc =>
    if CodeUnits.isHighHalf u && CodeUnits.isLowHalf v then quoteUnits r ((acc.push u).push v)
    else if CodeUnits.isHighHalf u || CodeUnits.isLowHalf u then
      quoteUnits (v :: r) (acc ++ (CodeUnits.ofString ("\\u" ++ hex4 u.toNat)).data)
    else quoteUnits (v :: r) (acc ++ (quoteUnit u).data)

def quote (s : CodeUnits) : CodeUnits := ⟨(quoteUnits s.data.toList #[34]).push 34⟩

/-- What decides the text: a function or a list of keys, and the indentation. -/
structure Style where
  replacer : Val
  keys : Option (List CodeUnits)
  gap : CodeUnits

/-- Members between brackets, on lines of their own if there is an indentation. -/
def enclose (style : Style) (opening closing indent : CodeUnits) (members : List CodeUnits) : CodeUnits :=
  if members.isEmpty then opening ++ closing
  else if style.gap.isEmpty then opening ++ CodeUnits.join "," members ++ closing
  else
    let inner := indent ++ style.gap
    opening ++ "\n" ++ inner ++ CodeUnits.join (CodeUnits.ofString ",\n" ++ inner) members ++ "\n" ++ indent ++ closing

/-- The text of a value under a key, or nothing if it has none; `depth` bounds the nesting. -/
def write (style : Style) : Nat → List ObjId → CodeUnits → ObjId → PropKey → Run (Option CodeUnits)
  | 0, _, _, _, _ => typeFault "cyclic object value"
  | depth + 1, open_, indent, holder, k => do
    tick
    let mut v ← getProp holder k
    match v with
    | .obj _ | .bigint _ =>
      let f ← getOf v "toJSON"
      if ← isCallable f then v ← call f v [k.value]
    | _ => pure ()
    unless style.replacer.isUndefined do v ← call style.replacer (.obj holder) [k.value, v]
    match v with
    | .obj id => match (← getObj id).kind with
      | .boxed (.num _) => v := .num (← toNumber v)
      | .boxed (.str _) => v := .str (← toText v)
      | .boxed (.bool b) => v := .bool b
      | .boxed (.bigint n) => v := .bigint n
      | _ => pure ()
    | _ => pure ()
    match v with
    | .null => return some "null"
    | .bool b => return some (if b then "true" else "false")
    | .str s => return some (quote s)
    | .num x => return some (if x.isNaN || x.isInf then "null" else Text.numberText x)
    | .bigint _ => typeFault "BigInt values have no JSON text"
    | .obj id =>
      if ← isCallable v then return none
      if open_.contains id then typeFault "cyclic object value"
      let inner := indent ++ style.gap
      match (← getObj id).kind with
      | .array .. =>
        let mut parts : Array CodeUnits := #[]
        for n in [0:← lengthOf id] do
          let t ← write style depth (id :: open_) inner id (.ofNat n)
          parts := parts.push (t.getD "null")
        return some (enclose style "[" "]" indent parts.toList)
      | _ =>
        let mut parts : Array CodeUnits := #[]
        for key in style.keys.getD (← enumerableTexts id) do
          match ← write style depth (id :: open_) inner id key with
          | some t =>
            let colon : CodeUnits := if style.gap.isEmpty then ":" else ": "
            parts := parts.push (quote key ++ colon ++ t)
          | none => pure ()
        return some (enclose style "\x7b" "\x7d" indent parts.toList)
    | .undefined | .symbol _ => return none

def gapOf (v : Val) : Run CodeUnits := do
  let v ← match v with
    | .obj id => match (← getObj id).kind with
      | .boxed (.num _) => Val.num <$> toNumber v
      | .boxed (.str _) => Val.str <$> toText v
      | _ => pure v
    | _ => pure v
  match v with
  | .num x => return ⟨Array.replicate (Numeral.clamp x 10) 32⟩
  | .str s => return s.slice 0 10
  | _ => return CodeUnits.empty

def allowedKeys (v : Val) : Run (Option (List CodeUnits)) := do
  match v with
  | .obj id => match (← getObj id).kind with
    | .array .. =>
      let mut keys : List CodeUnits := []
      for x in ← argumentList v do
        let key ← match x with
          | .str s => pure (some s)
          | .num _ => some <$> toText x
          | .obj inner => match (← getObj inner).kind with
            | .boxed (.str _) | .boxed (.num _) => some <$> toText x
            | _ => pure none
          | _ => pure none
        match key with
        | some s => unless keys.contains s do keys := keys ++ [s]
        | none => pure ()
      return some keys
    | _ => return none
  | _ => return none

end Json

def jsonStatics : Array Method := #[
  { key := "parse", arity := 2, run := fun i => do
      let v ← Json.parse (← toText (i.arg 0))
      if ← isCallable (i.arg 1) then
        let holder ← newPlain
        createOrFail holder "" v
        Json.revive (i.arg 1) 500 holder ""
      else return v },
  { key := "stringify", arity := 3, run := fun i => do
      let callable ← isCallable (i.arg 1)
      let style : Json.Style :=
        { replacer := if callable then i.arg 1 else .undefined
          keys := ← (if callable then pure none else Json.allowedKeys (i.arg 1))
          gap := ← Json.gapOf (i.arg 2) }
      let holder ← newPlain
      createOrFail holder "" (i.arg 0)
      match ← Json.write style 500 [] CodeUnits.empty holder "" with
      | some s => return .str s
      | none => return .undefined }]

end DomFlow.Sandbox.Builtin
