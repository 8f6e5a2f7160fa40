/-! # Findings

A finding reports data of a source that reaches a sink. Two findings with the same source, sink and
description report the same flow. -/

namespace DomFlow

inductive Confidence where
  | high
deriving DecidableEq, Repr, Inhabited

def Confidence.text : Confidence → String
  | .high => "high"

structure Finding where
  source : String
  sink : String
  line : Nat := 0
  confidence : Confidence := .high
  description : String
  evidence : String := ""
deriving DecidableEq, Repr, Inhabited

def sandboxSource : String := "Emulator"

def sandboxSink : String := "Obfuscated Sink"

namespace Finding

def isEmulated (f : Finding) : Bool := f.source == sandboxSource

/-- What two findings of one flow share. -/
def key (f : Finding) : String × String × String := (f.source, f.sink, f.description)

/-- Keeps the findings whose key has not been seen. -/
def dedupFrom : List (String × String × String) → List Finding → List Finding
  | _, [] => []
  | seen, f :: fs =>
    if f.key ∈ seen then dedupFrom seen fs else f :: dedupFrom (f.key :: seen) fs

def deduplicate (fs : List Finding) : List Finding := dedupFrom [] fs

end Finding

end DomFlow
