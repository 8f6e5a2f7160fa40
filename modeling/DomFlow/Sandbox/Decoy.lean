import DomFlow.Finding

/-! # Decoys

The sandbox gives a script a made-up location. Its parts are decoys: texts that no script makes up by
itself, so that one which reaches a sink shows a flow of data. -/

namespace DomFlow

namespace Decoy

def fragment : String := "#payload"

def query : String := "?q=payload"

def address : String := "https://victim.example/?q=payload#payload"

def markers : List String := [fragment, query, address]

end Decoy

/-- Whether a text is, as a whole, one of the decoys. -/
def isDecoy (text : String) : Bool := text ∈ Decoy.markers

/-- The finding that a decoy reached a sink of the sandbox. -/
def Finding.ofDecoy (sink text : String) : Finding :=
  { source := sandboxSource
    sink := sandboxSink
    description := "Decoy location value reached " ++ sink ++ " during sandboxed execution"
    evidence := text }

end DomFlow
