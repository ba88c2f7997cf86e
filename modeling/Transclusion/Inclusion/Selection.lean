import Transclusion.Fragment.Scheme
import Transclusion.Inclusion.Loop
/-!
# Selecting with several schemes

The schemes of a fragment identifier are asked from left to right, and the first that is done and
has selected something has the answer.  Every other one leaves it to the next, to which the bindings
of all schemes so far are passed on.  If an include refers to its own document, selecting a node
that encloses it ends the search at once.
-/

namespace Transclusion

/-- A scheme that fails, or what it selects. -/
def Scheme.attempt (scheme : Scheme) (bindings : List (String × String))
    (context : SelectionContext) (around : Option AncestorSet) :
    Except InclusionError (Except SelectionError Selection) :=
  match scheme.select bindings context with
  | .error e => .ok (.error e)
  | .ok selection => do
    if let some around := around then around.check selection.matched
    return .ok selection

/-- Selects with schemes after others have passed on `bindings`, the last that failed with the
error `failure`. -/
def selectFrom (context : SelectionContext) (around : Option AncestorSet) (fragment : String)
    (bindings : List (String × String)) (failure : Option SelectionError) :
    List Scheme → Except InclusionError (Document × List Nat)
  | [] => .error (.noFragment fragment failure)
  | scheme :: rest => do
    match ← scheme.attempt bindings context around with
    | .error e => selectFrom context around fragment bindings (some e) rest
    | .ok selection =>
      match selection.answer? with
      | some found => return found
      | none => selectFrom context around fragment (bindings ++ selection.bindings) failure rest

/-- Selects with the schemes of the fragment identifier `fragment`: the selected content and the
numbers of the nodes that it was copied from. -/
def selectWith (schemes : List Scheme) (context : SelectionContext) (around : Option AncestorSet)
    (fragment : String) : Except InclusionError (Document × List Nat) :=
  selectFrom context around fragment [] none schemes

end Transclusion
