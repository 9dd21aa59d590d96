import Launchpad.Value.Literal
import Launchpad.Value.Order

/-!
Paths through the states of a managed node. States and transitions have the numbers they have on
the wire.
-/

namespace Launchpad.Lifecycle

def unknownState : Int := 0
def unconfigured : Int := 1
def inactive : Int := 2
def activeState : Int := 3
def finalizedState : Int := 4

def transitions (state : Int) : List (Int × Int) :=
  if state = unconfigured then [(1, inactive), (5, finalizedState)]
  else if state = inactive then [(6, finalizedState), (2, unconfigured), (3, activeState)]
  else if state = activeState then [(4, inactive), (7, finalizedState)]
  else if state = finalizedState then [(8, unknownState)]
  else []

def stateOf : Stage → Int
  | .pristine => unconfigured
  | .configured => inactive
  | .active => activeState
  | .finalized => finalizedState

def stageOf? (state : Int) : Option Stage :=
  Stage.all.find? fun s => stateOf s = state

/-- Breadth-first search: `queue` holds states that were reached with the transitions that led
there, `visited` the states whose transitions were followed. -/
def search (goal : Int) : Nat → List (Int × List Int) → List Int → List Int
  | 0, _, _ => []
  | _ + 1, [], _ => []
  | fuel + 1, (state, path) :: queue, visited =>
    if state = goal then path
    else if state ∈ visited then search goal fuel queue visited
    else
      let visited := state :: visited
      let next := (transitions state).filter fun t => t.2 ∉ visited
      search goal fuel (queue ++ next.map fun t => (t.2, path ++ [t.1])) visited

/-- The fewest transitions that lead from `start` to `goal`, empty when there is no way or none is
needed. Sixteen steps visit every state by every way. -/
def findPath (start goal : Int) : List Int :=
  if start = goal then [] else search goal 16 [(start, [])] []

def findPathOf (start goal : Value) : Try (List Int) :=
  if start.same goal then .ok []
  else if !start.isKey then fails .wrongType
  else match start.whole?, goal.whole? with
    | some a, some z => .ok (findPath a z)
    | _, _ => .ok []

end Launchpad.Lifecycle
