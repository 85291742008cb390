import StubServer.Draws
import StubServer.Store.Basic

/-!
# Selecting a response

Of the responses of a route those are candidates whose rules all hold. The route's strategy picks
one of them, so a response is selected exactly when there is a candidate.
-/

namespace StubServer

/-- A response and its place among those of its route. -/
structure Selected where
  index : Nat
  response : Config.Response

/-- All rules of the response hold. -/
def Config.Response.passes (r : Config.Response) (input : RuleInput) : Bool :=
  r.rules.all fun rule => rule.holds input

/-- The responses of the route that pass, in their order. -/
def Config.Route.candidates (r : Config.Route) (input : RuleInput) : List Selected :=
  (r.responses.zipIdx.map fun (response, index) => ⟨index, response⟩).filter fun s =>
    s.response.passes input

namespace Store

/-- Counts a selection under a key and gives the number of those before. -/
def advance (key : String) : StateM Store UInt64 := do
  let s ← get
  let position := (s.positions.get? key).getD 0
  set { s with positions := s.positions.insert key (position + 1) }
  return position

/-- Takes the candidates in turn. -/
def nextInSequence (key : String) (candidates : List Selected) :
    StateM Store (Option Selected) := do
  if candidates.isEmpty then return none
  else return candidates[(← advance key).toNat % candidates.length]?

theorem nextInSequence_cons (key : String) (c : Selected) (cs : List Selected) (s : Store) :
    nextInSequence key (c :: cs) s =
      ((c :: cs)[((s.positions.get? key).getD 0).toNat % (c :: cs).length]?,
        { s with positions := s.positions.insert key ((s.positions.get? key).getD 0 + 1) }) := rfl

/-- Draws one of the candidates. -/
def anyOf (candidates : List Selected) : Random (Option Selected) := do
  if candidates.isEmpty then return none
  else return candidates[← Random.below64 candidates.length]?

/-- Selects a response of a route for a request. -/
def select (r : Config.Route) (input : RuleInput) : StateT Store Random (Option Selected) :=
  let candidates := r.candidates input
  match r.strategy with
  | .first => return candidates.head?
  | .random => fun s => do return (← anyOf candidates, s)
  | .sequence => fun s => return nextInSequence r.key candidates s

theorem select_of_first {r : Config.Route} (h : r.strategy = .first) (input : RuleInput)
    (s : Store) (draws : Draws) :
    select r input s draws = some (((r.candidates input).head?, s), draws) := by
  unfold select
  rw [h]
  rfl

theorem select_of_random {r : Config.Route} (h : r.strategy = .random) (input : RuleInput)
    (s : Store) (draws : Draws) :
    select r input s draws =
      (anyOf (r.candidates input) draws).map fun x => ((x.1, s), x.2) := by
  unfold select
  rw [h]
  change (anyOf (r.candidates input) draws).bind _ = _
  cases anyOf (r.candidates input) draws <;> rfl

theorem select_of_sequence {r : Config.Route} (h : r.strategy = .sequence) (input : RuleInput)
    (s : Store) (draws : Draws) :
    select r input s draws = some (nextInSequence r.key (r.candidates input) s, draws) := by
  unfold select
  rw [h]
  rfl

end Store

end StubServer
