import MemoryLease.Session.Holds
import MemoryLease.Session.Values

/-!
# Runs of a session

One step is carried out at a time.  A step that fails gives its name to nothing, and one that does
not fit what its names stand for changes nothing.  When the session is closed, every pointer and
view that is still there gives back what it holds, in the order of the names.
-/

namespace MemoryLease
namespace Session

/-- The name that a step gives to something new. -/
def Step.newName? : Step → Option String
  | .create name _ | .derive name _ _ | .clone name _ | .acquire name _ _ => some name
  | _ => none

/-- One step.  A new name has to be one that stands for nothing. -/
def step (s : Session) (t : Step) : Turn :=
  if t.newName?.any s.isTaken then s.replying .invalid
  else
    match t with
    | .create name creation => s.create name creation
    | .derive name source derivation => s.derive name source derivation
    | .clone name source => s.clone name source
    | .call name c => s.call name c
    | .acquire name source request => s.acquire name source request
    | .use name usage => s.use name usage
    | .drop name => s.drop name

/-- The session after a list of steps. -/
def after (s : Session) (steps : List Step) : Session :=
  steps.foldl (fun s t => (s.step t).session) s

/-- The turns of a list of steps. -/
def turns (s : Session) : List Step → List Turn
  | [] => []
  | t :: ts => s.step t :: (s.step t).session.turns ts

/-- The names of the pointers and views, in order. -/
def heldNames (s : Session) : List String :=
  s.holds.names.mergeSort fun a b => a ≤ b

/-- Names are let go of one after the other. -/
def dropAll (s : Session) : List String → Session × List Event
  | [] => (s, [])
  | name :: names =>
    let turn := s.drop name
    let (last, events) := turn.session.dropAll names
    (last, turn.events ++ events)

/-- The end of a session: everything held is given back, in the order of the names. -/
def close (s : Session) : Session × List Event := s.dropAll s.heldNames

/-- The outstanding views of each named source. -/
def outstanding (s : Session) : List (String × Outstanding) :=
  s.values.filterMap fun (name, v) =>
    match v with
    | .source (.buffer b) => some (name, .owned (s.store.memory b.memory).outstandingViews)
    | .source (.tensor t) => some (name, .owned (s.store.memory t.memory).outstandingViews)
    | .source (.foreign id) =>
      let f := s.store.foreign id
      some (name, .foreign f.granted f.returned.length)
    | .plain _ => none

end Session
end MemoryLease
