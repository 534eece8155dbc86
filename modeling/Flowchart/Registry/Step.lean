import Flowchart.Registry

/-!
# Sessions with a registry

A session drives one registry through a list of steps and collects one reply per step. Steps
that ask about the registry see it as the earlier steps left it, and a reply that shows nodes
shows them as they are at that step.
-/

namespace Flowchart

namespace Registry

/-- One request to a registry. -/
inductive Step where
  | getOrCreate (id : String) (draft : Draft)
  | record (connection : Connection)
  | get (id : String)
  | contains (id : String)
  | size
  | nodes
  | connections
  deriving DecidableEq, Repr

/-- The reply to one step. -/
inductive Reply where
  | node (n : Node)
  | lookup (n : Option Node)
  | recorded (c : Connection)
  | rejected (e : RecordError)
  | contains (b : Bool)
  | size (n : Nat)
  | nodes (ns : List Node)
  | connections (cs : List Connection)
  deriving DecidableEq, Repr

/-- Answers one step and gives the registry after it. -/
def step (layout : Layout) (r : Registry) : Step → Reply × Registry
  | .getOrCreate id d =>
    let (n, r') := r.getOrCreate layout id d
    (.node n, r')
  | .record c =>
    match r.record c with
    | .ok r' => (.recorded c, r')
    | .error e => (.rejected e, r)
  | .get id => (.lookup (r.get? id), r)
  | .contains id => (.contains (r.contains id), r)
  | .size => (.size r.size, r)
  | .nodes => (.nodes r.nodes, r)
  | .connections => (.connections r.connections, r)

/-- The registry after a list of steps. -/
def afterAll (layout : Layout) (r : Registry) (steps : List Step) : Registry :=
  steps.foldl (fun r s => (r.step layout s).2) r

/-- The replies to a list of steps, each step seeing the registry the earlier ones left. -/
def replies (layout : Layout) : Registry → List Step → List Reply
  | _, [] => []
  | r, s :: ss =>
    let (a, r') := r.step layout s
    a :: replies layout r' ss

end Registry

end Flowchart
