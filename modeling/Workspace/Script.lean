/-
# Scripted services

A scripted service answers from a script: a table gives the listings of directories, any number of
times, and every other request takes the next outcome of a queue.  When the queue is used up, the
answer is an empty response with success.

With an empty queue such a service gives a fixed answer for each listed directory.
-/
import Workspace.Http.Message
namespace Workspace

/-- A script: the outcomes of listings by the path that they ask for. -/
structure Script where
  tree : List (String × Http.Outcome)
  deriving DecidableEq, Repr

namespace Script

/-- The answer of a service with nothing to say. -/
def emptyResponse : Http.Outcome := .response ⟨200, [], "", [], none⟩

/-- The outcome that the table holds for a request. -/
def tabled? (s : Script) (r : Http.Request) : Option Http.Outcome :=
  if r.base.endsWith "/workspace/list" then s.tree.lookup ((r.query.lookup "path").getD "")
  else none

/-- The service of a script; its state is the queue. -/
def remote (s : Script) : Http.Remote (List Http.Outcome) := fun r queue =>
  match s.tabled? r with
  | some outcome => (outcome, queue)
  | none =>
    match queue with
    | [] => (emptyResponse, [])
    | outcome :: rest => (outcome, rest)

/-- The length of the body of an outcome. -/
def weight : Http.Outcome → Nat
  | .response r => r.body.length
  | _ => 0

/-- More directories than a walk through the script can visit: each of them is named by a body,
which is at least as long as the count of the entries that it holds. -/
def depthBound (s : Script) (queue : List Http.Outcome) : Nat :=
  (s.tree.map Prod.snd ++ queue).foldr (fun outcome n => weight outcome + n) 2

end Script

end Workspace
