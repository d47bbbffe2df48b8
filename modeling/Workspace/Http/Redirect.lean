/-
# Redirections

Redirections are not followed: the response that sends on is the end of the exchange, and it has
no success.  Its target is looked at all the same, and a target that is no URL counts as a failed
connection.

`Outcome.checked` looks at a target, if there is one; every other outcome stays as it is
(`checked_of_location?_eq_none`).
-/
import Workspace.Http.Message
import Workspace.Http.Target
namespace Workspace.Http

/-- The statuses that send on. -/
def redirectStatuses : List Int := [301, 302, 303, 307, 308]

/-- The target that a response sends on to. -/
def Response.location? (r : Response) : Option String :=
  if redirectStatuses.contains r.status then r.header? "location" else none

namespace Outcome

/-- The outcome for a response with the given target. -/
def ofTarget (r : Response) (location : String) : Outcome :=
  match Target.ofString location with
  | .error fault => .disconnected s!"Invalid URL in location header: {fault.message}."
  | .ok target => if target.isCompletable then .response r else .misdirected

/-- The outcome after a look at the target of a redirection. -/
def checked (outcome : Outcome) : Outcome :=
  match outcome with
  | .response r =>
    match r.location? with
    | some location => ofTarget r location
    | none => outcome
  | _ => outcome

theorem checked_of_location?_eq_none {r : Response} (h : r.location? = none) :
    (response r).checked = response r := by
  simp [checked, h]

end Outcome

end Workspace.Http
