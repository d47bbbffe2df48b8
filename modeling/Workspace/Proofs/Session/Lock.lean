/-
# The lock in a session

The lock on the creation of directories belongs to the program and not to a client: all clients of a
session share it, and if it were left held, no directory could be created any more.

`Turn.moves` says what one step does to the wire of a session whose lock is free.  The wire is moved
by the requests of the step, and they show the lock held if the step creates directories, and free
if not.  So the lock is free after every step (`lockHeld_after`).  It does not matter how the step
ended: a turn holds a reply or a failure, and `Turn.moves` speaks about all of them.

`Session.lock_held_iff` says what this comes to over all sessions.
-/
import Workspace.Proofs.Frame
import Workspace.Proofs.Session.Turn
import Workspace.Script
namespace Workspace

variable {σ : Type}

/-! ## 1. Steps that create directories -/

namespace Step

/-- Does the step create directories?  A query for the same path of the interface does not count:
it does not take the lock. -/
def createsDirectories : Step → Bool
  | .makeDirectories _ => true
  | _ => false

theorem createsDirectories_iff {st : Step} :
    st.createsDirectories = true ↔ ∃ path, st = .makeDirectories path := by
  cases st <;> simp [createsDirectories]

/-- **The operation of a step** finds the lock free, and shows it held if it creates directories. -/
theorem frame_operation {st : Step} {operation : Connection σ → Action (Wire σ) Reply}
    (h : st.operation? σ = some (.ok operation)) (c : Connection σ) :
    Action.Frame c.remote false st.createsDirectories (operation c) := by
  cases performs_of_operation? h with
  | urlFor path version => exact .pure _
  | query method path version fields => exact .map _ (.query _ _ _ _ _)
  | create path content l f overwrite => exact .bind (c.frame_create _) fun _ => .pure _
  | read path => exact .map _ (c.frame_read path)
  | exportContent path f => exact .map _ (c.frame_exportContent path f)
  | makeDirectories path => exact .bind (c.frame_makeDirectories path) fun _ => .pure _
  | delete path recursive => exact .bind (c.frame_delete _) fun _ => .pure _
  | list path recursive => exact .map _ (c.frame_list path recursive)

end Step

namespace Session

variable {remote : Http.Remote σ} {maxDepth : Nat} {st : Step} {s : Session σ}
  {r : Run (Session σ) Reply}

/-! ## 2. Turns -/

/-- **What a turn does to the wire**, if the lock is free before. -/
theorem Turn.moves (h : Turn remote maxDepth s st r) (hs : s.wire.lockHeld = false) :
    Wire.Moves remote st.core.createsDirectories s.wire r.requests r.world.wire := by
  -- only operations send, and all but the creation of directories leave the lock as it is
  induction h with
  | environment env => exact .refl _
  | built hc => exact .refl _
  | unbuilt hc => exact .refl _
  | reused hn hc => exact .refl _
  | shared hu hc => exact .refl _
  | unshared hu hc => exact .refl _
  | chosen hc => exact .refl _
  | missing hc => exact .refl _
  | forgotten =>
    have hwire : (forgetShared s).wire = s.wire := closeClient?_wire s.shared s
    rw [hwire]
    exact .refl _
  | closed =>
    rw [closeClient?_wire]
    exact .refl _
  | inScope _ ih =>
    rw [closeClient?_wire]
    exact ih
  | refused hst => exact .refl _
  | idle hst hc => exact .refl _
  | @operated st operation client hst hc =>
    rw [Step.core_of_operation? hst]
    exact Step.frame_operation hst ⟨remote, client, maxDepth⟩ s.wire hs

/-- **The lock is free** after any steps from the start. -/
theorem lockHeld_after (remote : Http.Remote σ) (maxDepth : Nat) (steps : List Step)
    (env : Environment) (service : σ) :
    (after remote maxDepth steps (start env service)).wire.lockHeld = false :=
  after_induction (p := fun s => s.wire.lockHeld = false)
    (fun st _ s hs => ((turn_step remote maxDepth st s).moves hs).lockHeld.trans hs) rfl

/-! ## 3. Every request -/

/-- **The lock is held for the creation of directories, and for nothing else.**  Let some steps be
taken in turn from the start.  A request that is sent on the way shows the lock held if and only if
its step, out of the scopes around it, creates directories; and after every step, however it ended,
the lock is free. -/
theorem lock_held_iff (remote : Http.Remote σ) (maxDepth : Nat) (env : Environment) (service : σ)
    (steps : List Step) {i : Nat} {st : Step} {turn : Run (Session σ) Reply}
    (hst : steps[i]? = some st)
    (hturn : (run remote maxDepth steps (start env service))[i]? = some turn) :
    (∀ r ∈ turn.requests, r.locked = true ↔ ∃ path, st.core = .makeDirectories path) ∧
      turn.world.wire.lockHeld = false := by
  have hfree := lockHeld_after remote maxDepth (steps.take i) env service
  rw [getElem?_run, hst] at hturn
  obtain rfl := Option.some.inj hturn
  have hmoves := (turn_step remote maxDepth st
    (after remote maxDepth (steps.take i) (start env service))).moves hfree
  refine ⟨fun r hr => ?_, hmoves.lockHeld.trans hfree⟩
  rw [hmoves.locked r hr, Step.createsDirectories_iff]

namespace Gate

/-- An environment from which a client can be built. -/
def env : Environment := ⟨some "example.com", some "tok", none⟩

/-- A service that answers from a queue. -/
def service : Http.Remote (List Http.Outcome) := (Script.mk []).remote

/-- The first request is turned away. -/
def queue : List Http.Outcome := [.response ⟨503, [], "", [], none⟩]

/-- A directory is created, asked for by a query, and created in a scope. -/
def steps : List Step :=
  [.useShared, .makeDirectories "/a",
    .query "POST" "/workspace/mkdirs" apiVersion [("path", .string "/a")],
    .scoped (.makeDirectories "/a")]

/-- The steps in turn. -/
def turns : List (Run (Session (List Http.Outcome)) Reply) := run service 9 steps (start env queue)

theorem exists_request {i : Nat} (h : turns[i]?.map (fun turn => turn.requests.length) = some 1) :
    ∃ turn r, turns[i]? = some turn ∧ turn.requests = [r] := by
  obtain ⟨turn, hturn, hlength⟩ := Option.map_eq_some_iff.mp h
  obtain ⟨r, hr⟩ := List.length_eq_one_iff.mp hlength
  exact ⟨turn, r, hturn, hr⟩

end Gate

/-- The creation that is turned away shows the lock held and leaves it free, and so does the one in
the scope.  The query between the two shows it free. -/
theorem lock_held_iff_gate :
    (Gate.turns[1]?.any fun turn => turn.result.toOption.isNone) = true ∧
      (∃ turn r, Gate.turns[1]? = some turn ∧ turn.requests = [r] ∧ r.locked = true ∧
        turn.world.wire.lockHeld = false) ∧
      (∃ turn r, Gate.turns[2]? = some turn ∧ turn.requests = [r] ∧ ¬ r.locked = true) ∧
      (∃ turn r, Gate.turns[3]? = some turn ∧ turn.requests = [r] ∧ r.locked = true ∧
        turn.world.wire.lockHeld = false) := by
  have hlock {i : Nat} {st : Step} (hst : Gate.steps[i]? = some st)
      {turn : Run (Session (List Http.Outcome)) Reply} (hturn : Gate.turns[i]? = some turn) :=
    lock_held_iff Gate.service 9 Gate.env Gate.queue Gate.steps hst hturn
  refine ⟨by decide +kernel, ?_, ?_, ?_⟩
  · obtain ⟨turn, r, hturn, hr⟩ := Gate.exists_request (i := 1) (by decide +kernel)
    obtain ⟨hlocked, hfree⟩ := hlock rfl hturn
    exact ⟨turn, r, hturn, hr, (hlocked r (by simp [hr])).mpr ⟨_, rfl⟩, hfree⟩
  · obtain ⟨turn, r, hturn, hr⟩ := Gate.exists_request (i := 2) (by decide +kernel)
    obtain ⟨hlocked, -⟩ := hlock rfl hturn
    refine ⟨turn, r, hturn, hr, fun h => ?_⟩
    obtain ⟨path, hpath⟩ := (hlocked r (by simp [hr])).mp h
    cases hpath
  · obtain ⟨turn, r, hturn, hr⟩ := Gate.exists_request (i := 3) (by decide +kernel)
    obtain ⟨hlocked, hfree⟩ := hlock rfl hturn
    exact ⟨turn, r, hturn, hr, (hlocked r (by simp [hr])).mpr ⟨_, rfl⟩, hfree⟩

end Session

end Workspace
