/-
# Operations leave no trace

An operation asks the service for something, and that is all: the environment, the clients, which of
them is shared, which is in use, and the lock are afterwards as they were before, whether the
operation returned or failed on the way, be it in the middle of a walk (`Turn.world_eq`).

The service may remember what it was asked.  A scripted one remembers no more than how much of its
queue is used up, so an operation that its table answers could as well be left out
(`Session.operations_leave_no_trace`).
-/
import Workspace.Proofs.Session.Lock
import Workspace.Proofs.Walk.Service
namespace Workspace

variable {σ : Type}

theorem Wire.Moves.eq {remote : Http.Remote σ} {shown : Bool} {w w' : Wire σ}
    {requests : List Http.Request} (h : Moves remote shown w requests w') :
    w' = { w with service := remote.after requests w.service } := by
  obtain ⟨service, lockHeld⟩ := w'
  obtain ⟨rfl, rfl, -⟩ := h
  rfl

theorem Step.operation?_ne_none {st : Step} (h : st.asksService = true) :
    st.operation? σ ≠ none := by
  cases st <;> simp [asksService, operation?] at h ⊢

namespace Session

variable {remote : Http.Remote σ} {maxDepth : Nat} {st : Step} {s : Session σ}
  {r : Run (Session σ) Reply}

/-- **An operation changes the service and nothing else**, and the service by its requests alone. -/
theorem Turn.world_eq (h : Turn remote maxDepth s st r) (hst : st.operation? σ ≠ none)
    (hs : s.wire.lockHeld = false) :
    r.world =
      { s with wire := { s.wire with service := remote.after r.requests s.wire.service } } := by
  have hmoves := (h.moves hs).eq
  cases h with
  | refused hrefused => rfl
  | idle hst' hc => rfl
  | operated hst' hc => exact congrArg (fun wire => { s with wire }) hmoves
  | _ => exact absurd rfl hst

/-- **Operations leave no trace.**  Let some steps be taken in turn from the start, with a scripted
service, and then a step that asks something of it.

* However this step ends, the session is afterwards what it was before, but for the queue of the
  service.  The queue has lost one outcome for each request of the step that the table does not
  answer, as long as there was one to lose.
* If the table answers all of them, the steps that come later take the same turns as without this
  step. -/
theorem operations_leave_no_trace (script : Script) (maxDepth : Nat) (env : Environment)
    (queue : List Http.Outcome) (before : List Step) {st : Step} (hst : st.asksService = true) :
    let s := after script.remote maxDepth before (start env queue)
    let turn := step script.remote maxDepth st s
    let lost := min (turn.requests.countP script.isQueued) s.wire.service.length
    turn.world = { s with wire := { s.wire with service := s.wire.service.drop lost } } ∧
      ((∀ q ∈ turn.requests, (script.tabled? q).isSome = true) → ∀ later,
        run script.remote maxDepth (before ++ st :: later) (start env queue) =
            run script.remote maxDepth before (start env queue) ++
              turn :: run script.remote maxDepth later s ∧
          run script.remote maxDepth (before ++ later) (start env queue) =
            run script.remote maxDepth before (start env queue) ++
              run script.remote maxDepth later s) := by
  intro s turn lost
  -- a turn with an operation moves the wire alone, and the lock is free again
  have hworld : turn.world =
      { s with wire := { s.wire with service := s.wire.service.drop lost } } := by
    have hfree : s.wire.lockHeld = false := lockHeld_after script.remote maxDepth before env queue
    have hdrop : s.wire.service.drop lost =
        s.wire.service.drop (turn.requests.countP script.isQueued) :=
      List.drop_eq_drop_iff.mpr (inf_right_idem _ _)
    rw [hdrop, ← script.after_remote]
    exact (turn_step script.remote maxDepth st s).world_eq (Step.operation?_ne_none hst) hfree
  refine ⟨hworld, fun htabled later => ⟨?_, run_append before later _⟩⟩
  -- a request that the table answers takes nothing off the queue
  have hnone : turn.requests.countP script.isQueued = 0 := by
    refine List.countP_eq_zero.mpr fun q hq => ?_
    obtain ⟨outcome, houtcome⟩ := Option.isSome_iff_exists.mp (htabled q hq)
    simp [Script.isQueued, houtcome]
  have hsame : turn.world = s := by
    have hlost : lost = 0 := by simp [lost, hnone]
    rw [hworld, hlost]
    rfl
  rw [run_append]
  show _ ++ turn :: run script.remote maxDepth later turn.world = _
  rw [hsame]

namespace Errand

/-- The table holds a root with a directory in it, but not that directory. -/
def script : Script := ⟨[("/r", Shelf.page [Shelf.entry "/r/d" "DIRECTORY"])]⟩

/-- No answer comes in time for the directory below the root. -/
def queue : List Http.Outcome := [.timedOut "late", .response ⟨404, [], "", [], none⟩]

end Errand

/-- A walk that breaks off at its second request uses up one outcome and changes nothing else.  A
listing of the root can be left out: what is read afterwards is the same. -/
theorem operations_leave_no_trace_errand :
    let s := after Errand.script.remote 9 [.useShared] (start Gate.env Errand.queue)
    (step Errand.script.remote 9 (.list "/r" true) s).result.toOption.isNone ∧
      (step Errand.script.remote 9 (.list "/r" true) s).requests.length = 2 ∧
      (step Errand.script.remote 9 (.list "/r" true) s).world =
        { s with wire := { s.wire with service := Errand.queue.drop 1 } } ∧
      ∃ first listed later,
        run Errand.script.remote 9 [.useShared, .list "/r" false, .read "/x"]
            (start Gate.env Errand.queue) = first ++ listed :: later ∧
          run Errand.script.remote 9 [.useShared, .read "/x"] (start Gate.env Errand.queue) =
            first ++ later := by
  intro s
  obtain ⟨hbroken, -⟩ := operations_leave_no_trace Errand.script 9 Gate.env Errand.queue
    [.useShared] (show (Step.list "/r" true).asksService = true from rfl)
  obtain ⟨-, hlisted⟩ := operations_leave_no_trace Errand.script 9 Gate.env Errand.queue
    [.useShared] (show (Step.list "/r" false).asksService = true from rfl)
  have hwalk : (step Errand.script.remote 9 (.list "/r" true) s).result.toOption.isNone = true ∧
      (step Errand.script.remote 9 (.list "/r" true) s).requests.length = 2 ∧
      (step Errand.script.remote 9 (.list "/r" true) s).requests.countP
        Errand.script.isQueued = 1 := by decide +kernel
  obtain ⟨hresult, hlength, hcount⟩ := hwalk
  refine ⟨hresult, hlength, ?_, _, _, _, hlisted (by decide +kernel) [.read "/x"]⟩
  have hlost : s.wire.service.drop (min 1 s.wire.service.length) = Errand.queue.drop 1 := by
    decide +kernel
  rw [hbroken, hcount, hlost]

end Session

end Workspace
