/-
# What an operation leaves behind

An operation works on a wire: the state of the service, and the lock on the creation of directories.
`Wire.Moves` says how little it changes there.  The service has seen the requests of the operation
and nothing else, and the lock is afterwards as it was before; and it says how the requests show the
lock.

What moves the wire in this way passes through composition (`Action.Frame`).  Only `withLock` turns
the lock, so that all operations show it as they find it, but for the creation of directories, which
finds it free and shows it held (`Connection.frame_makeDirectories`).

For a scripted service this comes to a count: its queue is shorter by as many outcomes as there were
requests that the table does not answer (`Script.after_remote`).
-/
import Workspace.Proofs.Effect
import Workspace.Proofs.Exchange
import Workspace.Script
namespace Workspace

variable {σ α β : Type}

/-! ## 1. Services -/

namespace Http.Remote

variable (remote : Http.Remote σ) (service : σ)

/-- The state of the service after some requests in turn. -/
def after (requests : List Http.Request) (service : σ) : σ :=
  requests.foldl (fun service r => (remote r service).2) service

@[simp] theorem after_nil : remote.after [] service = service := rfl

@[simp] theorem after_cons (r : Http.Request) (rest : List Http.Request) :
    remote.after (r :: rest) service = remote.after rest (remote r service).2 := rfl

theorem after_append (requests rest : List Http.Request) :
    remote.after (requests ++ rest) service = remote.after rest (remote.after requests service) :=
  List.foldl_append

end Http.Remote

namespace Script

/-- Is the request one that the table does not answer?  It takes the next outcome of the queue. -/
def isQueued (s : Script) (r : Http.Request) : Bool := (s.tabled? r).isNone

/-- **A script loses an outcome of its queue** for each request that the table does not answer, as
long as there is one to lose. -/
theorem after_remote (s : Script) (requests : List Http.Request) (queue : List Http.Outcome) :
    s.remote.after requests queue = queue.drop (requests.countP s.isQueued) := by
  -- a request that the table answers leaves the queue alone, any other takes its first outcome
  induction requests generalizing queue with
  | nil => rfl
  | cons r rest ih =>
    rw [Http.Remote.after_cons, ih]
    cases ht : s.tabled? r with
    | some outcome =>
      have hnot : ¬ s.isQueued r = true := by simp [isQueued, ht]
      rw [List.countP_cons_of_neg hnot]
      simp [remote, ht]
    | none =>
      have hqueued : s.isQueued r = true := by simp [isQueued, ht]
      rw [List.countP_cons_of_pos hqueued]
      cases queue with
      | nil => simp [remote, ht]
      | cons outcome queue => simp [remote, ht]

end Script

/-! ## 2. Moves of the wire -/

/-- `Wire.Moves remote shown w requests w'`: the requests, which show the lock as `shown` says, have
moved the wire from `w` to `w'`, and nothing else has. -/
structure Wire.Moves (remote : Http.Remote σ) (shown : Bool) (w : Wire σ)
    (requests : List Http.Request) (w' : Wire σ) : Prop where
  service : w'.service = remote.after requests w.service
  lockHeld : w'.lockHeld = w.lockHeld
  locked : ∀ r ∈ requests, r.locked = shown

namespace Wire.Moves

variable {remote : Http.Remote σ} {shown : Bool} {w w' w'' : Wire σ}
  {requests rest : List Http.Request}

theorem refl (w : Wire σ) : Moves remote shown w [] w := ⟨rfl, rfl, fun _ h => nomatch h⟩

theorem sent {r : Http.Request} (h : r.locked = shown) (w : Wire σ) :
    Moves remote shown w [r] { w with service := (remote r w.service).2 } :=
  ⟨rfl, rfl, List.forall_mem_singleton.mpr h⟩

theorem trans (h : Moves remote shown w requests w') (h' : Moves remote shown w' rest w'') :
    Moves remote shown w (requests ++ rest) w'' where
  service := by rw [h'.service, h.service, remote.after_append]
  lockHeld := h'.lockHeld.trans h.lockHeld
  locked := List.forall_mem_append.mpr ⟨h.locked, h'.locked⟩

end Wire.Moves

namespace Action

/-- `x.Frame remote held shown`: when the lock is as `held` says, the action moves the wire by its
requests, which show the lock as `shown` says. -/
def Frame (remote : Http.Remote σ) (held shown : Bool) (x : Action (Wire σ) α) : Prop :=
  ∀ w, w.lockHeld = held → Wire.Moves remote shown w (x w).requests (x w).world

namespace Frame

variable {remote : Http.Remote σ} {held shown : Bool}

theorem ofExcept (result : Except Failure α) :
    Frame remote held shown (Action.ofExcept result) := fun w _ => .refl w

theorem pure (a : α) : Frame remote held shown (Pure.pure a) := fun w _ => .refl w

theorem log (r : Log.Record) : Frame remote held shown (Action.log r) := fun w _ => .refl w

/-- What is composed of actions that keep to the frame keeps to it. -/
theorem bind {x : Action (Wire σ) α} {f : α → Action (Wire σ) β} (hx : Frame remote held shown x)
    (hf : ∀ a, Frame remote held shown (f a)) : Frame remote held shown (x >>= f) := by
  intro w hw
  have hfirst := hx w hw
  rw [requests_bind]
  cases ha : (x w).result with
  | error failure =>
    rw [bind_run_error ha, List.append_nil]
    exact hfirst
  | ok a =>
    rw [bind_run_ok ha]
    exact hfirst.trans (hf a (x w).world (hfirst.lockHeld.trans hw))

theorem map (f : α → β) {x : Action (Wire σ) α} (hx : Frame remote held shown x) :
    Frame remote held shown (f <$> x) := hx.bind fun a => .pure (f a)

theorem query (c : Client) (method path version : String) (fields : Json.Members) :
    Frame remote held held (c.query remote method path version fields) := by
  intro w hw
  rcases c.query_cases remote method path version fields with
    ⟨failure, -, hrun⟩ | ⟨payload, hp, hc⟩
  · rw [hrun w]
    exact .refl w
  · rw [Client.query_requests hc remote path version hp, Client.query_run hc remote path version hp]
    exact .sent hw w

theorem withLock {x : Action (Wire σ) α} (hx : Frame remote true shown x) :
    Frame remote false shown (Connection.withLock x) := by
  intro w hw
  have hmoves := hx { w with lockHeld := true } rfl
  exact ⟨hmoves.service, hw.symm, hmoves.locked⟩

/-! ## 3. Walks -/

theorem walk {list : String → Action (Wire σ) (List ObjectStatus)}
    (hlist : ∀ path, Frame remote held shown (list path)) (depth : Nat) (path : String) :
    Frame remote held shown (Workspace.walk list depth path) :=
  prop_walk (P := Frame remote held shown) Frame.pure (fun failure => .ofExcept (.error failure))
    Frame.bind hlist depth path

end Frame

end Action

/-! ## 4. Operations -/

namespace Connection

open Workspace.Action (Frame)

variable (c : Connection σ) {held : Bool}

theorem frame_create (r : ImportRequest) : Frame c.remote held held (c.create r) :=
  .bind (.log _) fun _ => .bind (.query _ _ _ _ _) fun _ => .log _

theorem frame_read (path : String) : Frame c.remote held held (c.read path) :=
  .bind (.log _) fun _ => .bind (.query _ _ _ _ _) fun _ => .bind (.ofExcept _) fun status =>
    .bind (.log _) fun _ => .pure status

theorem frame_exportContent (path : String) (format : Option ExportFormat) :
    Frame c.remote held held (c.exportContent path format) :=
  .bind (.log _) fun _ => .bind (.query _ _ _ _ _) fun _ => .bind (.ofExcept _) fun content =>
    .bind (.log _) fun _ => .pure content.base64

/-- **The creation of directories** finds the lock free, shows it held, and leaves it free. -/
theorem frame_makeDirectories (path : String) :
    Frame c.remote false true (c.makeDirectories path) :=
  .bind (.log _) fun _ => .bind (.withLock (.query _ _ _ _ _)) fun _ => .log _

theorem frame_delete (r : DeleteRequest) : Frame c.remote held held (c.delete r) :=
  .bind (.log _) fun _ => .bind (.query _ _ _ _ _) fun _ => .log _

theorem frame_listDirectory (path : String) : Frame c.remote held held (c.listDirectory path) :=
  .bind (.log _) fun _ => .bind (.query _ _ _ _ _) fun _ => .bind (.ofExcept _) fun objects =>
    .bind (.log _) fun _ => .pure objects

theorem frame_list (path : String) (recursive : Bool) :
    Frame c.remote held held (c.list path recursive) := by
  cases recursive with
  | false => exact c.frame_listDirectory path
  | true =>
    exact .bind (.walk c.frame_listDirectory _ path) fun notebooks => .bind (.log _) fun _ =>
      .pure notebooks

end Connection

end Workspace
