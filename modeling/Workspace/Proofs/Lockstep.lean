/-
# The same operation on two connections

An operation of a connection is put together from queries, records and what becomes of answers.
`Connection.Lockstep c c' x x'` says that `x` and `x'` are put together in the same way, and that
the queries of `x` go through `c` where those of `x'` go through `c'`.  There is one lemma for each
operation, and what holds of all operations is shown once, by induction on `Lockstep`: that a client
puts its own host and token into every request, and nothing else (`Lockstep.sends_of_mem`), and that
a closed client sends nothing (`Lockstep.open_of_mem`).

The walk through a tree is in lockstep as far as the listings of directories are.
-/
import Workspace.Connection
import Workspace.Proofs.Effect
import Workspace.Proofs.Exchange
namespace Workspace

variable {σ : Type}

namespace Connection

/-! ## 1. Lockstep -/

/-- `Lockstep c c' x x'`: the actions are the same, but for the connection of their queries. -/
inductive Lockstep (c c' : Connection σ) :
    {α : Type} → Action (Wire σ) α → Action (Wire σ) α → Prop
  | ofExcept {α : Type} (result : Except Failure α) :
      Lockstep c c' (Action.ofExcept result) (Action.ofExcept result)
  | log (r : Log.Record) : Lockstep c c' (Action.log r) (Action.log r)
  | query (method path version : String) (fields : Json.Members) :
      Lockstep c c' (c.client.query c.remote method path version fields)
        (c'.client.query c'.remote method path version fields)
  | withLock {α : Type} {x x' : Action (Wire σ) α} :
      Lockstep c c' x x' → Lockstep c c' (withLock x) (withLock x')
  | bind {α β : Type} {x x' : Action (Wire σ) α} {f f' : α → Action (Wire σ) β} :
      Lockstep c c' x x' → (∀ a, Lockstep c c' (f a) (f' a)) →
      Lockstep c c' (x >>= f) (x' >>= f')

namespace Lockstep

variable {c c' : Connection σ} {α β : Type}

theorem pure (a : α) : Lockstep c c' (Pure.pure a) (Pure.pure a) := .ofExcept (.ok a)

theorem fail (failure : Failure) :
    Lockstep c c' (Action.fail failure : Action (Wire σ) α) (Action.fail failure) :=
  .ofExcept (.error failure)

theorem map (f : α → β) {x x' : Action (Wire σ) α} (h : Lockstep c c' x x') :
    Lockstep c c' (f <$> x) (f <$> x') := .bind h fun a => .pure (f a)

/-! ## 2. The walk -/

theorem walk {list list' : String → Action (Wire σ) (List ObjectStatus)}
    (hlist : ∀ path, Lockstep c c' (list path) (list' path)) (depth : Nat) (path : String) :
    Lockstep c c' (Workspace.walk list depth path) (Workspace.walk list' depth path) :=
  Action.rel_walk .pure .fail .bind hlist depth path

/-! ## 3. The operations -/

theorem create (r : ImportRequest) : Lockstep c c' (c.create r) (c'.create r) :=
  .bind (.log _) fun _ => .bind (.query _ _ _ _) fun _ => .log _

theorem read (path : String) : Lockstep c c' (c.read path) (c'.read path) :=
  .bind (.log _) fun _ => .bind (.query _ _ _ _) fun _ => .bind (.ofExcept _) fun status =>
    .bind (.log _) fun _ => .pure status

theorem exportContent (path : String) (format : Option ExportFormat) :
    Lockstep c c' (c.exportContent path format) (c'.exportContent path format) :=
  .bind (.log _) fun _ => .bind (.query _ _ _ _) fun _ => .bind (.ofExcept _) fun content =>
    .bind (.log _) fun _ => .pure content.base64

theorem makeDirectories (path : String) :
    Lockstep c c' (c.makeDirectories path) (c'.makeDirectories path) :=
  .bind (.log _) fun _ => .bind (.withLock (.query _ _ _ _)) fun _ => .log _

theorem delete (r : DeleteRequest) : Lockstep c c' (c.delete r) (c'.delete r) :=
  .bind (.log _) fun _ => .bind (.query _ _ _ _) fun _ => .log _

theorem listDirectory (path : String) :
    Lockstep c c' (c.listDirectory path) (c'.listDirectory path) :=
  .bind (.log _) fun _ => .bind (.query _ _ _ _) fun _ => .bind (.ofExcept _) fun objects =>
    .bind (.log _) fun _ => .pure objects

/-- A listing, of one directory or of all below it, if both walks may go equally deep. -/
theorem list (hdepth : c.maxDepth = c'.maxDepth) (path : String) (recursive : Bool) :
    Lockstep c c' (c.list path recursive) (c'.list path recursive) := by
  cases recursive with
  | false => exact listDirectory path
  | true =>
    have hwalk : Lockstep c c' (Workspace.walk c.listDirectory c.maxDepth path)
        (Workspace.walk c'.listDirectory c'.maxDepth path) := by
      rw [hdepth]
      exact walk listDirectory _ path
    exact .bind hwalk fun notebooks => .bind (.log _) fun _ => .pure notebooks

end Lockstep

end Connection

/-! ## 4. What is sent -/

/-- `c.Sends r`: the request is one of those that the client makes, for some path of the
interface. -/
def Client.Sends (c : Client) (r : Http.Request) : Prop :=
  ∃ method path version payload locked,
    r = c.request method (c.urlFor path version) payload locked

namespace Connection

variable {c c' : Connection σ} {α : Type} {x x' : Action (Wire σ) α}

/-- **What holds of the requests of all queries** holds of those of every operation. -/
theorem Lockstep.of_mem_requests {p : Http.Request → Prop} (h : Lockstep c c' x x')
    (hquery : ∀ method path version fields w,
      ∀ r ∈ (c.client.query c.remote method path version fields w).requests, p r)
    {w : Wire σ} {r : Http.Request} (hr : r ∈ (x w).requests) : p r := by
  -- only queries send, and what sends them is the same connection throughout
  induction h generalizing w with
  | ofExcept result => cases hr
  | log record => cases hr
  | query method path version fields => exact hquery method path version fields w r hr
  | withLock _ ih => exact ih (w := { w with lockHeld := true }) hr
  | @bind α β x x' f f' _ _ ihx ihf =>
    rw [Action.requests_bind] at hr
    rcases List.mem_append.mp hr with hr | hr
    · exact ihx hr
    · cases ha : (x w).result with
      | ok a =>
        rw [ha] at hr
        exact ihf a hr
      | error failure =>
        rw [ha] at hr
        cases hr

section Query

variable {c : Client} {remote : Http.Remote σ} {method path version : String}
  {fields : Json.Members} {w : Wire σ} {r : Http.Request}

/-- A query of a closed client sends nothing. -/
theorem open_of_mem_query (h : r ∈ (c.query remote method path version fields w).requests) :
    c.closed = false := by
  rcases c.query_cases remote method path version fields with ⟨failure, -, hrun⟩ | ⟨payload, -, hc⟩
  · rw [hrun w] at h
    cases h
  · exact hc

theorem sends_of_mem_query (h : r ∈ (c.query remote method path version fields w).requests) :
    c.Sends r := by
  rcases c.query_cases remote method path version fields with ⟨failure, -, hrun⟩ | ⟨payload, hp, hc⟩
  · rw [hrun w] at h
    cases h
  · rw [Client.query_requests hc remote path version hp, List.mem_singleton] at h
    exact ⟨_, _, _, _, _, h⟩

end Query

/-- **An operation sends what its client makes**, and nothing else. -/
theorem Lockstep.sends_of_mem (h : Lockstep c c' x x') {w : Wire σ} {r : Http.Request}
    (hr : r ∈ (x w).requests) : c.client.Sends r :=
  h.of_mem_requests (fun _ _ _ _ _ _ hr => sends_of_mem_query hr) hr

/-- **An operation of a closed client sends nothing.** -/
theorem Lockstep.open_of_mem (h : Lockstep c c' x x') {w : Wire σ} {r : Http.Request}
    (hr : r ∈ (x w).requests) : c.client.closed = false :=
  h.of_mem_requests (fun _ _ _ _ _ _ hr => open_of_mem_query hr) hr

end Connection

end Workspace
