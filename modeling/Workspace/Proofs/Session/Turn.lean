/-
# What one step of a session does

`Session.Turn` lists everything that a step can do to a session, each with the condition under which
it happens, and `turn_step` says that the list is complete.  An invariant of sessions is shown by
one case for each entry, and `after_induction` carries it through all the steps.

* The steps that perform an operation of the client in use are treated alike (`Step.operation?`).
  They change the wire and nothing else.
* Clients are never dropped, and keep their hosts, their timeouts and their lines (`Turn.develops`).
  What is closed stays closed, and a token changes only on a line that was handed over.
* Clients that share a line agree in all but their hosts, and the shared client has a line of its own
  (`Session.Sound`).
* `Step.core` is a step without the scopes around it.  The scopes change neither what it returns nor
  what it sends.
* `BuiltBy` says which step built a client.
-/
import Workspace.Proofs.Building
import Workspace.Proofs.Lockstep
import Workspace.Session
namespace Workspace

variable {σ : Type}

/-! ## 1. Steps -/

namespace Step

/-- The step itself, out of the scopes around it. -/
def core : Step → Step
  | .scoped inner => inner.core
  | st => st

/-- The operation that a step asks for, or the failure if a value in it names no member of an
enumeration; nothing for the steps that are about the environment and the clients. -/
def operation? (σ : Type) : Step → Option (Except Failure (Connection σ → Action (Wire σ) Reply))
  | .urlFor path version => some (.ok fun c => pure (.text (c.client.urlFor path version)))
  | .query method path version fields =>
    some (.ok fun c => .object <$> c.client.query c.remote method path version fields)
  | .create path content language format overwrite => some do
    let format ← Session.optional ExportFormat.ofJson format
    let language ← Session.optional Language.ofJson language
    return fun c => do
      c.create ⟨path, content, language, format, overwrite⟩
      return .nothing
  | .read path => some (.ok fun c => .status <$> c.read path)
  | .exportContent path format => some do
    let format ← Session.optional ExportFormat.ofJson format
    return fun c => .text <$> c.exportContent path format
  | .makeDirectories path => some (.ok fun c => do
      c.makeDirectories path
      return .nothing)
  | .delete path recursive => some (.ok fun c => do
      c.delete ⟨path, recursive⟩
      return .nothing)
  | .list path recursive => some (.ok fun c => .listing <$> c.list path recursive)
  | .setEnvironment _ | .newClient _ _ _ _ | .useShared | .useClient _ | .forgetShared | .close
  | .scoped _ => none

/-- Does the step ask something of the service?  Making a URL does not. -/
def asksService : Step → Bool
  | .query _ _ _ _ | .create _ _ _ _ _ | .read _ | .exportContent _ _ | .makeDirectories _
  | .delete _ _ | .list _ _ => true
  | .setEnvironment _ | .newClient _ _ _ _ | .useShared | .useClient _ | .forgetShared | .close
  | .scoped _ | .urlFor _ _ => false

/-- `st.Performs operation`: the step performs the operation, once its values are read. -/
inductive Performs : Step → (Connection σ → Action (Wire σ) Reply) → Prop
  | urlFor (path version : String) :
      Performs (.urlFor path version) fun c => pure (.text (c.client.urlFor path version))
  | query (method path version : String) (fields : Json.Members) :
      Performs (.query method path version fields) fun c =>
        .object <$> c.client.query c.remote method path version fields
  | create (path content : String) {language format : Json} (l : Option Language)
      (f : Option ExportFormat) (overwrite : Bool) :
      Performs (.create path content language format overwrite) fun c => do
        c.create ⟨path, content, l, f, overwrite⟩
        return .nothing
  | read (path : String) : Performs (.read path) fun c => .status <$> c.read path
  | exportContent (path : String) {format : Json} (f : Option ExportFormat) :
      Performs (.exportContent path format) fun c => .text <$> c.exportContent path f
  | makeDirectories (path : String) : Performs (.makeDirectories path) fun c => do
      c.makeDirectories path
      return .nothing
  | delete (path : String) (recursive : Bool) : Performs (.delete path recursive) fun c => do
      c.delete ⟨path, recursive⟩
      return .nothing
  | list (path : String) (recursive : Bool) :
      Performs (.list path recursive) fun c => .listing <$> c.list path recursive

variable {st : Step} {operation : Connection σ → Action (Wire σ) Reply}

/-- What a step asks for is what it performs. -/
theorem performs_of_operation? (h : st.operation? σ = some (.ok operation)) :
    st.Performs operation := by
  cases st with
  | urlFor path version => cases h; exact .urlFor path version
  | query method path version fields => cases h; exact .query method path version fields
  | create path content language format overwrite =>
    simp only [operation?, Option.some.injEq] at h
    cases hf : Session.optional ExportFormat.ofJson format with
    | error failure => rw [hf] at h; cases h
    | ok f =>
      cases hl : Session.optional Language.ofJson language with
      | error failure => rw [hf, hl] at h; cases h
      | ok l =>
        rw [hf, hl] at h
        cases h
        exact .create path content l f overwrite
  | read path => cases h; exact .read path
  | exportContent path format =>
    simp only [operation?, Option.some.injEq] at h
    cases hf : Session.optional ExportFormat.ofJson format with
    | error failure => rw [hf] at h; cases h
    | ok f =>
      rw [hf] at h
      cases h
      exact .exportContent path f
  | makeDirectories path => cases h; exact .makeDirectories path
  | delete path recursive => cases h; exact .delete path recursive
  | list path recursive => cases h; exact .list path recursive
  | _ => cases h

theorem core_of_operation? {result : Except Failure (Connection σ → Action (Wire σ) Reply)}
    (h : st.operation? σ = some result) : st.core = st := by
  cases st with
  | «scoped» inner => cases h
  | _ => rfl

/-- The operation of a step is put together from queries of its connection. -/
theorem lockstep_operation (h : st.operation? σ = some (.ok operation)) (c : Connection σ) :
    Connection.Lockstep c c (operation c) (operation c) := by
  cases performs_of_operation? h with
  | urlFor path version => exact .pure _
  | query method path version fields => exact .map _ (.query _ _ _ _)
  | create path content l f overwrite => exact .bind (.create _) fun _ => .pure _
  | read path => exact .map _ (.read path)
  | exportContent path f => exact .map _ (.exportContent path f)
  | makeDirectories path => exact .bind (.makeDirectories path) fun _ => .pure _
  | delete path recursive => exact .bind (.delete _) fun _ => .pure _
  | list path recursive => exact .map _ (.list rfl path recursive)

end Step

namespace Session

/-! ## 2. Turns -/

/-- The client that a step builds for itself. -/
def ownClient (host : String) (token : Option String) (timeout : Option Json) (line : Option Nat) :
    Except Failure Client := do
  let timeout ← timeout.mapM timeoutOf
  let c ← Client.build host token
    (if line.isSome then lineTimeout else timeout.getD Settings.defaultTimeout)
  return { c with line }

/-- A client of one's own is built, and put on its line. -/
theorem exists_of_ownClient {host : String} {token : Option String} {timeout : Option Json}
    {line : Option Nat} {c : Client} (h : ownClient host token timeout line = .ok c) :
    ∃ t c', Client.build host token t = .ok c' ∧ c = { c' with line } := by
  unfold ownClient at h
  cases ht : timeout.mapM timeoutOf with
  | error failure =>
    rw [ht] at h
    cases h
  | ok t =>
    cases hb : Client.build host token
        (if line.isSome then lineTimeout else t.getD Settings.defaultTimeout) with
    | error failure =>
      simp only [ht, bind, Except.bind, hb] at h
      cases h
    | ok c' =>
      simp only [ht, bind, Except.bind, hb] at h
      cases h
      exact ⟨_, c', hb, rfl⟩

/-- `s.Unshared`: no client is shared. -/
def Unshared (s : Session σ) : Prop := ∀ n, s.shared = some n → s.clients[n]? = none

/-- `Turn remote maxDepth s st run`: what can come of the step `st` in the session `s`. -/
inductive Turn (remote : Http.Remote σ) (maxDepth : Nat) (s : Session σ) :
    Step → Run (Session σ) Reply → Prop
  | environment (env : Environment) : Turn remote maxDepth s (.setEnvironment env)
      ⟨.ok .nothing, [], { s with environment := env }⟩
  | built {host : String} {token : Option String} {timeout : Option Json} {line : Option Nat}
      {c : Client} : ownClient host token timeout line = .ok c →
      Turn remote maxDepth s (.newClient host token timeout line)
        ⟨.ok (.client s.clients.length c.host (s.onLine c).timeout), [], addClient c s⟩
  | unbuilt {host : String} {token : Option String} {timeout : Option Json} {line : Option Nat}
      {failure : Failure} : ownClient host token timeout line = .error failure →
      Turn remote maxDepth s (.newClient host token timeout line) ⟨.error failure, [], s⟩
  /-- The shared client is there already; the environment is not looked at. -/
  | reused {n : Nat} {c : Client} : s.shared = some n → s.clients[n]? = some c →
      Turn remote maxDepth s .useShared
        ⟨.ok (.client n c.host c.timeout), [], { s with current := some n }⟩
  | shared {c : Client} : s.Unshared → Client.ofEnvironment s.environment = .ok c →
      Turn remote maxDepth s .useShared
        ⟨.ok (.client s.clients.length c.host c.timeout), [],
          { addClient c s with shared := some s.clients.length }⟩
  | unshared {failure : Failure} : s.Unshared →
      Client.ofEnvironment s.environment = .error failure →
      Turn remote maxDepth s .useShared ⟨.error failure, [], s⟩
  | chosen {n : Nat} {c : Client} : s.clients[n]? = some c →
      Turn remote maxDepth s (.useClient n)
        ⟨.ok (.client n c.host c.timeout), [], { s with current := some n }⟩
  | missing {n : Nat} : s.clients[n]? = none →
      Turn remote maxDepth s (.useClient n) ⟨.error .noClient, [], s⟩
  | forgotten : Turn remote maxDepth s .forgetShared ⟨.ok .nothing, [], forgetShared s⟩
  | closed : Turn remote maxDepth s .close ⟨.ok .nothing, [], closeClient? s.current s⟩
  | inScope {inner : Step} {run : Run (Session σ) Reply} : Turn remote maxDepth s inner run →
      Turn remote maxDepth s (.scoped inner)
        ⟨run.result, run.events, closeClient? s.current run.world⟩
  | refused {st : Step} {failure : Failure} : st.operation? σ = some (.error failure) →
      Turn remote maxDepth s st ⟨.error failure, [], s⟩
  | idle {st : Step} {operation : Connection σ → Action (Wire σ) Reply} :
      st.operation? σ = some (.ok operation) → s.currentClient? = none →
      Turn remote maxDepth s st ⟨.error .noClient, [], s⟩
  | operated {st : Step} {operation : Connection σ → Action (Wire σ) Reply} {client : Client} :
      st.operation? σ = some (.ok operation) → s.currentClient? = some client →
      Turn remote maxDepth s st
        ⟨(operation ⟨remote, client, maxDepth⟩ s.wire).result,
          (operation ⟨remote, client, maxDepth⟩ s.wire).events,
          { s with wire := (operation ⟨remote, client, maxDepth⟩ s.wire).world }⟩

variable {remote : Http.Remote σ} {maxDepth : Nat}

/-- An operation of the client in use is a turn. -/
theorem turn_withConnection {st : Step} {operation : Connection σ → Action (Wire σ) Reply}
    (h : st.operation? σ = some (.ok operation)) (s : Session σ) :
    Turn remote maxDepth s st (withConnection remote maxDepth operation s) := by
  cases hc : s.currentClient? with
  | none =>
    have hrun : withConnection remote maxDepth operation s = ⟨.error .noClient, [], s⟩ := by
      simp [withConnection, Action.bind_run, hc]
    rw [hrun]
    exact .idle h hc
  | some client =>
    have hrun : withConnection remote maxDepth operation s =
        ⟨(operation ⟨remote, client, maxDepth⟩ s.wire).result,
          (operation ⟨remote, client, maxDepth⟩ s.wire).events,
          { s with wire := (operation ⟨remote, client, maxDepth⟩ s.wire).world }⟩ := by
      simp [withConnection, Action.bind_run, hc, Action.onPart]
    rw [hrun]
    exact .operated h hc

/-- Building a client of one's own is a turn. -/
theorem turn_newClient (host : String) (token : Option String) (timeout : Option Json)
    (line : Option Nat) (s : Session σ) :
    Turn remote maxDepth s (.newClient host token timeout line)
      (step remote maxDepth (.newClient host token timeout line) s) := by
  -- the timeout is looked at first, then the host and the token
  cases ht : timeout.mapM timeoutOf with
  | error failure =>
    have hown : ownClient host token timeout line = .error failure := by
      rw [ownClient, ht]; rfl
    have hrun : step remote maxDepth (.newClient host token timeout line) s =
        ⟨.error failure, [], s⟩ := by
      simp [step, Action.bind_run, ht]
    rw [hrun]
    exact .unbuilt hown
  | ok t =>
    cases hb : Client.build host token
        (if line.isSome then lineTimeout else t.getD Settings.defaultTimeout) with
    | error failure =>
      have hown : ownClient host token timeout line = .error failure := by
        rw [ownClient, ht]
        simp only [bind, Except.bind, hb]
      have hrun : step remote maxDepth (.newClient host token timeout line) s =
          ⟨.error failure, [], s⟩ := by
        simp [step, useNew, Action.bind_run, ht, hb]
      rw [hrun]
      exact .unbuilt hown
    | ok c =>
      have hown : ownClient host token timeout line = .ok { c with line } := by
        rw [ownClient, ht]
        simp only [bind, Except.bind, hb]
        rfl
      have hrun : step remote maxDepth (.newClient host token timeout line) s =
          ⟨.ok (.client s.clients.length c.host (s.onLine { c with line }).timeout), [],
            addClient { c with line } s⟩ := by
        simp [step, useNew, Action.bind_run, ht, hb]
      rw [hrun]
      exact .built hown

/-- Using the shared client is a turn. -/
theorem turn_useShared (s : Session σ) :
    Turn remote maxDepth s .useShared (useShared s) := by
  cases hs : s.shared.bind fun n => s.clients[n]?.map fun c => (n, c) with
  | some entry =>
    obtain ⟨n, c⟩ := entry
    have hrun : useShared s =
        ⟨.ok (.client n c.host c.timeout), [], { s with current := some n }⟩ := by
      simp [useShared, Action.bind_run, hs]
    obtain ⟨m, hm, hc⟩ := Option.bind_eq_some_iff.mp hs
    obtain ⟨c', hc', heq⟩ := Option.map_eq_some_iff.mp hc
    cases heq
    rw [hrun]
    exact .reused hm hc'
  | none =>
    -- no client is shared, or the number of the one that is leads nowhere
    have hunshared : s.Unshared := by
      intro n hn
      rw [hn] at hs
      simpa using hs
    cases hl : Settings.load s.environment with
    | error e =>
      have hrun : useShared s = ⟨.error (.error e), [], s⟩ := by
        simp [useShared, Action.bind_run, hs, hl]
      rw [hrun]
      exact .unshared hunshared (by rw [Client.ofEnvironment, hl])
    | ok settings =>
      have hclient : Client.ofEnvironment s.environment = Client.ofSettings settings := by
        rw [Client.ofEnvironment, hl]
      cases hc : Client.ofSettings settings with
      | error failure =>
        have hrun : useShared s = ⟨.error failure, [], s⟩ := by
          simp [useShared, Action.bind_run, hs, hl, hc]
        rw [hrun]
        exact .unshared hunshared (hclient.trans hc)
      | ok c =>
        have hrun : useShared s =
            ⟨.ok (.client s.clients.length c.host c.timeout), [],
              { addClient c s with shared := some s.clients.length }⟩ := by
          simp [useShared, Action.bind_run, hs, hl, hc]
        rw [hrun]
        exact .shared hunshared (hclient.trans hc)

/-- Going back to a client is a turn. -/
theorem turn_useClient (n : Nat) (s : Session σ) :
    Turn remote maxDepth s (.useClient n) (useClient n s) := by
  cases hc : s.clients[n]? with
  | some c =>
    have hrun : useClient n s =
        ⟨.ok (.client n c.host c.timeout), [], { s with current := some n }⟩ := by
      simp [useClient, Action.bind_run, hc]
    rw [hrun]
    exact .chosen hc
  | none =>
    have hrun : useClient n s = ⟨.error .noClient, [], s⟩ := by
      simp [useClient, Action.bind_run, hc]
    rw [hrun]
    exact .missing hc

/-- An import is refused for its format or its language, or is an operation. -/
theorem turn_create (path content : String) (language format : Json) (overwrite : Bool)
    (s : Session σ) :
    Turn remote maxDepth s (.create path content language format overwrite)
      (step remote maxDepth (.create path content language format overwrite) s) := by
  -- the format is looked at before the language
  cases hf : optional ExportFormat.ofJson format with
  | error failure =>
    have hrun : step remote maxDepth (.create path content language format overwrite) s =
        ⟨.error failure, [], s⟩ := by simp [step, Action.bind_run, hf]
    rw [hrun]
    exact .refused (by rw [Step.operation?, hf]; rfl)
  | ok format' =>
    cases hl : optional Language.ofJson language with
    | error failure =>
      have hrun : step remote maxDepth (.create path content language format overwrite) s =
          ⟨.error failure, [], s⟩ := by simp [step, Action.bind_run, hf, hl]
      rw [hrun]
      exact .refused (by rw [Step.operation?, hf, hl]; rfl)
    | ok language' =>
      have hop : (Step.create path content language format overwrite).operation? σ =
          some (.ok fun c => do
            c.create ⟨path, content, language', format', overwrite⟩
            return .nothing) := by rw [Step.operation?, hf, hl]; rfl
      have hrun : step remote maxDepth (.create path content language format overwrite) s =
          withConnection remote maxDepth (fun c => do
            c.create ⟨path, content, language', format', overwrite⟩
            return .nothing) s := by simp [step, Action.bind_run, hf, hl]
      rw [hrun]
      exact turn_withConnection hop s

/-- An export is refused for its format, or is an operation. -/
theorem turn_exportContent (path : String) (format : Json) (s : Session σ) :
    Turn remote maxDepth s (.exportContent path format)
      (step remote maxDepth (.exportContent path format) s) := by
  cases hf : optional ExportFormat.ofJson format with
  | error failure =>
    have hrun : step remote maxDepth (.exportContent path format) s =
        ⟨.error failure, [], s⟩ := by simp [step, Action.bind_run, hf]
    rw [hrun]
    exact .refused (by rw [Step.operation?, hf]; rfl)
  | ok format' =>
    have hop : (Step.exportContent path format).operation? σ =
        some (.ok fun c => .text <$> c.exportContent path format') := by
      rw [Step.operation?, hf]; rfl
    have hrun : step remote maxDepth (.exportContent path format) s =
        withConnection remote maxDepth (fun c => .text <$> c.exportContent path format') s := by
      simp [step, Action.bind_run, hf]
    rw [hrun]
    exact turn_withConnection hop s

/-- **Every step takes one of the turns.** -/
theorem turn_step (remote : Http.Remote σ) (maxDepth : Nat) (st : Step) (s : Session σ) :
    Turn remote maxDepth s st (step remote maxDepth st s) := by
  induction st generalizing s with
  | setEnvironment env => exact .environment env
  | newClient host token timeout line => exact turn_newClient host token timeout line s
  | useShared => exact turn_useShared s
  | useClient n => exact turn_useClient n s
  | forgetShared => exact .forgotten
  | close => exact .closed
  | «scoped» inner ih => exact .inScope (ih s)
  | urlFor path version => exact turn_withConnection rfl s
  | query method path version fields => exact turn_withConnection rfl s
  | create path content language format overwrite =>
    exact turn_create path content language format overwrite s
  | read path => exact turn_withConnection rfl s
  | exportContent path format => exact turn_exportContent path format s
  | makeDirectories path => exact turn_withConnection rfl s
  | delete path recursive => exact turn_withConnection rfl s
  | list path recursive => exact turn_withConnection rfl s

/-! ## 3. Lines -/

section Lines

variable {s s' : Session σ} {n m : Nat} {c d : Client}

theorem joins_iff : c.joins d = true ↔ c.line ≠ none ∧ d.line = c.line := by
  simp [Client.joins, Option.isSome_iff_ne_none]

theorem reaches_iff : s.reaches n m = true ↔
    m = n ∨ ∃ c d, s.clients[n]? = some c ∧ s.clients[m]? = some d ∧ c.joins d = true := by
  simp only [reaches, Bool.or_eq_true, beq_iff_eq, Option.any_eq_true]
  grind

@[simp] theorem reaches_self (s : Session σ) (n : Nat) : s.reaches n n = true :=
  reaches_iff.mpr (.inl rfl)

theorem reaches_congr (hn : s'.clients[n]?.map Client.line = s.clients[n]?.map Client.line)
    (hm : s'.clients[m]?.map Client.line = s.clients[m]?.map Client.line) :
    s'.reaches n m = s.reaches n m := by
  unfold reaches
  cases h : s.clients[n]? <;> cases h' : s'.clients[n]? <;> cases hd : s.clients[m]? <;>
    cases hd' : s'.clients[m]? <;> simp_all [Client.joins]

theorem lt_of_reaches (h : s.reaches n m = true) (hn : n < s.clients.length) :
    m < s.clients.length := by
  rcases reaches_iff.mp h with rfl | ⟨_, _, -, hd, -⟩
  · exact hn
  · exact (List.getElem?_eq_some_iff.mp hd).1

theorem onLine_host (s : Session σ) (c : Client) : (s.onLine c).host = c.host := by
  unfold onLine
  split <;> rfl

theorem onLine_line (s : Session σ) (c : Client) : (s.onLine c).line = c.line := by
  unfold onLine
  split <;> rfl

theorem onLine_of_line_eq_none (s : Session σ) (h : c.line = none) : s.onLine c = c := by
  have hnone : s.clients.find? c.joins = none :=
    List.find?_eq_none.mpr fun d _ => by simp [Client.joins, h]
  rw [onLine, hnone]

@[simp] theorem addClient_length (c : Client) (s : Session σ) :
    (addClient c s).clients.length = s.clients.length + 1 := by
  simp [addClient]

theorem getElem?_addClient_length (c : Client) (s : Session σ) :
    (addClient c s).clients[s.clients.length]? = some (s.onLine c) := by
  simp [addClient]

theorem getElem?_addClient (c : Client) {s : Session σ} (h : m < s.clients.length) :
    (addClient c s).clients[m]? =
      s.clients[m]?.map fun d => if c.joins d then d.takeToken c.token else d := by
  simp [addClient, List.getElem?_append_left, h]

end Lines

/-! ## 4. What becomes of clients -/

section Closing

variable (n? : Option Nat) (s : Session σ)

@[simp] theorem closeClient?_environment : (closeClient? n? s).environment = s.environment := by
  cases n? <;> rfl

@[simp] theorem closeClient?_shared : (closeClient? n? s).shared = s.shared := by
  cases n? <;> rfl

@[simp] theorem closeClient?_current : (closeClient? n? s).current = s.current := by
  cases n? <;> rfl

@[simp] theorem closeClient?_wire : (closeClient? n? s).wire = s.wire := by
  cases n? <;> rfl

@[simp] theorem closeClient?_length :
    (closeClient? n? s).clients.length = s.clients.length := by
  cases n? with
  | none => rfl
  | some n => exact List.length_mapIdx

/-- Closing a client closes those that it reaches. -/
theorem getElem?_closeClient? (m : Nat) :
    (closeClient? n? s).clients[m]? =
      if n?.any (s.reaches · m) = true then s.clients[m]?.map Client.close
      else s.clients[m]? := by
  cases n? with
  | none => simp [closeClient?]
  | some n =>
    show (s.clients.mapIdx fun m c => if s.reaches n m then c.close else c)[m]? = _
    rw [List.getElem?_mapIdx]
    by_cases h : s.reaches n m = true <;> simp [h]

theorem closeClient?_line (m : Nat) :
    (closeClient? n? s).clients[m]?.map Client.line = s.clients[m]?.map Client.line := by
  rw [getElem?_closeClient?]
  split
  · rw [Option.map_map]
    rfl
  · rfl

theorem reaches_closeClient? (n m : Nat) : (closeClient? n? s).reaches n m = s.reaches n m :=
  reaches_congr (closeClient?_line n? s n) (closeClient?_line n? s m)

/-- To close a client once is enough. -/
theorem closeClient?_idem : closeClient? n? (closeClient? n? s) = closeClient? n? s := by
  have hclients : (closeClient? n? (closeClient? n? s)).clients = (closeClient? n? s).clients := by
    refine List.ext_getElem? fun m => ?_
    rw [getElem?_closeClient?]
    simp only [reaches_closeClient?]
    split
    · next h =>
      rw [getElem?_closeClient?, if_pos h, Option.map_map]
      rfl
    · rfl
  cases n? with
  | none => rfl
  | some n => exact congrArg (fun clients => { closeClient n s with clients }) hclients

end Closing

end Session

/-- `c.Becomes c'`: the client keeps its host, its timeout and its line; it keeps its token, too, on a
line of its own; and it is not opened again. -/
structure Client.Becomes (c c' : Client) : Prop where
  host : c'.host = c.host
  timeout : c'.timeout = c.timeout
  line : c'.line = c.line
  token : c.line = none → c'.token = c.token
  closed : c.closed = true → c'.closed = true

namespace Client.Becomes

variable {c c' c'' : Client}

theorem refl (c : Client) : c.Becomes c := ⟨rfl, rfl, rfl, fun _ => rfl, id⟩

theorem trans (h : c.Becomes c') (h' : c'.Becomes c'') : c.Becomes c'' where
  host := h'.host.trans h.host
  timeout := h'.timeout.trans h.timeout
  line := h'.line.trans h.line
  token hline := (h'.token (h.line.trans hline)).trans (h.token hline)
  closed := h'.closed ∘ h.closed

theorem close (c : Client) : c.Becomes c.close := ⟨rfl, rfl, rfl, fun _ => rfl, fun _ => rfl⟩

theorem takeToken (token : Option String) (hline : c.line ≠ none) :
    c.Becomes (c.takeToken token) := ⟨rfl, rfl, rfl, fun h => absurd h hline, id⟩

end Client.Becomes

namespace Session

variable {remote : Http.Remote σ} {maxDepth : Nat}

/-- `s.Develops s'`: the clients of `s` are those of `s'` under the same numbers, or what became of
them, and others may have come. -/
def Develops (s s' : Session σ) : Prop :=
  ∀ (n : Nat) (c : Client), s.clients[n]? = some c →
    ∃ c', s'.clients[n]? = some c' ∧ c.Becomes c'

namespace Develops

variable {s s' s'' : Session σ}

theorem of_clients_eq (h : s'.clients = s.clients) : Develops s s' :=
  fun _ c hc => ⟨c, h ▸ hc, .refl c⟩

theorem trans (h : Develops s s') (h' : Develops s' s'') : Develops s s'' := by
  intro n c hc
  obtain ⟨c', hc', hbecomes⟩ := h n c hc
  obtain ⟨c'', hc'', hbecomes'⟩ := h' n c' hc'
  exact ⟨c'', hc'', hbecomes.trans hbecomes'⟩

theorem length_le (h : Develops s s') : s.clients.length ≤ s'.clients.length := by
  by_contra hlt
  obtain ⟨c, hc⟩ : ∃ c, s.clients[s'.clients.length]? = some c :=
    ⟨_, List.getElem?_eq_getElem (by omega)⟩
  obtain ⟨c', hc', -⟩ := h _ c hc
  rw [List.getElem?_eq_none (le_refl _)] at hc'
  cases hc'

theorem closeClient? (n? : Option Nat) (s : Session σ) : Develops s (closeClient? n? s) := by
  intro m c hc
  rw [getElem?_closeClient?, hc]
  split
  · exact ⟨_, rfl, .close c⟩
  · exact ⟨_, rfl, .refl c⟩

/-- Taking up a client. -/
theorem addClient (c : Client) (s : Session σ) : Develops s (addClient c s) := by
  intro m d hd
  rw [getElem?_addClient c (List.getElem?_eq_some_iff.mp hd).1, hd]
  refine ⟨_, rfl, ?_⟩
  by_cases hjoins : c.joins d = true
  · obtain ⟨hline, heq⟩ := joins_iff.mp hjoins
    simp only [hjoins, if_true]
    exact .takeToken c.token (heq ▸ hline)
  · simp only [hjoins]
    exact .refl d

end Develops

variable {s : Session σ} {st : Step} {r : Run (Session σ) Reply}

/-- **A turn drops no client and changes none**, except that it may close it. -/
theorem Turn.develops (h : Turn remote maxDepth s st r) : Develops s r.world := by
  induction h with
  | environment env => exact .of_clients_eq rfl
  | built hc => exact .addClient _ s
  | unbuilt hc => exact .of_clients_eq rfl
  | reused hn hc => exact .of_clients_eq rfl
  | shared hs hc => exact .addClient _ s
  | unshared hs hc => exact .of_clients_eq rfl
  | chosen hc => exact .of_clients_eq rfl
  | missing hc => exact .of_clients_eq rfl
  | forgotten => exact .closeClient? s.shared s
  | closed => exact .closeClient? s.current s
  | inScope _ ih => exact ih.trans (.closeClient? s.current _)
  | refused hst => exact .of_clients_eq rfl
  | idle hst hc => exact .of_clients_eq rfl
  | operated hst hc => exact .of_clients_eq rfl

/-- `s.Agrees`: clients that share a line differ in their hosts at most. -/
def Agrees (s : Session σ) : Prop :=
  ∀ (m m' : Nat) (c d : Client), s.clients[m]? = some c → s.clients[m']? = some d →
    c.joins d = true → d = { c with host := d.host }

/-- Who shares a line is reached together. -/
theorem reaches_of_joins {m m' n : Nat} {c d : Client} (hc : s.clients[m]? = some c)
    (hd : s.clients[m']? = some d) (hjoins : c.joins d = true) :
    s.reaches n m = s.reaches n m' := by
  obtain ⟨hline, heq⟩ := joins_iff.mp hjoins
  rw [Bool.eq_iff_iff, reaches_iff, reaches_iff]
  constructor
  · rintro (rfl | ⟨e, c', he, hc', hec⟩)
    · exact .inr ⟨c, d, hc, hd, hjoins⟩
    · obtain rfl := Option.some.inj (hc'.symm.trans hc)
      obtain ⟨hline', heq'⟩ := joins_iff.mp hec
      exact .inr ⟨e, d, he, hd, joins_iff.mpr ⟨hline', heq.trans heq'⟩⟩
  · rintro (rfl | ⟨e, d', he, hd', hed⟩)
    · exact .inr ⟨d, c, hd, hc, joins_iff.mpr ⟨heq ▸ hline, heq.symm⟩⟩
    · obtain rfl := Option.some.inj (hd'.symm.trans hd)
      obtain ⟨hline', heq'⟩ := joins_iff.mp hed
      exact .inr ⟨e, c, he, hc, joins_iff.mpr ⟨hline', heq.symm.trans heq'⟩⟩

/-- They still agree after some were closed. -/
theorem Agrees.closeClient? (h : s.Agrees) (n? : Option Nat) : (closeClient? n? s).Agrees := by
  intro m m' c d hc hd hjoins
  -- two clients on one line are reached by the same clients, so both are closed or neither is
  have hreached (e e' : Client) (he : s.clients[m]? = some e) (he' : s.clients[m']? = some e')
      (hjoins : e.joins e' = true) :
      n?.any (s.reaches · m) = n?.any (s.reaches · m') := by
    cases n? with
    | none => rfl
    | some n => exact reaches_of_joins he he' hjoins
  rw [getElem?_closeClient?] at hc hd
  cases he : s.clients[m]? with
  | none => simp [he] at hc
  | some e =>
    cases he' : s.clients[m']? with
    | none => simp [he'] at hd
    | some e' =>
      simp only [he, Option.map_some] at hc
      simp only [he', Option.map_some] at hd
      have hlines : c.line = e.line ∧ d.line = e'.line := by
        constructor
        · split at hc <;> cases hc <;> rfl
        · split at hd <;> cases hd <;> rfl
      have hjoins' : e.joins e' = true := by
        rw [joins_iff, hlines.1, hlines.2] at hjoins
        exact joins_iff.mpr hjoins
      have hsame := h m m' e e' he he' hjoins'
      rw [hreached e e' he he' hjoins'] at hc
      split at hc <;> rename_i hclosed
      · rw [if_pos hclosed] at hd
        cases hc
        cases hd
        rw [hsame]
        rfl
      · rw [if_neg hclosed] at hd
        cases hc
        cases hd
        exact hsame

/-- A client that is taken up is like those on its line, with its token set there. -/
theorem Agrees.onLine_eq (h : s.Agrees) {c d : Client} {m : Nat} (hd : s.clients[m]? = some d)
    (hjoins : c.joins d = true) : s.onLine c = { d.takeToken c.token with host := c.host } := by
  cases hfind : s.clients.find? c.joins with
  | none => exact absurd hjoins (List.find?_eq_none.mp hfind d (List.mem_of_getElem? hd))
  | some e =>
    obtain ⟨m', he⟩ := List.getElem?_of_mem (List.mem_of_find?_eq_some hfind)
    obtain ⟨hline, heq⟩ := joins_iff.mp hjoins
    obtain ⟨-, heq'⟩ := joins_iff.mp (List.find?_some hfind)
    have hsame := h m m' d e hd he (joins_iff.mpr ⟨heq ▸ hline, heq'.trans heq.symm⟩)
    rw [onLine, hfind, hsame]
    simp only [Client.takeToken, heq]

/-- They still agree after one was taken up. -/
theorem Agrees.addClient (h : s.Agrees) (c : Client) : (addClient c s).Agrees := by
  -- each client is the new one, or one that the token of the new one reached if it shares its line
  have hcases (m : Nat) (d : Client) (hd : (Session.addClient c s).clients[m]? = some d) :
      (∃ e, s.clients[m]? = some e ∧ d = if c.joins e then e.takeToken c.token else e) ∨
        d = s.onLine c := by
    have hlt := (List.getElem?_eq_some_iff.mp hd).1
    rw [addClient_length] at hlt
    rcases Nat.lt_or_eq_of_le (Nat.le_of_lt_succ hlt) with hlt | rfl
    · rw [getElem?_addClient c hlt] at hd
      obtain ⟨e, he, rfl⟩ := Option.map_eq_some_iff.mp hd
      exact .inl ⟨e, he, rfl⟩
    · rw [getElem?_addClient_length] at hd
      exact .inr (Option.some.inj hd).symm
  have hline (e : Client) : (if c.joins e then e.takeToken c.token else e).line = e.line := by
    split <;> rfl
  intro m m' d e hd he hjoins
  obtain ⟨hsome, heq⟩ := joins_iff.mp hjoins
  rcases hcases m d hd with ⟨d', hd', rfl⟩ | rfl <;> rcases hcases m' e he with ⟨e', he', rfl⟩ | rfl
  · rw [hline, hline] at heq
    rw [hline] at hsome
    have hsame := h m m' d' e' hd' he' (joins_iff.mpr ⟨hsome, heq⟩)
    have hboth : c.joins e' = c.joins d' := by simp only [Client.joins, heq]
    rw [hboth]
    split
    · rw [hsame]
      rfl
    · exact hsame
  · rw [hline, onLine_line] at heq
    rw [hline] at hsome
    have hd'' : c.joins d' = true := joins_iff.mpr ⟨heq ▸ hsome, heq.symm⟩
    rw [if_pos hd'', h.onLine_eq hd' hd'']
  · rw [hline, onLine_line] at heq
    rw [onLine_line] at hsome
    have he'' : c.joins e' = true := joins_iff.mpr ⟨hsome, heq⟩
    rw [if_pos he'', h.onLine_eq he' he'']
  · rfl

/-- `s.Sound`: the shared client and the one in use are among the clients; the shared one has a line
of its own; and clients that share a line agree. -/
structure Sound (s : Session σ) : Prop where
  shared : ∀ n, s.shared = some n → n < s.clients.length
  current : ∀ n, s.current = some n → n < s.clients.length
  alone : ∀ n c, s.shared = some n → s.clients[n]? = some c → c.line = none
  agrees : s.Agrees

theorem sound_start (env : Environment) (service : σ) : (start env service).Sound :=
  ⟨fun _ h => (nomatch h), fun _ h => (nomatch h), fun _ _ h => (nomatch h),
    fun _ _ _ _ h => (nomatch h)⟩

theorem Sound.shared_eq_none (hs : s.Sound) (h : s.Unshared) : s.shared = none := by
  cases hn : s.shared with
  | none => rfl
  | some n => exact absurd (hs.shared n hn) (Nat.not_lt.mpr (List.getElem?_eq_none_iff.mp (h n hn)))

theorem Sound.eq_of_reaches (hs : s.Sound) {m n : Nat} (hm : s.shared = some m)
    (h : s.reaches m n = true) : n = m := by
  rcases reaches_iff.mp h with heq | ⟨c, d, hc, -, hjoins⟩
  · exact heq
  · exact absurd (hs.alone m c hm hc) (joins_iff.mp hjoins).1

/-- The shared client keeps a line of its own. -/
theorem Sound.alone_of_develops {s' : Session σ} (hs : s.Sound) (hd : s.Develops s')
    (hshared : s'.shared = s.shared) :
    ∀ n c, s'.shared = some n → s'.clients[n]? = some c → c.line = none := by
  intro n c hn hc
  rw [hshared] at hn
  have hc' := List.getElem?_eq_getElem (hs.shared n hn)
  obtain ⟨c', hc'', hbecomes⟩ := hd n _ hc'
  obtain rfl := Option.some.inj (hc''.symm.trans hc)
  exact hbecomes.line.trans (hs.alone n _ hn hc')

theorem Sound.addClient (hs : s.Sound) (c : Client) : (addClient c s).Sound where
  shared n hn := (hs.shared n hn).trans_le (Develops.addClient c s).length_le
  current n hn := by
    cases hn
    simp
  alone := hs.alone_of_develops (.addClient c s) rfl
  agrees := hs.agrees.addClient c

theorem Sound.closeClient? (hs : s.Sound) (n? : Option Nat) : (closeClient? n? s).Sound where
  shared := by simpa using hs.shared
  current := by simpa using hs.current
  alone := hs.alone_of_develops (.closeClient? n? s) (closeClient?_shared n? s)
  agrees := hs.agrees.closeClient? n?

/-- A turn keeps a session sound. -/
theorem Turn.sound (h : Turn remote maxDepth s st r) (hs : s.Sound) : r.world.Sound := by
  -- the numbers of the shared client and of the one in use stay within the list
  induction h with
  | environment env => exact ⟨hs.shared, hs.current, hs.alone, hs.agrees⟩
  | @built _ _ _ _ c hc => exact hs.addClient c
  | unbuilt hc => exact hs
  | reused hn hc =>
    exact ⟨hs.shared, fun m hm => by cases hm; exact hs.shared _ hn, hs.alone, hs.agrees⟩
  | @shared c hu hc =>
    have hadded := hs.addClient c
    refine ⟨hadded.current, hadded.current, fun n c' hn hc' => ?_, hadded.agrees⟩
    cases hn
    obtain rfl := Option.some.inj ((getElem?_addClient_length c s).symm.trans hc')
    rw [onLine_line, Client.line_of_ofEnvironment hc]
  | unshared hu hc => exact hs
  | chosen hc =>
    have hlt := (List.getElem?_eq_some_iff.mp hc).1
    exact ⟨hs.shared, fun m hm => by cases hm; exact hlt, hs.alone, hs.agrees⟩
  | missing hc => exact hs
  | forgotten =>
    have hclosed := hs.closeClient? s.shared
    exact ⟨fun n hn => (nomatch hn), hclosed.current, fun n c hn => (nomatch hn), hclosed.agrees⟩
  | @closed => exact hs.closeClient? s.current
  | inScope _ ih => exact ih.closeClient? s.current
  | refused hst => exact hs
  | idle hst hc => exact hs
  | operated hst hc => exact ⟨hs.shared, hs.current, hs.alone, hs.agrees⟩

/-! ## 5. Scopes -/

/-- **The scopes around a step** change neither what it returns nor what it shows; they close the
client that was in use before. -/
theorem step_core (remote : Http.Remote σ) (maxDepth : Nat) (st : Step) (s : Session σ) :
    (step remote maxDepth st s).result = (step remote maxDepth st.core s).result ∧
      (step remote maxDepth st s).events = (step remote maxDepth st.core s).events ∧
      ((step remote maxDepth st s).world = (step remote maxDepth st.core s).world ∨
        (step remote maxDepth st s).world =
          closeClient? s.current (step remote maxDepth st.core s).world) := by
  induction st with
  | «scoped» inner ih =>
    obtain ⟨hresult, hevents, hworld⟩ := ih
    refine ⟨hresult, hevents, .inr ?_⟩
    show closeClient? s.current (step remote maxDepth inner s).world = _
    rcases hworld with hworld | hworld
    · rw [hworld]
      rfl
    · rw [hworld, closeClient?_idem]
      rfl
  | _ => exact ⟨rfl, rfl, .inl rfl⟩

/-! ## 6. Steps in turn -/

/-- The session after some steps. -/
def after (remote : Http.Remote σ) (maxDepth : Nat) (steps : List Step) (s : Session σ) :
    Session σ :=
  ((run remote maxDepth steps s).getLast?.map Run.world).getD s

@[simp] theorem after_nil (s : Session σ) : after remote maxDepth [] s = s := rfl

@[simp] theorem after_cons (st : Step) (rest : List Step) (s : Session σ) :
    after remote maxDepth (st :: rest) s =
      after remote maxDepth rest (step remote maxDepth st s).world := by
  rw [after, run, List.getLast?_cons, after]
  cases (run remote maxDepth rest (step remote maxDepth st s).world).getLast? <;> rfl

theorem after_append (steps rest : List Step) (s : Session σ) :
    after remote maxDepth (steps ++ rest) s =
      after remote maxDepth rest (after remote maxDepth steps s) := by
  induction steps generalizing s with
  | nil => rfl
  | cons st steps ih => rw [List.cons_append, after_cons, after_cons, ih]

theorem run_append (steps rest : List Step) (s : Session σ) :
    run remote maxDepth (steps ++ rest) s =
      run remote maxDepth steps s ++ run remote maxDepth rest (after remote maxDepth steps s) := by
  induction steps generalizing s with
  | nil => rfl
  | cons st steps ih => simp only [List.cons_append, run, ih, after_cons]

/-- Each step is taken in the session that the steps before it leave. -/
theorem getElem?_run (steps : List Step) (s : Session σ) (i : Nat) :
    (run remote maxDepth steps s)[i]? =
      steps[i]?.map fun st => step remote maxDepth st (after remote maxDepth (steps.take i) s) := by
  induction steps generalizing s i with
  | nil => rfl
  | cons st steps ih =>
    cases i with
    | zero => rfl
    | succ i =>
      rw [run, List.getElem?_cons_succ, ih, List.getElem?_cons_succ, List.take_succ_cons,
        after_cons]

/-- **What every step keeps, all steps keep.** -/
theorem after_induction {p : Session σ → Prop} {steps : List Step}
    (hstep : ∀ st ∈ steps, ∀ s, p s → p (step remote maxDepth st s).world) {s : Session σ}
    (hs : p s) : p (after remote maxDepth steps s) := by
  induction steps generalizing s with
  | nil => exact hs
  | cons st rest ih =>
    rw [after_cons]
    exact ih (fun st' hst' => hstep st' (List.mem_cons_of_mem _ hst'))
      (hstep st List.mem_cons_self s hs)

theorem sound_after (steps : List Step) (env : Environment) (service : σ) :
    (after remote maxDepth steps (start env service)).Sound :=
  after_induction (fun st _ s hs => (turn_step _ _ st s).sound hs) (sound_start env service)

theorem develops_after (remote : Http.Remote σ) (maxDepth : Nat) (steps : List Step)
    (s : Session σ) :
    Develops s (after remote maxDepth steps s) :=
  after_induction (fun st _ s' hs' => hs'.trans (turn_step _ _ st s').develops)
    (.of_clients_eq rfl)

/-! ## 7. Who built a client -/

/-- `BuiltBy remote maxDepth steps s n before st`: of the steps taken in turn from `s`, the one
after `before`, which is `st`, built the client with the number. -/
structure BuiltBy (remote : Http.Remote σ) (maxDepth : Nat) (steps : List Step) (s : Session σ)
    (n : Nat) (before : List Step) (st : Step) : Prop where
  among : before ++ [st] <+: steps
  notBefore : (after remote maxDepth before s).clients.length ≤ n
  thereAfter : n < (after remote maxDepth (before ++ [st]) s).clients.length

end Session

end Workspace
