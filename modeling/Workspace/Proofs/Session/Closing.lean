/-
# Closing

A client is closed by the steps that close the one in use, by forgetting the shared one, and at the
end of a scope, with all who share its line (`Session.Closes`).  A client that is built on a line that
was closed is closed, too (`Session.FindsClosed`).  Those are all the ways there are, and none leads
back (`Turn.isClosed_iff`).

An operation of a closed client is stopped before it sends anything: by the closed client itself, or
by a fault in what was asked for that shows even earlier (`Failure.Unsent`).  `Action.Balks` says
that an action always ends so.  A composition balks if its first part does, so there is one line for
each operation.

`Session.closing_is_final` says what this comes to over all sessions.
-/
import Workspace.Proofs.Http.Posting
import Workspace.Proofs.Session.Credentials
import Workspace.Proofs.Session.Shared
namespace Workspace

variable {σ α β : Type}

/-! ## 1. Operations that send nothing -/

namespace Failure

/-- What stops an operation before it sends anything. -/
inductive Unsent : Failure → Prop
  | closedClient : Unsent .closedClient
  /-- The fields cannot be written as a body. -/
  | nonFiniteNumber : Unsent .nonFiniteNumber
  /-- The name of a language or a format is none. -/
  | notAMember (value : Json) (enumeration : String) : Unsent (.notAMember value enumeration)
  /-- The walk may not list a single directory. -/
  | tooDeep : Unsent .tooDeep

/-- Fields without a payload hold a number that is not finite. -/
theorem unsent_of_ofFields {method : String} {fields : Json.Members} {failure : Failure}
    (h : Http.Payload.ofFields method fields = .error failure) : failure.Unsent := by
  rw [Http.Payload.eq_nonFiniteNumber h]
  exact .nonFiniteNumber

/-- What has no name among the members is no member. -/
theorem unsent_of_name? {named : Option α} {v : Json} {enumeration : String} {failure : Failure}
    (h : named.elim (.error (.notAMember v enumeration)) Except.ok = .error failure) :
    failure.Unsent := by
  cases named with
  | some a => cases h
  | none =>
    cases h
    exact .notAMember v enumeration

theorem unsent_of_language {v : Json} {failure : Failure} (h : Language.ofJson v = .error failure) :
    failure.Unsent := by
  unfold Language.ofJson at h
  split at h
  · exact unsent_of_name? h
  · cases h
    exact .notAMember _ _

theorem unsent_of_format {v : Json} {failure : Failure}
    (h : ExportFormat.ofJson v = .error failure) : failure.Unsent := by
  unfold ExportFormat.ofJson at h
  split at h
  · exact unsent_of_name? h
  · cases h
    exact .notAMember _ _

/-- A name that may be absent is read as the name itself. -/
theorem unsent_of_optional {ofJson : Json → Except Failure α}
    (hof : ∀ v failure, ofJson v = .error failure → failure.Unsent) {v : Json} {failure : Failure}
    (h : Session.optional ofJson v = .error failure) : failure.Unsent := by
  unfold Session.optional at h
  split at h
  · cases h
  · exact hof v failure (map_eq_error_iff.mp h)

end Failure

namespace Action

/-- `x.Balks`: the action always fails, with a failure that stops it before it sends anything. -/
def Balks {ω : Type} (x : Action ω α) : Prop :=
  ∀ w, ∃ failure, failure.Unsent ∧ (x w).result = .error failure

namespace Balks

variable {ω : Type}

theorem bind {x : Action ω α} (hx : Balks x) (f : α → Action ω β) : Balks (x >>= f) := by
  intro w
  obtain ⟨failure, hunsent, hresult⟩ := hx w
  exact ⟨failure, hunsent, by rw [bind_run_error hresult]⟩

theorem map (f : α → β) {x : Action ω α} (hx : Balks x) : Balks (f <$> x) := hx.bind _

theorem log_bind {r : Log.Record} {f : Unit → Action ω α} (hf : Balks (f ())) :
    Balks (Action.log r >>= f) := hf

theorem withLock {x : Action (Wire σ) α} (hx : Balks x) : Balks (Connection.withLock x) :=
  fun w => hx { w with lockHeld := true }

end Balks

end Action

namespace Connection

open Workspace.Action (Balks)

variable {c : Connection σ} (hc : c.client.closed = true)
include hc

/-- **A query of a closed client balks.** -/
theorem balks_query (method path version : String) (fields : Json.Members) :
    Balks (c.client.query c.remote method path version fields) := by
  intro w
  cases hp : Http.Payload.ofFields (Text.upper method) fields with
  | error failure =>
    exact ⟨failure, Failure.unsent_of_ofFields hp, by rw [c.client.query_unsent _ _ _ hp]⟩
  | ok payload => exact ⟨_, .closedClient, by rw [Client.query_closed hc _ _ _ hp]⟩

theorem balks_create (r : ImportRequest) : Balks (c.create r) :=
  .log_bind (.bind (balks_query hc _ _ _ _) _)

theorem balks_read (path : String) : Balks (c.read path) :=
  .log_bind (.bind (balks_query hc _ _ _ _) _)

theorem balks_exportContent (path : String) (format : Option ExportFormat) :
    Balks (c.exportContent path format) := .log_bind (.bind (balks_query hc _ _ _ _) _)

theorem balks_makeDirectories (path : String) : Balks (c.makeDirectories path) :=
  .log_bind (.bind (.withLock (balks_query hc _ _ _ _)) _)

theorem balks_delete (r : DeleteRequest) : Balks (c.delete r) :=
  .log_bind (.bind (balks_query hc _ _ _ _) _)

theorem balks_listDirectory (path : String) : Balks (c.listDirectory path) :=
  .log_bind (.bind (balks_query hc _ _ _ _) _)

/-- A walk balks at its first directory. -/
theorem balks_list (path : String) (recursive : Bool) : Balks (c.list path recursive) := by
  cases recursive with
  | false => exact balks_listDirectory hc path
  | true =>
    have hcollect (depth : Nat) (seen : List String) :
        Balks (collect c.listDirectory depth path seen) := by
      cases depth with
      | zero => exact fun w => ⟨_, .tooDeep, rfl⟩
      | succ depth => exact .bind (balks_listDirectory hc path) _
    exact .bind (.bind (hcollect c.maxDepth _) _) _

end Connection

namespace Step

variable {st : Step}

/-- A step that is refused has sent nothing. -/
theorem unsent_of_refused {failure : Failure} (h : st.operation? σ = some (.error failure)) :
    failure.Unsent := by
  -- only names of formats and languages are refused before anything is sent
  cases st with
  | create path content language format overwrite =>
    simp only [operation?, Option.some.injEq] at h
    cases hf : Session.optional ExportFormat.ofJson format with
    | error failure' =>
      rw [hf] at h
      cases h
      exact Failure.unsent_of_optional (fun _ _ => Failure.unsent_of_format) hf
    | ok f =>
      cases hl : Session.optional Language.ofJson language with
      | error failure' =>
        rw [hf, hl] at h
        cases h
        exact Failure.unsent_of_optional (fun _ _ => Failure.unsent_of_language) hl
      | ok l => rw [hf, hl] at h; cases h
  | exportContent path format =>
    simp only [operation?, Option.some.injEq] at h
    cases hf : Session.optional ExportFormat.ofJson format with
    | error failure' =>
      rw [hf] at h
      cases h
      exact Failure.unsent_of_optional (fun _ _ => Failure.unsent_of_format) hf
    | ok f => rw [hf] at h; cases h
  | _ => cases h

/-- **The operation of a step that asks something of the service** balks if the client is closed. -/
theorem balks_operation {operation : Connection σ → Action (Wire σ) Reply}
    (h : st.operation? σ = some (.ok operation)) (hst : st.asksService = true)
    {c : Connection σ} (hc : c.client.closed = true) : Action.Balks (operation c) := by
  cases performs_of_operation? h with
  | urlFor path version => cases hst
  | query method path version fields => exact .map _ (Connection.balks_query hc _ _ _ _)
  | create path content l f overwrite => exact .bind (Connection.balks_create hc _) _
  | read path => exact .map _ (Connection.balks_read hc path)
  | exportContent path f => exact .map _ (Connection.balks_exportContent hc path f)
  | makeDirectories path => exact .bind (Connection.balks_makeDirectories hc path) _
  | delete path recursive => exact .bind (Connection.balks_delete hc _) _
  | list path recursive => exact .map _ (Connection.balks_list hc path recursive)

end Step

namespace Session

variable {remote : Http.Remote σ} {maxDepth : Nat} {st : Step} {s : Session σ}
  {r : Run (Session σ) Reply} {n : Nat}

/-! ## 2. What a turn closes -/

/-- `s.Closes s' n st`: the step, which leads from `s` to `s'`, closes the client with the number. -/
inductive Closes (s s' : Session σ) (n : Nat) : Step → Prop
  | close {m : Nat} : s.current = some m → s'.reaches m n = true → Closes s s' n .close
  | forgetShared : s.shared = some n → Closes s s' n .forgetShared
  /-- A scope closes the client that is in use when it is entered, and all who share its line. -/
  | scope {inner : Step} {m : Nat} : s.current = some m → s'.reaches m n = true →
      Closes s s' n (.scoped inner)
  | inScope {inner : Step} : Closes s s' n inner → Closes s s' n (.scoped inner)

theorem Closes.operation?_eq_none {s' : Session σ} (h : s.Closes s' n st) :
    st.operation? σ = none := by
  cases h <;> rfl

/-- What a step closes is a matter of the lines. -/
theorem Closes.congr {s' s'' : Session σ} (hs : ∀ m, s''.reaches m n = s'.reaches m n)
    (h : s.Closes s' n st) : s.Closes s'' n st := by
  induction h with
  | close hm hreaches => exact .close hm ((hs _).trans hreaches)
  | forgetShared hn => exact .forgetShared hn
  | scope hm hreaches => exact .scope hm ((hs _).trans hreaches)
  | inScope _ ih => exact .inScope ih

/-- `s.FindsClosed s' n`: of the clients that are new in `s'`, the one with the number shares the line
of a client that is closed in `s`. -/
def FindsClosed (s s' : Session σ) (n : Nat) : Prop :=
  s.clients.length ≤ n ∧ ∃ m, s.IsClosed m ∧ s'.reaches m n = true

theorem not_findsClosed {s' : Session σ} (h : s'.clients.length = s.clients.length) :
    ¬ s.FindsClosed s' n := by
  rintro ⟨hle, m, ⟨c, hc, -⟩, hreaches⟩
  have hm := (List.getElem?_eq_some_iff.mp hc).1
  have hn := lt_of_reaches hreaches (h ▸ hm)
  omega

/-- Which clients are closed after one more was closed. -/
theorem isClosed_closeClient?_iff {n? : Option Nat} :
    (closeClient? n? s).IsClosed n ↔
      s.IsClosed n ∨ n?.any (s.reaches · n) = true ∧ n < s.clients.length := by
  constructor
  · rintro ⟨c, hc, hclosed⟩
    have hlt := (List.getElem?_eq_some_iff.mp hc).1
    rw [closeClient?_length] at hlt
    rw [getElem?_closeClient?] at hc
    split at hc
    · next hn => exact .inr ⟨hn, hlt⟩
    · exact .inl ⟨c, hc, hclosed⟩
  · rintro (h | ⟨hn, hlt⟩)
    · exact (Develops.closeClient? n? s).isClosed h
    · exact isClosed_closeClient? hn hlt

/-- A client that is taken up open is closed only if it finds its line closed. -/
theorem isClosed_addClient_iff {c : Client} (hs : s.Sound) (hc : c.closed = false) :
    (addClient c s).IsClosed n ↔ s.IsClosed n ∨ s.FindsClosed (addClient c s) n := by
  have hnew := getElem?_addClient_length c s
  constructor
  -- those who were there stay open or closed; the new one is closed only by the first on its line
  · rintro ⟨d, hd, hclosed⟩
    have hlt := (List.getElem?_eq_some_iff.mp hd).1
    rw [addClient_length] at hlt
    rcases Nat.lt_or_eq_of_le (Nat.le_of_lt_succ hlt) with hlt | rfl
    · rw [getElem?_addClient c hlt] at hd
      obtain ⟨e, he, rfl⟩ := Option.map_eq_some_iff.mp hd
      refine .inl ⟨e, he, ?_⟩
      split at hclosed <;> exact hclosed
    · obtain rfl := Option.some.inj (hnew.symm.trans hd)
      refine .inr ⟨le_refl _, ?_⟩
      cases hfind : s.clients.find? c.joins with
      | none =>
        rw [onLine, hfind, hc] at hclosed
        cases hclosed
      | some e =>
        obtain ⟨m, he⟩ := List.getElem?_of_mem (List.mem_of_find?_eq_some hfind)
        obtain ⟨hline, heq⟩ := joins_iff.mp (List.find?_some hfind)
        rw [onLine, hfind] at hclosed
        obtain ⟨e', he', hbecomes⟩ := Develops.addClient c s m e he
        refine ⟨m, ⟨e, he, hclosed⟩, reaches_iff.mpr (.inr ⟨e', _, he', hnew, ?_⟩)⟩
        rw [joins_iff, onLine_line, hbecomes.line, heq]
        exact ⟨hline, rfl⟩
  · rintro (hclosed | ⟨hle, m, ⟨d, hd, hclosed⟩, hreaches⟩)
    · exact (Develops.addClient c s).isClosed hclosed
    · have hm := (List.getElem?_eq_some_iff.mp hd).1
      obtain ⟨d', hd', hbecomes⟩ := Develops.addClient c s m d hd
      rcases reaches_iff.mp hreaches with rfl | ⟨e, e', he, he', hjoins⟩
      · omega
      · have hlt := (List.getElem?_eq_some_iff.mp he').1
        rw [addClient_length] at hlt
        obtain rfl : n = s.clients.length := by omega
        obtain rfl := Option.some.inj (hd'.symm.trans he)
        obtain rfl := Option.some.inj (hnew.symm.trans he')
        obtain ⟨hline, heq⟩ := joins_iff.mp hjoins
        rw [onLine_line, hbecomes.line] at heq
        have hshares : c.joins d = true :=
          joins_iff.mpr ⟨by rw [heq, ← hbecomes.line]; exact hline, heq.symm⟩
        refine ⟨_, hnew, ?_⟩
        rw [hs.agrees.onLine_eq hd hshares]
        exact hclosed

/-- A client of one's own is open when it is built. -/
theorem closed_of_ownClient {host : String} {token : Option String} {timeout : Option Json}
    {line : Option Nat} {c : Client} (h : ownClient host token timeout line = .ok c) :
    c.closed = false := by
  obtain ⟨t, c', hc', rfl⟩ := exists_of_ownClient h
  rw [Client.eq_of_build hc']

/-- Forgetting closes the shared client, which reaches itself only. -/
theorem isClosed_forgetShared_iff (hs : s.Sound) :
    (forgetShared s).IsClosed n ↔ s.IsClosed n ∨ s.Closes (forgetShared s) n .forgetShared ∨
      s.FindsClosed (forgetShared s) n := by
  refine isClosed_closeClient?_iff.trans (or_congr_right ⟨?_, ?_⟩)
  · rintro ⟨hreached, -⟩
    obtain ⟨m, hm, hreaches⟩ := (Option.any_eq_true _ _).mp hreached
    exact .inl (.forgetShared (hs.eq_of_reaches hm hreaches ▸ hm))
  · rintro (hcloses | hfinds)
    · cases hcloses with
      | forgetShared hn => exact ⟨by simp [hn], hs.shared n hn⟩
    · exact absurd hfinds (not_findsClosed (closeClient?_length s.shared s))

/-- Closing closes what the client in use reaches. -/
theorem isClosed_closeCurrent_iff (hs : s.Sound) :
    (closeClient? s.current s).IsClosed n ↔ s.IsClosed n ∨
      s.Closes (closeClient? s.current s) n .close ∨
      s.FindsClosed (closeClient? s.current s) n := by
  refine isClosed_closeClient?_iff.trans (or_congr_right ⟨?_, ?_⟩)
  · rintro ⟨hreached, -⟩
    obtain ⟨m, hm, hreaches⟩ := (Option.any_eq_true _ _).mp hreached
    exact .inl (.close hm ((reaches_closeClient? _ s m n).trans hreaches))
  · rintro (hcloses | hfinds)
    · cases hcloses with
      | close hm hreaches =>
        rw [reaches_closeClient?] at hreaches
        exact ⟨(Option.any_eq_true _ _).mpr ⟨_, hm, hreaches⟩,
          lt_of_reaches hreaches (hs.current _ hm)⟩
    · exact absurd hfinds (not_findsClosed (closeClient?_length s.current s))

/-- The end of a scope closes what the client reaches that was in use when it began. -/
theorem isClosed_scope_iff {s' : Session σ} {inner : Step} (hs : s.Sound)
    (hlength : s.clients.length ≤ s'.clients.length)
    (ih : s'.IsClosed n ↔ s.IsClosed n ∨ s.Closes s' n inner ∨ s.FindsClosed s' n) :
    (closeClient? s.current s').IsClosed n ↔ s.IsClosed n ∨
      s.Closes (closeClient? s.current s') n (.scoped inner) ∨
      s.FindsClosed (closeClient? s.current s') n := by
  have hreaches (m : Nat) : (closeClient? s.current s').reaches m n = s'.reaches m n :=
    reaches_closeClient? s.current s' m n
  have hinner : s.Closes (closeClient? s.current s') n inner ↔ s.Closes s' n inner :=
    ⟨.congr fun m => (hreaches m).symm, .congr hreaches⟩
  have hfound : s.FindsClosed (closeClient? s.current s') n ↔ s.FindsClosed s' n := by
    simp only [FindsClosed, hreaches]
  rw [hfound]
  -- the step in the scope comes first, so `ih` is about what it left
  refine isClosed_closeClient?_iff.trans ⟨?_, ?_⟩
  · rintro (hclosed | ⟨hreached, -⟩)
    · rcases ih.mp hclosed with hbefore | hcloses | hfinds
      · exact .inl hbefore
      · exact .inr (.inl (.inScope (hinner.mpr hcloses)))
      · exact .inr (.inr hfinds)
    · obtain ⟨m, hm, hscope⟩ := (Option.any_eq_true _ _).mp hreached
      exact .inr (.inl (.scope hm ((hreaches m).trans hscope)))
  · rintro (hbefore | hcloses | hfinds)
    · exact .inl (ih.mpr (.inl hbefore))
    · cases hcloses with
      | scope hm hscope =>
        rw [hreaches] at hscope
        exact .inr ⟨(Option.any_eq_true _ _).mpr ⟨_, hm, hscope⟩,
          lt_of_reaches hscope ((hs.current _ hm).trans_le hlength)⟩
      | inScope hcloses => exact .inl (ih.mpr (.inr (.inl (hinner.mp hcloses))))
    · exact .inl (ih.mpr (.inr (.inr hfinds)))

/-- **What is closed after a turn** was closed before, or is what the turn closes, or is new on a line
that was closed before. -/
theorem Turn.isClosed_iff (h : Turn remote maxDepth s st r) (hs : s.Sound) :
    r.world.IsClosed n ↔
      s.IsClosed n ∨ s.Closes r.world n st ∨ s.FindsClosed r.world n := by
  -- all but three of the turns close nothing, and they keep the clients or take up an open one
  have hkept {st : Step} {s' : Session σ} (hst : ¬ s.Closes s' n st)
      (hclients : s'.clients = s.clients) :
      s'.IsClosed n ↔ s.IsClosed n ∨ s.Closes s' n st ∨ s.FindsClosed s' n := by
    have hnone : ¬ s.FindsClosed s' n := not_findsClosed (by rw [hclients])
    have hsame : s'.IsClosed n ↔ s.IsClosed n := by rw [IsClosed, IsClosed, hclients]
    simp [hst, hnone, hsame]
  have hadded {st : Step} {s' : Session σ} {c : Client} (hst : ¬ s.Closes s' n st)
      (hclients : s'.clients = (addClient c s).clients) (hc : c.closed = false) :
      s'.IsClosed n ↔ s.IsClosed n ∨ s.Closes s' n st ∨ s.FindsClosed s' n := by
    have hreaches (m : Nat) : s'.reaches m n = (addClient c s).reaches m n :=
      reaches_congr (by rw [hclients]) (by rw [hclients])
    have hsame : s'.IsClosed n ↔ (addClient c s).IsClosed n := by rw [IsClosed, IsClosed, hclients]
    rw [hsame, isClosed_addClient_iff hs hc]
    simp only [hst, false_or, FindsClosed, hreaches]
  induction h with
  | environment env => exact hkept nofun rfl
  | built hc => exact hadded nofun rfl (closed_of_ownClient hc)
  | unbuilt hc => exact hkept nofun rfl
  | reused hn hc => exact hkept nofun rfl
  | shared hu hc => exact hadded nofun rfl (Client.closed_of_ofEnvironment hc)
  | unshared hu hc => exact hkept nofun rfl
  | chosen hc => exact hkept nofun rfl
  | missing hc => exact hkept nofun rfl
  | forgotten => exact isClosed_forgetShared_iff hs
  | closed => exact isClosed_closeCurrent_iff hs
  | inScope hturn ih => exact isClosed_scope_iff hs hturn.develops.length_le ih
  | refused hst => exact hkept (fun h => nomatch h.operation?_eq_none.symm.trans hst) rfl
  | idle hst hc => exact hkept (fun h => nomatch h.operation?_eq_none.symm.trans hst) rfl
  | operated hst hc => exact hkept (fun h => nomatch h.operation?_eq_none.symm.trans hst) rfl

/-! ## 3. What a closed client does -/

/-- **A turn sends nothing through a closed client.** -/
theorem Turn.open_of_mem (h : Turn remote maxDepth s st r) {c : Client}
    (hc : s.currentClient? = some c) {q : Http.Request} (hq : q ∈ r.requests) :
    c.closed = false := by
  induction h with
  | inScope _ ih => exact ih hq
  | @operated _ operation client hst hclient =>
    obtain rfl : client = c := Option.some.inj (hclient.symm.trans hc)
    exact (Step.lockstep_operation hst ⟨remote, client, maxDepth⟩).open_of_mem hq
  | _ => cases hq

/-- **A turn that would ask something of the service** fails if the client in use is closed. -/
theorem Turn.fails_of_closed (h : Turn remote maxDepth s st r) {c : Client}
    (hc : s.currentClient? = some c) (hclosed : c.closed = true)
    (hst : st.core.asksService = true) :
    ∃ failure, failure.Unsent ∧ r.result = .error failure := by
  induction h with
  | inScope _ ih => exact ih hst
  | refused hrefused => exact ⟨_, Step.unsent_of_refused hrefused, rfl⟩
  | idle _ hnone => cases hnone.symm.trans hc
  | @operated st operation client hop hclient =>
    obtain rfl : client = c := Option.some.inj (hclient.symm.trans hc)
    rw [Step.core_of_operation? hop] at hst
    exact Step.balks_operation hop hst (c := ⟨remote, client, maxDepth⟩) hclosed s.wire
  | _ => cases hst

/-! ## 4. Every closing -/

/-- **Closing is final.**  Let some steps be taken in turn from the start, and then one more.

* What is closed afterwards was closed before, or is what this step closes, or was built by it on a
  line that was closed; and it stays closed, whatever comes later.
* What this step sends is made by the client in use, and that client is open.
* If the client in use is closed, a step that asks something of the service sends nothing and fails.
* A scope returns and shows what its step does, and leaves the client that was in use closed. -/
theorem closing_is_final (remote : Http.Remote σ) (maxDepth : Nat) (env : Environment) (service : σ)
    (before : List Step) (st : Step) :
    let s := after remote maxDepth before (start env service)
    let turn := step remote maxDepth st s
    (∀ n, turn.world.IsClosed n ↔
      s.IsClosed n ∨ s.Closes turn.world n st ∨ s.FindsClosed turn.world n) ∧
    (∀ n, s.IsClosed n → ∀ later,
      (after remote maxDepth (before ++ later) (start env service)).IsClosed n) ∧
    (∀ r ∈ turn.requests, ∃ n c, s.current = some n ∧ s.clients[n]? = some c ∧
      c.closed = false ∧ c.Sends r) ∧
    (∀ n, s.current = some n → s.IsClosed n → st.core.asksService = true →
      turn.requests = [] ∧ ∃ failure, failure.Unsent ∧ turn.result = .error failure) ∧
    (∀ inner, st = .scoped inner →
      turn.result = (step remote maxDepth inner s).result ∧
      turn.events = (step remote maxDepth inner s).events ∧
      ∀ n, s.current = some n → turn.world.IsClosed n) := by
  intro s turn
  have hsound : s.Sound := sound_after before env service
  have hturn : Turn remote maxDepth s st turn := turn_step remote maxDepth st s
  refine ⟨fun n => hturn.isClosed_iff hsound, fun n hn later => ?_, fun r hr => ?_,
    fun n hn hclosed hst => ?_, ?_⟩
  · rw [after_append]
    exact (develops_after remote maxDepth later s).isClosed hn
  · obtain ⟨c, hc, hsends⟩ := hturn.sends_of_mem hr
    obtain ⟨n, hn, hclient⟩ := Option.bind_eq_some_iff.mp hc
    exact ⟨n, c, hn, hclient, hturn.open_of_mem hc hr, hsends⟩
  · obtain ⟨c, hclient, hc⟩ := hclosed
    have hcurrent : s.currentClient? = some c := Option.bind_eq_some_iff.mpr ⟨n, hn, hclient⟩
    refine ⟨List.eq_nil_iff_forall_not_mem.mpr fun r hr => ?_,
      hturn.fails_of_closed hcurrent hc hst⟩
    exact absurd (hturn.open_of_mem hcurrent hr) (by simp [hc])
  · rintro inner rfl
    exact ⟨rfl, rfl, fun n hn =>
      (hturn.isClosed_iff hsound).mpr (.inr (.inl (.scope hn (reaches_self _ n))))⟩

namespace Farewell

/-- A client that is asked for in a scope is closed at its end, and is still the shared one. -/
def steps : List Step := [.useShared, .scoped (.read "/x"), .useShared]

end Farewell

/-- The shared client is closed by the scope.  Who asks for it again gets it as it is: it lists
nothing, and it is still closed when it was forgotten and another one took its place. -/
theorem closing_is_final_farewell :
    let s := after Loan.silent 9 Farewell.steps (start Loan.valid [])
    (step Loan.silent 9 (.scoped (.read "/x"))
        (after Loan.silent 9 [.useShared] (start Loan.valid []))).requests.length = 1 ∧
      s.current = some 0 ∧ s.IsClosed 0 ∧
      (step Loan.silent 9 (.list "/r" true) s).requests = [] ∧
      (∃ failure, failure.Unsent ∧
        (step Loan.silent 9 (.list "/r" true) s).result = .error failure) ∧
      (after Loan.silent 9 (Farewell.steps ++ [.forgetShared, .useShared])
        (start Loan.valid [])).IsClosed 0 := by
  intro s
  obtain ⟨-, -, -, -, hscope⟩ := closing_is_final Loan.silent 9 Loan.valid [] [.useShared]
    (.scoped (.read "/x"))
  obtain ⟨-, hkept, -⟩ := closing_is_final Loan.silent 9 Loan.valid []
    [.useShared, .scoped (.read "/x")] .useShared
  obtain ⟨-, hlater, -, hlisted, -⟩ := closing_is_final Loan.silent 9 Loan.valid [] Farewell.steps
    (.list "/r" true)
  have hcurrent : s.current = some 0 := by decide +kernel
  have hclosed : s.IsClosed 0 :=
    hkept 0 ((hscope _ rfl).2.2 0 (by decide +kernel)) [.useShared]
  obtain ⟨hnone, hfails⟩ := hlisted 0 hcurrent hclosed rfl
  exact ⟨by decide +kernel, hcurrent, hclosed, hnone, hfails, hlater 0 hclosed _⟩

end Session

end Workspace
