/-
# The shared client

The shared client is built when it is first asked for and kept until it is forgotten.  Between the
two nothing can replace it: not a change of the environment, not another client, not even closing
it.  `Session.shared_lifecycle` says what this comes to over all sessions.

* No client that was built to be shared is lost while it is open: it is the shared one, or it is
  closed (`Accounted`).
* Who asks for the shared client gets the same one until it is forgotten (`Offers`).
* A failed attempt leaves nothing behind, and in a valid environment no attempt fails.
* The shared client has a line of its own.  Forgetting it builds nothing, and closes no other client.
-/
import Workspace.Proofs.Session.Turn
import Workspace.Script
namespace Workspace.Session

variable {σ : Type} {remote : Http.Remote σ} {maxDepth : Nat} {st : Step} {s s' : Session σ}
  {r : Run (Session σ) Reply} {n : Nat} {host : String} {timeout : Binary64}

/-! ## 1. Who asks for the shared client -/

/-- `s.Offers n host timeout`: the shared client has the number, the host and the timeout. -/
structure Offers (s : Session σ) (n : Nat) (host : String) (timeout : Binary64) : Prop where
  shared : s.shared = some n
  client : ∃ c : Client, s.clients[n]? = some c ∧ c.host = host ∧ c.timeout = timeout

/-- What becomes of a client changes neither its host nor its timeout. -/
theorem Offers.develops (h : s.Offers n host timeout) (hd : s.Develops s')
    (hshared : s'.shared = some n) : s'.Offers n host timeout := by
  obtain ⟨-, c, hc, rfl, rfl⟩ := h
  obtain ⟨c', hc', hbecomes⟩ := hd n c hc
  exact ⟨hshared, c', hc', hbecomes.host, hbecomes.timeout⟩

theorem Offers.not_unshared (h : s.Offers n host timeout) : ¬ s.Unshared := by
  obtain ⟨hshared, c, hc, -⟩ := h
  intro hu
  rw [hu n hshared] at hc
  cases hc

/-- **What comes of asking for the shared client**, in whatever scopes: it is the one that is there,
or it is built, or it cannot be built and nothing changes. -/
theorem useShared_cases (remote : Http.Remote σ) (maxDepth : Nat) (hst : st.core = .useShared)
    (s : Session σ) :
    (∃ n host timeout, s.Offers n host timeout ∧
        (step remote maxDepth st s).result = .ok (.client n host timeout) ∧
        (step remote maxDepth st s).world.Offers n host timeout ∧
        (step remote maxDepth st s).world.clients.length = s.clients.length) ∨
      (∃ c, s.Unshared ∧ Client.ofEnvironment s.environment = .ok c ∧
        (step remote maxDepth st s).result = .ok (.client s.clients.length c.host c.timeout) ∧
        (step remote maxDepth st s).world.Offers s.clients.length c.host c.timeout ∧
        (step remote maxDepth st s).world.clients.length = s.clients.length + 1) ∨
      (∃ failure, s.Unshared ∧ Client.ofEnvironment s.environment = .error failure ∧
        (step remote maxDepth st s).result = .error failure ∧
        (step remote maxDepth st s).world.shared = s.shared ∧
        (step remote maxDepth st s).world.clients.length = s.clients.length) := by
  obtain ⟨hresult, -, hworld⟩ := step_core remote maxDepth st s
  rw [hst] at hresult hworld
  rw [hresult]
  generalize hr : step remote maxDepth .useShared s = r at hworld
  -- the scopes may close a client, which changes nothing that is said here
  have hshared : (step remote maxDepth st s).world.shared = r.world.shared := by
    rcases hworld with h | h <;> simp [h]
  have hlength : (step remote maxDepth st s).world.clients.length = r.world.clients.length := by
    rcases hworld with h | h <;> simp [h]
  have hdevelops : r.world.Develops (step remote maxDepth st s).world := by
    rcases hworld with h | h
    · exact .of_clients_eq (by rw [h])
    · exact h ▸ .closeClient? s.current r.world
  have hoffers {n : Nat} {host : String} {timeout : Binary64}
      (h : r.world.Offers n host timeout) :
      (step remote maxDepth st s).world.Offers n host timeout :=
    h.develops hdevelops (hshared.trans h.shared)
  rw [hshared, hlength]
  have hturn := turn_step remote maxDepth .useShared s
  rw [hr] at hturn
  cases hturn with
  | @reused n c hn hc =>
    have hsame : s.Offers n c.host c.timeout := ⟨hn, c, hc, rfl, rfl⟩
    exact .inl ⟨n, c.host, c.timeout, hsame, rfl, hoffers ⟨hn, c, hc, rfl, rfl⟩, rfl⟩
  | @shared c hu hc =>
    have hnew : (addClient c s).clients[s.clients.length]? = some c := by
      rw [getElem?_addClient_length,
        onLine_of_line_eq_none s (Client.line_of_ofEnvironment hc)]
    exact .inr (.inl ⟨c, hu, hc, rfl, hoffers ⟨rfl, c, hnew, rfl, rfl⟩, by simp [addClient]⟩)
  | @unshared failure hu hc => exact .inr (.inr ⟨failure, hu, hc, rfl, rfl, rfl⟩)
  | refused h => cases h
  | idle h => cases h
  | operated h => cases h

/-- Who asks for the shared client gets it. -/
theorem Offers.result (h : s.Offers n host timeout) (hst : st.core = .useShared) :
    (step remote maxDepth st s).result = .ok (.client n host timeout) := by
  rcases useShared_cases remote maxDepth hst s with
    ⟨m, host', timeout', ⟨hm, c', hc', rfl, rfl⟩, hresult, -⟩ | ⟨c, hu, -⟩ | ⟨failure, hu, -⟩
  · obtain ⟨hn, c, hc, rfl, rfl⟩ := h
    rw [hn] at hm
    cases hm
    rw [hc] at hc'
    cases hc'
    exact hresult
  · exact absurd hu h.not_unshared
  · exact absurd hu h.not_unshared

/-- Who gets a client gets one that is on offer from then on. -/
theorem exists_offers (hst : st.core = .useShared) {reply : Reply}
    (h : (step remote maxDepth st s).result = .ok reply) :
    ∃ n host timeout, reply = .client n host timeout ∧
      (step remote maxDepth st s).world.Offers n host timeout := by
  rcases useShared_cases remote maxDepth hst s with
    ⟨m, host, timeout, -, hresult, hoffers, -⟩ | ⟨c, -, -, hresult, hoffers, -⟩ |
      ⟨failure, -, -, hresult, -⟩
  · exact ⟨m, host, timeout, Except.ok.inj (h.symm.trans hresult), hoffers⟩
  · exact ⟨_, _, _, Except.ok.inj (h.symm.trans hresult), hoffers⟩
  · cases h.symm.trans hresult

/-! ## 2. What is kept -/

/-- **The shared client stays on offer** in every turn but the one that forgets it. -/
theorem Turn.offers (h : Turn remote maxDepth s st r) (hst : st.core ≠ .forgetShared)
    (ho : s.Offers n host timeout) : r.world.Offers n host timeout := by
  refine ho.develops h.develops ?_
  have hne := ho.not_unshared
  induction h with
  | forgotten => exact absurd rfl hst
  | shared hu _ => exact absurd hu hne
  | unshared hu _ => exact absurd hu hne
  | closed => simpa using ho.shared
  | inScope _ ih => simpa using ih hst
  | _ => exact ho.shared

/-- `s.IsClosed n`: the client with the number is closed. -/
def IsClosed (s : Session σ) (n : Nat) : Prop :=
  ∃ c : Client, s.clients[n]? = some c ∧ c.closed = true

theorem Develops.isClosed (h : s.Develops s') (hn : s.IsClosed n) : s'.IsClosed n := by
  obtain ⟨c, hc, hclosed⟩ := hn
  obtain ⟨c', hc', hbecomes⟩ := h n c hc
  exact ⟨c', hc', hbecomes.closed hclosed⟩

theorem isClosed_closeClient? {n? : Option Nat} (hn : n?.any (s.reaches · n) = true)
    (h : n < s.clients.length) : (closeClient? n? s).IsClosed n := by
  refine ⟨s.clients[n].close, ?_, rfl⟩
  rw [getElem?_closeClient?, if_pos hn, List.getElem?_eq_getElem h]
  rfl

/-- `s.Accounted n`: the client with the number is there, and it is the shared one or closed. -/
structure Accounted (s : Session σ) (n : Nat) : Prop where
  there : n < s.clients.length
  shared_or_closed : s.shared = some n ∨ s.IsClosed n

/-- **A client stays accounted for** in every turn: it stops being the shared one only when it is
forgotten, which closes it. -/
theorem Turn.accounted (h : Turn remote maxDepth s st r) (hn : s.Accounted n) :
    r.world.Accounted n := by
  obtain ⟨hlt, hkept⟩ := hn
  refine ⟨hlt.trans_le h.develops.length_le, ?_⟩
  rcases hkept with hshared | hclosed
  · have hne : ¬ s.Unshared := fun hu =>
      absurd (List.getElem?_eq_none_iff.mp (hu n hshared)) (Nat.not_le.mpr hlt)
    induction h with
    | forgotten =>
      have hclosed : (closeClient? s.shared s).IsClosed n :=
        isClosed_closeClient? (by simp [hshared]) hlt
      exact .inr hclosed
    | shared hu _ => exact absurd hu hne
    | unshared hu _ => exact absurd hu hne
    | closed => exact .inl (by simpa using hshared)
    | inScope _ ih =>
      rcases ih with hinner | hinner
      · exact .inl (by simpa using hinner)
      · exact .inr ((Develops.closeClient? s.current _).isClosed hinner)
    | _ => exact .inl hshared
  · exact .inr (h.develops.isClosed hclosed)

/-- A client that is built to be shared is accounted for. -/
theorem accounted_of_built (hst : st.core = .useShared) (hle : s.clients.length ≤ n)
    (hlt : n < (step remote maxDepth st s).world.clients.length) :
    (step remote maxDepth st s).world.Accounted n := by
  refine ⟨hlt, .inl ?_⟩
  rcases useShared_cases remote maxDepth hst s with
    ⟨_, _, _, -, -, -, hlength⟩ | ⟨c, -, -, -, hoffers, hlength⟩ | ⟨_, -, -, -, -, hlength⟩
  · omega
  · obtain rfl : n = s.clients.length := by omega
    exact hoffers.shared
  · omega

/-! ## 3. Forgetting -/

/-- **Forgetting the shared client**, in whatever scopes, leaves none, builds none, and closes no
other but what the scopes close. -/
theorem forgetShared_spec (hst : st.core = .forgetShared) (hs : s.Sound) :
    (step remote maxDepth st s).result = .ok .nothing ∧
      (step remote maxDepth st s).world.shared = none ∧
      (step remote maxDepth st s).world.clients.length = s.clients.length ∧
      ∀ n, s.shared ≠ some n →
        st = .forgetShared ∨ (∀ m, s.current = some m → s.reaches m n = false) →
        (step remote maxDepth st s).world.clients[n]? = s.clients[n]? := by
  have hforget : step remote maxDepth .forgetShared s = ⟨.ok .nothing, [], forgetShared s⟩ := rfl
  -- the shared client has its line for itself, so no other is closed with it
  have hother (n : Nat) (hn : s.shared ≠ some n) :
      (forgetShared s).clients[n]? = s.clients[n]? := by
    show (closeClient? s.shared s).clients[n]? = _
    rw [getElem?_closeClient?, if_neg]
    intro hreached
    obtain ⟨m, hm, hreaches⟩ := (Option.any_eq_true _ _).mp hreached
    exact hn (hs.eq_of_reaches hm hreaches ▸ hm)
  obtain ⟨hresult, -, hworld⟩ := step_core remote maxDepth st s
  rw [hst, hforget] at hresult hworld
  refine ⟨hresult, ?_, ?_, ?_⟩
  · rcases hworld with h | h <;> simp [h, forgetShared]
  · rcases hworld with h | h <;> simp [h, forgetShared]
  · intro n hn hscope
    rcases hscope with rfl | hcurrent
    · exact hother n hn
    · rcases hworld with h | h
      · rw [h, hother n hn]
      -- the scopes close the current client, which does not reach `n`
      · have hunreached : ¬ s.current.any ((forgetShared s).reaches · n) = true := by
          intro hreached
          obtain ⟨m, hm, hreaches⟩ := (Option.any_eq_true _ _).mp hreached
          have hsame : (forgetShared s).reaches m n = s.reaches m n :=
            reaches_closeClient? s.shared s m n
          rw [hsame, hcurrent m hm] at hreaches
          cases hreaches
        rw [h, getElem?_closeClient?, if_neg hunreached, hother n hn]

/-! ## 4. The life of the shared client -/

/-- `BuiltShared remote maxDepth steps s n`: of the steps taken in turn from `s`, the one that built
the client with the number asked for the shared client. -/
def BuiltShared (remote : Http.Remote σ) (maxDepth : Nat) (steps : List Step) (s : Session σ)
    (n : Nat) : Prop :=
  ∃ before st, BuiltBy remote maxDepth steps s n before st ∧ st.core = .useShared

/-- A client that was built to be shared is the shared one or closed, whatever came after. -/
theorem BuiltShared.shared_or_closed {steps : List Step}
    (h : BuiltShared remote maxDepth steps s n) :
    (after remote maxDepth steps s).shared = some n ∨
      (after remote maxDepth steps s).IsClosed n := by
  obtain ⟨before, st, ⟨⟨rest, rfl⟩, hle, hlt⟩, hst⟩ := h
  have hkept (st' : Step) (_ : st' ∈ rest) (s' : Session σ) (hs' : s'.Accounted n) :
      (step remote maxDepth st' s').world.Accounted n := (turn_step _ _ st' s').accounted hs'
  rw [after_append, after_cons, after_nil] at hlt
  rw [after_append, after_append, after_cons, after_nil]
  exact (after_induction hkept (accounted_of_built hst hle hlt)).shared_or_closed

/-- Who asks again, before the shared client is forgotten, gets the same. -/
theorem useShared_again {first second : Step} {between : List Step} {reply : Reply}
    (hfirst : first.core = .useShared) (hsecond : second.core = .useShared)
    (hbetween : ∀ st ∈ between, st.core ≠ .forgetShared)
    (hreply : (step remote maxDepth first s).result = .ok reply) :
    (step remote maxDepth second (after remote maxDepth (first :: between) s)).result =
      .ok reply := by
  obtain ⟨n, host, timeout, rfl, hoffers⟩ := exists_offers hfirst hreply
  have hkept (st : Step) (hmem : st ∈ between) (s' : Session σ) (hs' : s'.Offers n host timeout) :
      (step remote maxDepth st s').world.Offers n host timeout :=
    (turn_step remote maxDepth st s').offers (hbetween st hmem) hs'
  rw [after_cons]
  exact (after_induction hkept hoffers).result hsecond

/-- Who asks and fails leaves no client to be shared. -/
theorem useShared_fails (hst : st.core = .useShared) (hs : s.Sound) {failure : Failure}
    (h : (step remote maxDepth st s).result = .error failure) :
    (step remote maxDepth st s).world.shared = none := by
  rcases useShared_cases remote maxDepth hst s with
    ⟨_, _, _, -, hresult, -⟩ | ⟨_, -, -, hresult, -⟩ | ⟨_, hu, -, -, hshared, -⟩
  · cases hresult.symm.trans h
  · cases hresult.symm.trans h
  · exact hshared.trans (hs.shared_eq_none hu)

/-- In a valid environment, who asks gets a client. -/
theorem useShared_returns (remote : Http.Remote σ) (maxDepth : Nat) (hst : st.core = .useShared)
    (hvalid : s.environment.Valid) :
    ∃ n host timeout, (step remote maxDepth st s).result = .ok (.client n host timeout) := by
  rcases useShared_cases remote maxDepth hst s with
    ⟨n, host, timeout, -, hresult, -⟩ | ⟨c, -, -, hresult, -⟩ | ⟨_, -, hclient, -⟩
  · exact ⟨n, host, timeout, hresult⟩
  · exact ⟨_, c.host, c.timeout, hresult⟩
  · obtain ⟨c, hc⟩ := hvalid.exists_client
    cases hclient.symm.trans hc

/-- **The life of the shared client.**  Let some steps be taken in turn from the start.

* Every client that was built to be shared is the shared one or closed.
* Between two steps that forget the shared client, all who ask for it get the same: once it was
  given out, asking for it never fails, whatever the environment is by then.
* A step that asks for it and fails leaves none; and in a valid environment no such step fails.
* A step that forgets it leaves none, builds none, and closes no client but that and those that its
  scopes close. -/
theorem shared_lifecycle (remote : Http.Remote σ) (maxDepth : Nat) (env : Environment)
    (service : σ) (before : List Step) :
    let s := after remote maxDepth before (start env service)
    (∀ n, BuiltShared remote maxDepth before (start env service) n →
      s.shared = some n ∨ s.IsClosed n) ∧
    (∀ first between second reply, first.core = .useShared → second.core = .useShared →
      (∀ st ∈ between, st.core ≠ .forgetShared) →
      (step remote maxDepth first s).result = .ok reply →
      (step remote maxDepth second
        (after remote maxDepth (before ++ first :: between) (start env service))).result =
          .ok reply) ∧
    (∀ st, st.core = .useShared →
      (∀ failure, (step remote maxDepth st s).result = .error failure →
        (step remote maxDepth st s).world.shared = none) ∧
      (s.environment.Valid → ∃ n host timeout,
        (step remote maxDepth st s).result = .ok (.client n host timeout))) ∧
    (∀ st, st.core = .forgetShared →
      (step remote maxDepth st s).world.shared = none ∧
      (step remote maxDepth st s).world.clients.length = s.clients.length ∧
      ∀ n, s.shared ≠ some n →
        st = .forgetShared ∨ (∀ m, s.current = some m → s.reaches m n = false) →
        (step remote maxDepth st s).world.clients[n]? = s.clients[n]?) := by
  intro s
  have hsound : s.Sound := sound_after before env service
  refine ⟨fun n hn => hn.shared_or_closed, ?_, ?_, ?_⟩
  · intro first between second reply hfirst hsecond hbetween hreply
    rw [after_append]
    exact useShared_again hfirst hsecond hbetween hreply
  · intro st hst
    exact ⟨fun _ h => useShared_fails hst hsound h, useShared_returns remote maxDepth hst⟩
  · intro st hst
    exact (forgetShared_spec hst hsound).2

namespace Loan

/-- An environment from which a client can be built. -/
def valid : Environment := ⟨some "example.com", some "tok", none⟩

/-- An environment without a host. -/
def blank : Environment := ⟨none, some "tok", none⟩

/-- A service that has nothing to say. -/
def silent : Http.Remote (List Http.Outcome) := (Script.mk []).remote

theorem valid_valid : valid.Valid where
  host := by decide +kernel
  timeout _ h := nomatch h
  token := Client.ascii_of_all (by decide)

end Loan

/-- The shared client outlives its environment and a close; when it is forgotten it is closed.
Without a host there is none to begin with. -/
theorem shared_lifecycle_loan :
    (∃ reply, (step Loan.silent 9 .useShared (start Loan.valid [])).result = .ok reply ∧
      (step Loan.silent 9 (Step.scoped .useShared)
        (after Loan.silent 9 [.useShared, .setEnvironment Loan.blank, .close]
          (start Loan.valid []))).result = .ok reply) ∧
      BuiltShared Loan.silent 9 [.useShared, .forgetShared] (start Loan.valid []) 0 ∧
      (after Loan.silent 9 [.useShared, .forgetShared] (start Loan.valid [])).IsClosed 0 ∧
      (∃ failure, (step Loan.silent 9 .useShared (start Loan.blank [])).result = .error failure) ∧
      (step Loan.silent 9 .useShared (start Loan.blank [])).world.shared = none := by
  obtain ⟨-, hkept, hused, -⟩ := shared_lifecycle Loan.silent 9 Loan.valid [] []
  obtain ⟨hclosed, -⟩ := shared_lifecycle Loan.silent 9 Loan.valid [] [.useShared, .forgetShared]
  obtain ⟨-, -, hfailed, -⟩ := shared_lifecycle Loan.silent 9 Loan.blank [] []
  obtain ⟨n, host, timeout, hreply⟩ := (hused .useShared rfl).2 Loan.valid_valid
  have hbuilt : BuiltShared Loan.silent 9 [.useShared, .forgetShared] (start Loan.valid []) 0 :=
    ⟨[], .useShared, ⟨⟨[.forgetShared], rfl⟩, le_refl _, by decide +kernel⟩, rfl⟩
  have hnone : (step Loan.silent 9 .useShared (start Loan.blank [])).result.toOption.isNone := by
    decide +kernel
  refine ⟨⟨_, hreply, ?_⟩, hbuilt, (hclosed 0 hbuilt).resolve_left (by decide +kernel), ?_⟩
  · exact hkept .useShared [.setEnvironment Loan.blank, .close] (Step.scoped .useShared) _ rfl rfl
      (by simp [Step.core]) hreply
  · cases hresult : (step Loan.silent 9 .useShared (start Loan.blank [])).result with
    | ok reply =>
      rw [hresult] at hnone
      cases hnone
    | error failure => exact ⟨⟨failure, rfl⟩, (hfailed .useShared rfl).1 failure hresult⟩

end Workspace.Session
