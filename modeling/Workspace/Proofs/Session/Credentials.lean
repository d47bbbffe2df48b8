/-
# Where tokens go

A session may have many clients, and its environment may change under them.  A client is built for
credentials: a host, a token, and the line to use if one is handed to it.  The host and the line are
fixed from then on, and so is the token of a client with a line of its own.

The token that a client sends is the one that is set on its line.  A line that is handed over to
several clients has room for one token only, and the last client that brings one sets it for all:
so a token can get to a host that it was not given for (`Session.not_forall_confined`).

* `Step.credentials?` are the credentials from which a step builds a client: those that it is given,
  or those of the environment.  `Session.builtFor` lists them for all clients that steps build, and
  `Credentials.tokenAmong` is the token that this list leaves on a line.
* Every turn keeps the clients true to that list (`Turn.isBuiltFor`), and what it sends is made by the
  client in use (`Turn.sends_of_mem`).
* `Session.credentials_confined` puts both together: every request goes to the host of the client
  that sends it, and carries the token of its line, or the user of its URL.
-/
import Workspace.Proofs.Http.Userinfo
import Workspace.Proofs.Session.Turn
import Workspace.Script
namespace Workspace

variable {σ : Type}

/-! ## 1. Credentials -/

/-- A host and a token for it, and the line that is handed over with them. -/
structure Credentials where
  host : String
  token : Option String
  line : Option Nat
  deriving DecidableEq, Repr

/-- The credentials that an environment holds. -/
def Environment.credentials (env : Environment) : Credentials :=
  ⟨normalizeHost (Text.trim (env.host.getD "")), env.token, none⟩

/-- The credentials from which a step builds a client, if it is one that builds clients. -/
def Step.credentials? (env : Environment) : Step → Option Credentials
  | .newClient host token _ line => some ⟨host, token, line⟩
  | .useShared => some env.credentials
  | .scoped inner => inner.credentials? env
  | _ => none

namespace Credentials

variable {k l : Credentials} {ks : List Credentials}

/-- The token that a client built for `k` has, when clients were built for `ks` in turn.  It is its
own if it has a line of its own, and else the last one that came with the line. -/
def tokenAmong (ks : List Credentials) (k : Credentials) : Option String :=
  if k.line = none then nonEmpty? k.token
  else (ks.filterMap fun l => if l.line = k.line then nonEmpty? l.token else none).getLast?

theorem tokenAmong_of_line_eq_none (ks : List Credentials) (h : k.line = none) :
    k.tokenAmong ks = nonEmpty? k.token := if_pos h

theorem tokenAmong_congr (h : k.line ≠ none) (hline : l.line = k.line) :
    l.tokenAmong ks = k.tokenAmong ks := by
  rw [tokenAmong, tokenAmong, hline, if_neg h, if_neg h]

theorem tokenAmong_append_of_line (h : k.line ≠ none) (hline : l.line = k.line) :
    k.tokenAmong (ks ++ [l]) = (nonEmpty? l.token).or (k.tokenAmong ks) := by
  rw [tokenAmong, tokenAmong, if_neg h, if_neg h, List.filterMap_append, List.getLast?_append]
  cases htoken : nonEmpty? l.token <;> simp [hline, htoken]

theorem tokenAmong_append_of_ne (h : k.line ≠ none → l.line ≠ k.line) :
    k.tokenAmong (ks ++ [l]) = k.tokenAmong ks := by
  by_cases hnone : k.line = none
  · rw [tokenAmong_of_line_eq_none _ hnone, tokenAmong_of_line_eq_none _ hnone]
  · rw [tokenAmong, tokenAmong, if_neg hnone, if_neg hnone, List.filterMap_append]
    simp [h hnone]

theorem tokenAmong_eq_none (h : k.line ≠ none) (hks : ∀ l ∈ ks, l.line ≠ k.line) :
    k.tokenAmong ks = none := by
  have hnil : (ks.filterMap fun l => if l.line = k.line then nonEmpty? l.token else none) = [] :=
    List.filterMap_eq_nil_iff.mpr fun l hl => if_neg (hks l hl)
  rw [tokenAmong, if_neg h, hnil]
  rfl

end Credentials

namespace Client

variable {c : Client} {k : Credentials} {ks : List Credentials} {r : Http.Request}

/-- `c.IsFor k token`: the client has the host and the line of the credentials, and the token. -/
structure IsFor (c : Client) (k : Credentials) (token : Option String) : Prop where
  host : c.host = Text.trimEnd '/' k.host
  line : c.line = k.line
  token : c.token = token

/-- A host loses slashes only. -/
theorem IsFor.host_subset {token : Option String} (h : c.IsFor k token) :
    c.host.toList ⊆ k.host.toList := by
  obtain ⟨run, hrun, -⟩ := Text.exists_append_dropEndWhile (· == '/') k.host.toList
  rw [h.host, Text.trimEnd, String.toList_ofList]
  exact fun x hx => hrun ▸ List.mem_append_left run hx

/-- The client of an environment is built for the credentials that it holds. -/
theorem isFor_of_ofEnvironment {env : Environment} (h : ofEnvironment env = .ok c) :
    c.IsFor env.credentials (nonEmpty? env.credentials.token) := by
  obtain ⟨s, hs, rfl⟩ := exists_settings h
  constructor
  · rw [Settings.host_of_load hs, Environment.credentials]
  · rfl
  · rw [Settings.token_of_load hs, nonEmpty?_nonEmpty?, Environment.credentials]

theorem Sends.base (h : c.Sends r) : ∃ rest, r.base = c.host ++ "/api/" ++ rest := by
  obtain ⟨method, path, version, payload, locked, rfl⟩ := h
  exact ⟨version ++ "/" ++ Text.trimStart '/' path, by
    simp only [request, urlFor, String.append_assoc]⟩

theorem Sends.url (h : c.Sends r) : ∃ rest, r.url = c.host ++ "/api/" ++ rest := by
  obtain ⟨rest, hbase⟩ := h.base
  unfold Http.Request.url
  split
  · exact ⟨rest, hbase⟩
  · exact ⟨rest ++ "?" ++ Form.encode r.query, by rw [hbase]; simp only [String.append_assoc]⟩

/-- What a client sends carries the user of the URL or its token, or nothing. -/
theorem Sends.authorization (h : c.Sends r) :
    r.authorization = (Http.Userinfo.ofUrl? r.base).or (c.token.map bearer) := by
  obtain ⟨method, path, version, payload, locked, rfl⟩ := h
  rw [request, Client.authorization]

end Client

namespace Session

variable {remote : Http.Remote σ} {maxDepth : Nat} {st : Step} {s : Session σ}
  {r : Run (Session σ) Reply} {n : Nat} {c : Client} {k : Credentials} {ks : List Credentials}

/-! ## 2. What a turn builds, and what it sends -/

theorem isFor_of_ownClient {host : String} {token : Option String} {timeout : Option Json}
    {line : Option Nat} (h : ownClient host token timeout line = .ok c) :
    c.IsFor ⟨host, token, line⟩ (nonEmpty? token) := by
  obtain ⟨t, c', hc', rfl⟩ := exists_of_ownClient h
  rw [Client.eq_of_build hc']
  exact ⟨rfl, rfl, rfl⟩

/-- `s.IsBuiltFor ks`: the clients were built for the credentials, each for those with its number,
and they have the tokens that these leave on their lines. -/
structure IsBuiltFor (s : Session σ) (ks : List Credentials) : Prop where
  length : ks.length = s.clients.length
  isFor : ∀ (n : Nat) (c : Client) (k : Credentials), s.clients[n]? = some c → ks[n]? = some k →
    c.IsFor k (k.tokenAmong ks)

namespace IsBuiltFor

theorem of_clients_eq {s' : Session σ} (h : s.IsBuiltFor ks) (hs' : s'.clients = s.clients) :
    s'.IsBuiltFor ks := ⟨hs' ▸ h.length, hs' ▸ h.isFor⟩

/-- Closing a client changes neither its host nor its line nor its token. -/
theorem closeClient? (h : s.IsBuiltFor ks) (n? : Option Nat) :
    (closeClient? n? s).IsBuiltFor ks := by
  refine ⟨h.length.trans (closeClient?_length n? s).symm, fun m c k hc hk => ?_⟩
  rw [getElem?_closeClient?] at hc
  split at hc
  · obtain ⟨c', hc', rfl⟩ := Option.map_eq_some_iff.mp hc
    obtain ⟨hhost, hline, htoken⟩ := h.isFor m c' k hc' hk
    exact ⟨hhost, hline, htoken⟩
  · exact h.isFor m c k hc hk

/-- For each client there are credentials. -/
theorem exists_credentials (h : s.IsBuiltFor ks) (hc : s.clients[n]? = some c) :
    ∃ k, ks[n]? = some k ∧ c.IsFor k (k.tokenAmong ks) := by
  have hlt := (List.getElem?_eq_some_iff.mp hc).1
  rw [← h.length] at hlt
  exact ⟨ks[n], List.getElem?_eq_getElem hlt,
    h.isFor n c _ hc (List.getElem?_eq_getElem hlt)⟩

/-- The token that a new client finds on its line, unless it brings one. -/
theorem token_onLine (h : s.IsBuiltFor ks) (hc : c.IsFor k (nonEmpty? k.token)) :
    (s.onLine c).token = k.tokenAmong (ks ++ [k]) := by
  by_cases hline : k.line = none
  · rw [onLine_of_line_eq_none s (hc.line.trans hline), hc.token,
      Credentials.tokenAmong_of_line_eq_none _ hline]
  · rw [Credentials.tokenAmong_append_of_line hline rfl, onLine]
    split
    -- nobody is on the line yet
    · next hnone =>
      have hothers : ∀ l ∈ ks, l.line ≠ k.line := by
        intro l hl heq
        obtain ⟨m, hm⟩ := List.getElem?_of_mem hl
        have hlt := (List.getElem?_eq_some_iff.mp hm).1
        rw [h.length] at hlt
        have hd := List.getElem?_eq_getElem hlt
        have hjoins : c.joins s.clients[m] = true :=
          joins_iff.mpr ⟨hc.line ▸ hline, (h.isFor m _ l hd hm).line.trans (heq.trans hc.line.symm)⟩
        exact List.find?_eq_none.mp hnone _ (List.getElem_mem hlt) hjoins
      rw [Credentials.tokenAmong_eq_none hline hothers, Option.or_none, hc.token]
    -- who is on the line already shows its token
    · next d hfind =>
      obtain ⟨m, hd⟩ := List.getElem?_of_mem (List.mem_of_find?_eq_some hfind)
      obtain ⟨l, -, hfor⟩ := h.exists_credentials hd
      have hsame : l.line = k.line :=
        hfor.line.symm.trans ((joins_iff.mp (List.find?_some hfind)).2.trans hc.line)
      show c.token.or d.token = _
      rw [hc.token, hfor.token, Credentials.tokenAmong_congr hline hsame]

/-- **A client that is taken up** sets its token on its line, and on no other. -/
theorem addClient (h : s.IsBuiltFor ks) (hc : c.IsFor k (nonEmpty? k.token)) :
    (addClient c s).IsBuiltFor (ks ++ [k]) := by
  refine ⟨by simp [h.length], fun m d l hd hl => ?_⟩
  have hlt := (List.getElem?_eq_some_iff.mp hd).1
  rw [addClient_length] at hlt
  rcases Nat.lt_or_eq_of_le (Nat.le_of_lt_succ hlt) with hlt | rfl
  · rw [getElem?_addClient c hlt] at hd
    rw [List.getElem?_append_left (h.length ▸ hlt)] at hl
    obtain ⟨e, he, rfl⟩ := Option.map_eq_some_iff.mp hd
    obtain ⟨hhost, hline, htoken⟩ := h.isFor m e l he hl
    -- a client on the same line takes the token, any other keeps its own
    by_cases hjoins : c.joins e = true
    · obtain ⟨hsome, heq⟩ := joins_iff.mp hjoins
      have hl : k.line = l.line := by rw [← hline, heq, hc.line]
      have hshared : l.line ≠ none := by rw [← hl, ← hc.line]; exact hsome
      rw [if_pos hjoins]
      refine ⟨hhost, hline, ?_⟩
      show c.token.or e.token = _
      rw [Credentials.tokenAmong_append_of_line hshared hl, hc.token, htoken]
    · have hother (hshared : l.line ≠ none) : k.line ≠ l.line := fun heq =>
        hjoins (joins_iff.mpr ⟨by rw [hc.line, heq]; exact hshared, by rw [hline, hc.line, heq]⟩)
      rw [if_neg hjoins, Credentials.tokenAmong_append_of_ne hother]
      exact ⟨hhost, hline, htoken⟩
  · rw [getElem?_addClient_length] at hd
    obtain rfl := Option.some.inj hd
    rw [← h.length, List.getElem?_concat_length] at hl
    obtain rfl := Option.some.inj hl
    exact ⟨(onLine_host s c).trans hc.host, (onLine_line s c).trans hc.line, h.token_onLine hc⟩

end IsBuiltFor

/-- The credentials of the client that a step builds, if it builds one. -/
def newlyFor (st : Step) (s s' : Session σ) : List Credentials :=
  if s.clients.length < s'.clients.length then (st.credentials? s.environment).toList else []

theorem newlyFor_of_length_eq {s' : Session σ} (h : s'.clients.length = s.clients.length) :
    newlyFor st s s' = [] := if_neg (by omega)

/-- **A turn keeps the clients true to the list**, to which it adds those for which it builds. -/
theorem Turn.isBuiltFor (h : Turn remote maxDepth s st r) (hs : s.IsBuiltFor ks) :
    r.world.IsBuiltFor (ks ++ newlyFor st s r.world) := by
  -- most turns build no client, and the others one
  have hkept {st : Step} {s' : Session σ} (hs' : s'.IsBuiltFor ks)
      (hlength : s'.clients.length = s.clients.length) :
      s'.IsBuiltFor (ks ++ newlyFor st s s') := by
    rw [newlyFor_of_length_eq hlength, List.append_nil]
    exact hs'
  have hadded {st : Step} {c : Client} {k : Credentials} {s' : Session σ}
      (hs' : s'.clients = (addClient c s).clients) (hk : st.credentials? s.environment = some k)
      (hc : c.IsFor k (nonEmpty? k.token)) : s'.IsBuiltFor (ks ++ newlyFor st s s') := by
    rw [newlyFor, hk, if_pos (by simp [hs'])]
    exact (hs.addClient hc).of_clients_eq hs'
  induction h with
  | environment env => exact hkept (hs.of_clients_eq rfl) rfl
  | built hc => exact hadded rfl rfl (isFor_of_ownClient hc)
  | unbuilt hc => exact hkept hs rfl
  | reused hn hc => exact hkept (hs.of_clients_eq rfl) rfl
  | shared hu hc => exact hadded rfl rfl (Client.isFor_of_ofEnvironment hc)
  | unshared hu hc => exact hkept hs rfl
  | chosen hc => exact hkept (hs.of_clients_eq rfl) rfl
  | missing hc => exact hkept hs rfl
  | forgotten =>
    exact hkept ((hs.closeClient? s.shared).of_clients_eq rfl) (closeClient?_length s.shared s)
  | closed => exact hkept (hs.closeClient? s.current) (closeClient?_length s.current s)
  | @inScope inner run _ ih =>
    -- the end of a scope closes a client and builds none
    have hsame : newlyFor (.scoped inner) s (Session.closeClient? s.current run.world) =
        newlyFor inner s run.world := by
      rw [newlyFor, newlyFor, closeClient?_length]
      rfl
    rw [hsame]
    exact ih.closeClient? s.current
  | refused hst => exact hkept hs rfl
  | idle hst hc => exact hkept hs rfl
  | operated hst hc => exact hkept (hs.of_clients_eq rfl) rfl

/-- **What a turn sends is made by the client in use.** -/
theorem Turn.sends_of_mem (h : Turn remote maxDepth s st r) {q : Http.Request}
    (hq : q ∈ r.requests) : ∃ c, s.currentClient? = some c ∧ c.Sends q := by
  induction h with
  | inScope _ ih => exact ih hq
  | @operated _ operation client hst hclient =>
    refine ⟨client, hclient, ?_⟩
    exact (Step.lockstep_operation hst ⟨remote, client, maxDepth⟩).sends_of_mem hq
  | _ => cases hq

/-! ## 3. For what clients were built -/

/-- The credentials for which steps, taken in turn, build clients. -/
def builtFor (remote : Http.Remote σ) (maxDepth : Nat) : List Step → Session σ → List Credentials
  | [], _ => []
  | st :: rest, s =>
    let s' := (step remote maxDepth st s).world
    newlyFor st s s' ++ builtFor remote maxDepth rest s'

/-- **After any steps** the clients are those that were built for the list. -/
theorem isBuiltFor_after (remote : Http.Remote σ) (maxDepth : Nat) (steps : List Step)
    (hs : s.IsBuiltFor ks) :
    (after remote maxDepth steps s).IsBuiltFor (ks ++ builtFor remote maxDepth steps s) := by
  induction steps generalizing s ks with
  | nil =>
    rw [builtFor, List.append_nil]
    exact hs
  | cons st rest ih =>
    rw [after_cons, builtFor, ← List.append_assoc]
    exact ih ((turn_step remote maxDepth st s).isBuiltFor hs)

theorem isBuiltFor_start (env : Environment) (service : σ) : (start env service).IsBuiltFor [] :=
  ⟨rfl, fun _ _ _ h => nomatch h⟩

/-! ## 4. Every request -/

/-- **Where tokens go.**  Let some steps be taken in turn from the start.  Whenever one of them
sends a request, there is a client in use, which was built for a host and a token.  The request goes
to that host.  It carries the user in its URL if there is one, and else the token of the line of the
client, if there is one.

So if the host names no user and the line was not handed over, the request carries the token that
the client was built for, and nothing if that is empty or there is none. -/
theorem credentials_confined (remote : Http.Remote σ) (maxDepth : Nat) (env : Environment)
    (service : σ) (steps : List Step) {i : Nat} {turn : Run (Session σ) Reply}
    (hturn : (run remote maxDepth steps (start env service))[i]? = some turn) {r : Http.Request}
    (hr : r ∈ turn.requests) :
    let s := after remote maxDepth (steps.take i) (start env service)
    let ks := builtFor remote maxDepth (steps.take i) (start env service)
    ∃ n c k, s.current = some n ∧ s.clients[n]? = some c ∧ ks[n]? = some k ∧
      c.host = Text.trimEnd '/' k.host ∧
      (∃ rest, r.url = c.host ++ "/api/" ++ rest) ∧
      r.authorization =
        (Http.Userinfo.ofUrl? r.base).or ((k.tokenAmong ks).map Client.bearer) ∧
      ('@' ∉ k.host.toList → k.line = none →
        (∀ token, k.token = some token → token ≠ "" →
          r.authorization = some ("Bearer " ++ token)) ∧
        (k.token = none ∨ k.token = some "" → r.authorization = none)) := by
  intro s ks
  have hbuilt : s.IsBuiltFor ks :=
    isBuiltFor_after remote maxDepth (steps.take i) (isBuiltFor_start env service)
  rw [getElem?_run] at hturn
  -- what the steps before have left is true to what they built for; the turn is one step from there
  obtain ⟨st, -, rfl⟩ := Option.map_eq_some_iff.mp hturn
  obtain ⟨c, hcurrent, hsends⟩ := (turn_step remote maxDepth st s).sends_of_mem hr
  obtain ⟨n, hn, hc⟩ := Option.bind_eq_some_iff.mp hcurrent
  obtain ⟨k, hk, hfor⟩ := hbuilt.exists_credentials hc
  refine ⟨n, c, k, hn, hc, hk, hfor.host, hsends.url, ?_, fun huser hline => ?_⟩
  · rw [hsends.authorization, hfor.token]
  · have hauthorization : r.authorization = (nonEmpty? k.token).map Client.bearer := by
      -- the base URL adds no at sign to the host
      have hnone : Http.Userinfo.ofUrl? r.base = none := by
        obtain ⟨rest, hbase⟩ := hsends.base
        rw [hbase]
        exact Http.Userinfo.ofUrl?_eq_none (fun hat => huser (hfor.host_subset hat)) rest
      rw [hsends.authorization, hnone, Option.none_or, hfor.token,
        Credentials.tokenAmong_of_line_eq_none ks hline]
    refine ⟨fun token htoken hne => ?_, ?_⟩
    · rw [hauthorization, htoken, nonEmpty?_some hne]
      rfl
    · rintro (htoken | htoken)
      · rw [hauthorization, htoken]
        rfl
      · rw [hauthorization, htoken]
        rfl

/-! ## 5. Lines that are handed over -/

/-- `Confined remote maxDepth env service steps`: whatever the steps send carries the token that the
client in use was built for, and goes to its host. -/
def Confined (remote : Http.Remote σ) (maxDepth : Nat) (env : Environment) (service : σ)
    (steps : List Step) : Prop :=
  ∀ (i : Nat) (turn : Run (Session σ) Reply),
    (run remote maxDepth steps (start env service))[i]? = some turn → ∀ r ∈ turn.requests,
      ∃ n k, (after remote maxDepth (steps.take i) (start env service)).current = some n ∧
        (builtFor remote maxDepth (steps.take i) (start env service))[n]? = some k ∧
        (∃ rest, r.url = Text.trimEnd '/' k.host ++ "/api/" ++ rest) ∧
        r.authorization = (nonEmpty? k.token).map Client.bearer

/-- It cannot be so if a client sends something else. -/
theorem not_confined {env : Environment} {service : σ} {steps : List Step} {i : Nat}
    (authorization : Option String) (hst : steps[i]? = some st)
    (hsent : (step remote maxDepth st
      (after remote maxDepth (steps.take i) (start env service))).requests.map
        Http.Request.authorization = [authorization])
    (hn : (after remote maxDepth (steps.take i) (start env service)).current = some n)
    (hk : (builtFor remote maxDepth (steps.take i) (start env service))[n]? = some k)
    (hne : authorization ≠ (nonEmpty? k.token).map Client.bearer) :
    ¬ Confined remote maxDepth env service steps := by
  intro h
  obtain ⟨r, hr, rfl⟩ := List.exists_of_mem_map (hsent ▸ List.mem_singleton_self authorization)
  obtain ⟨n', k', hn', hk', -, hcarries⟩ := h i _ (by rw [getElem?_run, hst]; rfl) r hr
  obtain rfl := Option.some.inj (hn.symm.trans hn')
  obtain rfl := Option.some.inj (hk.symm.trans hk')
  exact hne hcarries

namespace Move

/-- The environment at the start. -/
def here : Environment := ⟨some "example.com/", some "tok", none⟩

/-- Another environment. -/
def there : Environment := ⟨some "other.example", some "key", none⟩

/-- The shared client is built, another one, too, and the environment changes. -/
def steps : List Step :=
  [.useShared, .newClient "https://third.example" none none none, .setEnvironment there,
    .useShared, .read "/x"]

/-- One line is handed to two clients, for two hosts with a token each. -/
def lent : List Step :=
  [.newClient "https://a.example" (some "key-a") none (some 0),
    .newClient "https://b.example" (some "key-b") none (some 0), .useClient 0, .read "/x"]

/-- A client is built for a host with a user in front of it. -/
def named : List Step :=
  [.newClient "https://u:p@example.com" (some "tok") none none, .read "/x"]

/-- A service that has nothing to say. -/
def silent : Http.Remote (List Http.Outcome) := (Script.mk []).remote

end Move

/-- The shared client goes on to send the first token to the first host. -/
theorem credentials_confined_move :
    ∃ turn r, (run Move.silent 9 Move.steps (start Move.here []))[4]? = some turn ∧
      turn.requests = [r] ∧ (∃ rest, r.url = "https://example.com/api/" ++ rest) ∧
      r.authorization = some "Bearer tok" := by
  have hturn : (run Move.silent 9 Move.steps (start Move.here []))[4]? =
      some (step Move.silent 9 (.read "/x")
        (after Move.silent 9 (Move.steps.take 4) (start Move.here []))) := by
    rw [getElem?_run]
    rfl
  have hlength : (step Move.silent 9 (.read "/x")
      (after Move.silent 9 (Move.steps.take 4) (start Move.here []))).requests.length = 1 := by
    decide +kernel
  have hcurrent :
      (after Move.silent 9 (Move.steps.take 4) (start Move.here [])).current = some 0 := by
    decide +kernel
  have hbuilt : (builtFor Move.silent 9 (Move.steps.take 4) (start Move.here []))[0]? =
      some ⟨"https://example.com", some "tok", none⟩ := by decide +kernel
  obtain ⟨r, hr⟩ := List.length_eq_one_iff.mp hlength
  obtain ⟨n, c, k, hn, hc, hk, hhost, hurl, -, hcarries⟩ := credentials_confined Move.silent 9
    Move.here [] Move.steps hturn (hr ▸ List.mem_singleton_self r)
  rw [hcurrent] at hn
  cases hn
  obtain rfl := Option.some.inj (hbuilt.symm.trans hk)
  have htrim : Text.trimEnd '/' "https://example.com" = "https://example.com" := by decide +kernel
  rw [hhost, htrim] at hurl
  exact ⟨_, r, hturn, hr, hurl, (hcarries (by decide) rfl).1 "tok" rfl (by decide)⟩

/-- **Tokens get around.**  The second token of a line goes to the host of the first, and a user in
the host takes the place of the token. -/
theorem not_forall_confined :
    ¬ Confined Move.silent 9 Move.here [] Move.lent ∧
      ¬ Confined Move.silent 9 Move.here [] Move.named := by
  constructor
  · have hbuilt : (builtFor Move.silent 9 (Move.lent.take 3) (start Move.here []))[0]? =
        some ⟨"https://a.example", some "key-a", some 0⟩ := by decide +kernel
    exact not_confined (some "Bearer key-b") (i := 3) rfl (by decide +kernel) (by decide +kernel)
      hbuilt (by decide +kernel)
  · have hbuilt : (builtFor Move.silent 9 (Move.named.take 1) (start Move.here []))[0]? =
        some ⟨"https://u:p@example.com", some "tok", none⟩ := by decide +kernel
    exact not_confined (some "Basic dTpw") (i := 1) rfl (by decide +kernel) (by decide +kernel)
      hbuilt (by decide +kernel)

end Session

end Workspace
