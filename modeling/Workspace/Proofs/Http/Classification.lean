/-
# How a response without success is classified

The error of a response is put together from two readings of its body.  What the caller acts on, the
kind and the code, comes from the bytes and the status; only the message comes from the text, which
the headers have a say in.

* `Response.Says` is what a body says under a key, and `Response.Recognises` the kind that its error
  code tells, if that code is known.
* `Error.Classifies` holds what is promised of the error of a response.
* `toError_classifies`: every response has such an error, unless it is `Response.Unreadable`, and two
  responses of one status and one body have the same kind and code.  A query fails with that very
  error.  An error for every response is too much to ask (`not_forall_classifies`).
-/
import Workspace.Proofs.Exchange
import Workspace.Proofs.Http.Posting
import Workspace.Proofs.Http.Reading
namespace Workspace

variable {σ : Type}

/-! ## 1. Kinds -/

namespace ErrorKind

/-- The kinds that no response tells of: these are for exchanges without a response, and for
successful ones with a bad body. -/
def Foreign (kind : ErrorKind) : Prop :=
  kind = timeout ∨ kind = networkError ∨ kind = malformedResponse

/-- Only a status below the errors is unknown. -/
theorem ofStatus_eq_unknown_iff (status : Int) : ofStatus status = unknown ↔ status < 400 := by
  grind [ofStatus]

theorem not_foreign_ofStatus (status : Int) : ¬ (ofStatus status).Foreign := by
  grind [ofStatus, Foreign]

/-- A code that is known tells a kind that is neither unknown nor foreign. -/
theorem of_lookup_codes {code : String} {kind : ErrorKind} (h : codes.lookup code = some kind) :
    kind ≠ unknown ∧ ¬ kind.Foreign := by
  obtain ⟨before, after, heq, -⟩ := List.lookup_eq_some_iff.mp h
  have hmem : (code, kind) ∈ codes := heq ▸ List.mem_append_right _ List.mem_cons_self
  simp only [codes, List.mem_cons, Prod.mk.injEq, List.not_mem_nil, or_false] at hmem
  rcases hmem with ⟨-, rfl⟩ | ⟨-, rfl⟩ | ⟨-, rfl⟩ | ⟨-, rfl⟩ | ⟨-, rfl⟩ <;> simp [Foreign]

end ErrorKind

/-! ## 2. Bodies -/

namespace Http.Response

/-- `r.Says key text`: the body is a JSON object that has the text under the key. -/
def Says (r : Response) (key text : String) : Prop :=
  ∃ members : Json.Members, Json.ofBytes r.body = .ok (.object members) ∧
    members.get? key = some (.string text)

/-- `r.Recognises kind`: the error code in the body is known, and tells the kind. -/
def Recognises (r : Response) (kind : ErrorKind) : Prop :=
  ∃ code, r.Says "error_code" code ∧ ErrorKind.codes.lookup code = some kind

variable {r : Response}

/-- The members of the body are those of the object that it is. -/
theorem get?_bodyMembers_iff {key : String} {v : Json} :
    r.bodyMembers.get? key = some v ↔
      ∃ members : Json.Members, Json.ofBytes r.body = .ok (.object members) ∧
        members.get? key = some v := by
  unfold bodyMembers
  split
  · next members hbody =>
    rw [hbody]
    exact ⟨fun h => ⟨members, rfl, h⟩, by rintro ⟨_, ⟨⟩, h⟩; exact h⟩
  · next hbody => exact ⟨nofun, by rintro ⟨members, h, -⟩; exact absurd h (hbody members)⟩

theorem errorCode?_eq_some_iff {code : String} :
    r.errorCode? = some code ↔ r.Says "error_code" code := by
  rw [Says, ← get?_bodyMembers_iff, errorCode?]
  split
  · next text h => simp [h]
  · next h => exact ⟨nofun, fun hcode => absurd hcode (h code)⟩

theorem toError_eq_error_iff {fault : ReadFault} :
    r.toError = .error fault ↔ r.Unreadable fault := by
  rw [toError, map_eq_error_iff, text_eq_error_iff]

/-- The message in a body is not empty. -/
theorem ne_empty_of_bodyMessage? {message : String} (h : r.bodyMessage? = some message) :
    message ≠ "" := by
  unfold bodyMessage? at h
  split at h
  · split at h
    · cases h
    · next hne =>
      cases h
      simpa using hne
  · cases h

/-- The message that stands in for one is not empty either. -/
theorem fallbackMessage_ne_empty (r : Response) (text : String) : r.fallbackMessage text ≠ "" := by
  unfold fallbackMessage
  simp only
  split
  · next h => simpa using h
  · split
    · next h => simpa using h
    · exact fun h => absurd (String.append_eq_empty_iff.mp h).1 (by decide)

theorem kind_of_recognises {kind : ErrorKind} (h : r.Recognises kind) (text : String) :
    (r.errorWith text).kind = kind := by
  obtain ⟨code, hsays, hkind⟩ := h
  simp only [errorWith, errorCode?_eq_some_iff.mpr hsays, Option.getD_some, hkind]

/-- The kind of a response whose code is not known, or that has none. -/
theorem kind_of_not_recognises (h : ∀ kind, ¬ r.Recognises kind) (text : String) :
    (r.errorWith text).kind = .ofStatus r.status := by
  have hnone : ErrorKind.codes.lookup (r.errorCode?.getD "") = none := by
    cases hcode : r.errorCode? with
    | none => rfl
    | some code =>
      cases hlookup : ErrorKind.codes.lookup code with
      | none => exact hlookup
      | some kind => exact absurd ⟨code, errorCode?_eq_some_iff.mp hcode, hlookup⟩ (h kind)
  simp only [errorWith, hnone, Option.getD_none]

end Http.Response

/-! ## 3. The error of a response -/

/-- `e.Classifies r`: the error tells the status of the response and the code that its body says; its
kind is that of the code if it is known, and otherwise that of the status; and there is a message. -/
structure Error.Classifies (e : Error) (r : Http.Response) : Prop where
  status : e.status = some r.status
  code (code : String) : e.code = some code ↔ r.Says "error_code" code
  recognised {kind : ErrorKind} : r.Recognises kind → e.kind = kind
  unrecognised : (∀ kind, ¬ r.Recognises kind) → e.kind = .ofStatus r.status
  notForeign : ¬ e.kind.Foreign
  unknown_iff : e.kind = .unknown ↔ r.status < 400 ∧ ∀ kind, ¬ r.Recognises kind
  message : e.message ≠ ""

namespace Http.Response

variable {r : Response}

/-- The error of a response classifies it, whatever the text is. -/
theorem classifies_errorWith (r : Response) (text : String) : (r.errorWith text).Classifies r where
  status := rfl
  code _ := errorCode?_eq_some_iff
  recognised h := kind_of_recognises h text
  unrecognised h := kind_of_not_recognises h text
  -- a kind is that of a known code, or else that of the status
  notForeign := by
    by_cases h : ∃ kind, r.Recognises kind
    · obtain ⟨kind, hkind⟩ := h
      obtain ⟨code, -, hlookup⟩ := id hkind
      rw [kind_of_recognises hkind]
      exact (ErrorKind.of_lookup_codes hlookup).2
    · rw [kind_of_not_recognises (not_exists.mp h)]
      exact ErrorKind.not_foreign_ofStatus r.status
  unknown_iff := by
    by_cases h : ∃ kind, r.Recognises kind
    · obtain ⟨kind, hkind⟩ := h
      obtain ⟨code, -, hlookup⟩ := id hkind
      rw [kind_of_recognises hkind]
      exact iff_of_false (ErrorKind.of_lookup_codes hlookup).1 fun h => h.2 kind hkind
    · rw [kind_of_not_recognises (not_exists.mp h), ErrorKind.ofStatus_eq_unknown_iff]
      exact ⟨fun hstatus => ⟨hstatus, not_exists.mp h⟩, And.left⟩
  message := by
    show (r.bodyMessage?.getD (r.fallbackMessage text)) ≠ ""
    cases hmessage : r.bodyMessage? with
    | none => exact r.fallbackMessage_ne_empty text
    | some message => exact ne_empty_of_bodyMessage? hmessage

/-- A response has an error that classifies it, or it is unreadable. -/
theorem exists_classifies_or_unreadable (r : Response) :
    (∃ e, r.toError = .ok e ∧ e.Classifies r) ∨
      ∃ fault, r.Unreadable fault ∧ r.toError = .error fault := by
  cases he : r.toError with
  | ok e =>
    obtain ⟨text, -, rfl⟩ := map_eq_ok_iff.mp he
    exact .inl ⟨_, rfl, r.classifies_errorWith text⟩
  | error fault => exact .inr ⟨fault, toError_eq_error_iff.mp he, rfl⟩

/-- Kind and code depend on the status and the body alone. -/
theorem errorWith_congr {r r' : Response} (hstatus : r.status = r'.status) (hbody : r.body = r'.body)
    (text text' : String) :
    (r.errorWith text).kind = (r'.errorWith text').kind ∧
      (r.errorWith text).code = (r'.errorWith text').code := by
  have hcode : r.errorCode? = r'.errorCode? := by simp only [errorCode?, bodyMembers, hbody]
  simp only [errorWith, hcode, hstatus, and_self]

end Http.Response

/-- **The error of a response.**  A response without success has an error that classifies it, unless
it is unreadable; headers and reason phrase have no say in the kind and the code; and the error is
what a query fails with, unless the response sends on to a target that is none. -/
theorem Http.Response.toError_classifies :
    (∀ r : Response, r.isSuccess = false →
      (∃ e, r.toError = .ok e ∧ e.Classifies r) ∨
        ∃ fault, r.Unreadable fault ∧ r.toError = .error fault) ∧
    (∀ (r r' : Response) (e e' : Error), r.status = r'.status → r.body = r'.body →
      r.toError = .ok e → r'.toError = .ok e' → e.kind = e'.kind ∧ e.code = e'.code) ∧
    ∀ (c : Client) (remote : Remote σ) (method path version : String) (fields : Json.Members)
      (w : Wire σ), c.closed = false → (Json.object fields).allFinite = true →
      let run := c.query remote method path version fields w
      ∃ request, run.requests = [request] ∧ ∀ r : Response,
        (remote request w.service).1 = .response r → r.isSuccess = false →
        (Outcome.response r).checked = .response r →
        (∀ e, r.toError = .ok e → run.result = .error (.error e)) ∧
          ∀ fault, r.toError = .error fault → run.result = .error (.unreadableBody fault) := by
  refine ⟨fun r _ => r.exists_classifies_or_unreadable, ?_, ?_⟩
  -- the texts may differ with the headers; kind and code do not look at them
  · intro r r' e e' hstatus hbody he he'
    obtain ⟨text, -, rfl⟩ := map_eq_ok_iff.mp he
    obtain ⟨text', -, rfl⟩ := map_eq_ok_iff.mp he'
    exact errorWith_congr hstatus hbody text text'
  · intro c remote method path version fields w hc hfields run
    obtain ⟨payload, hp⟩ := Payload.exists_of_allFinite hfields (Text.upper method)
    refine ⟨_, Client.query_requests hc remote path version hp w, fun r hr hsuccess hchecked => ?_⟩
    have hresult : run.result = Client.verdict (Text.upper method) path (.response r) := by
      simp only [run, Client.query_run hc remote path version hp, hr, hchecked]
    rw [hresult]
    exact ⟨fun _ he => Client.verdict_of_toError_eq_ok hsuccess he,
      fun _ hfault => Client.verdict_of_toError_eq_error hsuccess hfault⟩

/-! ### Refusals -/

namespace Refusal

/-- A client that is open. -/
def client : Client := ⟨"https://example.com", some "tok", Settings.defaultTimeout, false, none⟩

/-- A response that tells a failure of the service, and in its body a limit. -/
def limited : Http.Response :=
  ⟨503, Utf8.encode "\x7b\"error_code\": \"REQUEST_LIMIT_EXCEEDED\"\x7d".toList, "",
    [("Content-Type", "text/plain; charset=latin-1")], none⟩

/-- A service that has no other. -/
def remote : Http.Remote Unit := fun _ s => (.response limited, s)

theorem recognises_limited : limited.Recognises .rateLimited :=
  ⟨"REQUEST_LIMIT_EXCEEDED", Http.Response.errorCode?_eq_some_iff.mp (by decide +kernel), rfl⟩

theorem readable_limited (fault : Http.ReadFault) : ¬ limited.Unreadable fault := by
  rw [← Http.Response.text_eq_error_iff]
  obtain ⟨text, htext⟩ := exists_of_isOk (by decide +kernel : limited.text.isOk = true)
  simp [htext]

/-- A response whose body should come in units of two bytes, with a mark in front, and does not. -/
def unmarked : Http.Response :=
  ⟨404, Utf8.encode "gone".toList, "", [("Content-Type", "text/plain; charset=utf-16")], none⟩

theorem exists_of_unmarked : ∃ fault, unmarked.text = .error fault :=
  exists_of_not_isOk (by decide +kernel)

end Refusal

/-- The code in a body tells more than the status does, and a query fails with the error. -/
theorem Http.Response.toError_classifies_limited :
    ∃ e, Refusal.limited.toError = .ok e ∧ e.kind = .rateLimited ∧ e.status = some 503 ∧
      (Refusal.client.query Refusal.remote "GET" "/workspace/list" "2.0" [] ⟨(), false⟩).result =
        .error (.error e) := by
  obtain ⟨herror, -, hquery⟩ := @toError_classifies Unit
  obtain ⟨e, he, hclassifies⟩ := (herror Refusal.limited rfl).resolve_right
    fun ⟨fault, hunreadable, _⟩ => Refusal.readable_limited fault hunreadable
  obtain ⟨request, -, hfails⟩ := hquery Refusal.client Refusal.remote "GET" "/workspace/list" "2.0" []
    ⟨(), false⟩ rfl rfl
  exact ⟨e, he, hclassifies.recognised Refusal.recognises_limited, hclassifies.status,
    (hfails Refusal.limited rfl rfl rfl).1 e he⟩

/-- An error for every response without success is more than there is. -/
theorem Http.Response.not_forall_classifies :
    ¬ ∀ r : Response, r.isSuccess = false → ∃ e, r.toError = .ok e ∧ e.Classifies r := by
  intro h
  obtain ⟨e, he, -⟩ := h Refusal.unmarked rfl
  obtain ⟨text, htext, -⟩ := map_eq_ok_iff.mp he
  obtain ⟨fault, hfault⟩ := Refusal.exists_of_unmarked
  cases htext.symm.trans hfault

end Workspace
