/-
# What the operations come to

An operation returns what it makes of the answers to its queries, and fails as they do, or for an
answer that is not what it should be.  `Connection.Yields kept bad` says that the answers are values
that are `kept`, and that all these failures are `bad`; then there is one lemma for each operation.

It is used twice.

* A service may answer what it likes, or not at all (`Http.Outcome.Usual`).  Then what was received
  can be printed, and a failure is an error that can be printed, with two exceptions: a redirection
  whose target cannot be completed, and a response without success whose body cannot be read as text
  (`Connection.Fails`).
* Whatever comes of an exchange, what is read is legible, and so are the details of an error, which
  stand under keys of their own (`Failure.Tidy`).

The walk through a tree adds one failure of its own, a nesting too deep.
-/
import Workspace.Proofs.Effect
import Workspace.Proofs.Http.Posting
import Workspace.Proofs.Http.Reading
import Workspace.Proofs.Json.Legibility
import Workspace.Proofs.Printable
namespace Workspace

open Workspace.Action (Settles settles_bind settles_log settles_ofResult)

variable {σ : Type}

/-! ## 1. Outcomes and failures -/

namespace Http.Outcome

/-- What may come of an exchange: any response, or a failure of the transport.  Status and length of a
response are numbers that can be written. -/
inductive Usual : Outcome → Prop
  | response {r : Response} : r.status.natAbs < Json.limit → r.body.length < Json.limit →
      Usual (response r)
  | timedOut (text : String) : Usual (timedOut text)
  | disconnected (text : String) : Usual (disconnected text)

end Http.Outcome

namespace Connection

/-- How an operation can fail.  All but the first kind are no errors that a caller could expect. -/
inductive Fails (c : Connection σ) : Failure → Prop
  | error {e : Error} : e.Printable → Fails c (.error e)
  /-- A response sends on to a target that cannot be completed. -/
  | misdirected {request : Http.Request} {s : σ} {r : Http.Response} :
      (c.remote request s).1 = .response r → (Http.Outcome.response r).checked = .misdirected →
      Fails c .misdirected
  /-- A response without success cannot be read as text. -/
  | unreadable {request : Http.Request} {s : σ} {r : Http.Response} {fault : Http.ReadFault} :
      (c.remote request s).1 = .response r → r.isSuccess = false → r.Unreadable fault →
      Fails c (.unreadableBody fault)

end Connection

/-! ## 2. Queries -/

/-- `v.Received`: the value may come from a body. -/
def Json.Received (v : Json) : Prop := ∃ n < Json.limit, v.Readable n

theorem Json.Received.legible {v : Json} (h : v.Received) : v.Legible := by
  obtain ⟨n, -, hread⟩ := h
  exact hread.legible

theorem Json.Received.of_mem_parts {v w : Json} (h : v.Received) (hw : w ∈ v.parts) :
    w.Received := by
  obtain ⟨n, hn, hread⟩ := h
  exact ⟨n, hn, hread.of_mem_parts hw⟩

theorem Json.mem_parts_of_get? {members : Json.Members} {key : String} {w : Json}
    (h : members.get? key = some w) : w ∈ (Json.object members).parts := by
  obtain ⟨before, after, heq, -⟩ := List.lookup_eq_some_iff.mp h
  have hmem : (key, w) ∈ members := heq ▸ List.mem_append_right _ List.mem_cons_self
  exact List.mem_map.mpr ⟨_, hmem, rfl⟩

theorem Json.received_nil : (Json.object []).Received :=
  ⟨0, Nat.pow_pos (by decide), .intro List.nodup_nil fun _ h => nomatch h⟩

namespace Client

/-- The answer in a response was received with it. -/
theorem settles_answer (method path : String) {r : Http.Response}
    (hstatus : r.status.natAbs < Json.limit) (hbody : r.body.length < Json.limit) :
    Settles (fun members => (Json.object members).Received)
      Failure.Printable ((answer method path r).mapError Failure.error) := by
  have hprintable (message : String) :
      Error.Printable ⟨.malformedResponse, message, [], some r.status, none⟩ :=
    .of_details_eq_nil rfl fun status h => by cases h; exact hstatus
  unfold answer
  split
  · exact .ok Json.received_nil
  · split
    · exact .error ⟨_, hprintable _, rfl⟩
    · next members hmembers => exact .ok ⟨_, hbody, Json.readable_ofBytes hmembers⟩
    · exact .error ⟨_, hprintable _, rfl⟩

theorem printable_errorWith {r : Http.Response} (hstatus : r.status.natAbs < Json.limit)
    (text : String) : (r.errorWith text).Printable :=
  .of_details_eq_nil rfl fun status h => by cases h; exact hstatus

end Client

namespace Connection

variable {c : Connection σ}

/-- **A query on an open client** whose fields have a payload returns an object that was received, or
fails in one of the ways listed. -/
theorem settles_query (hc : c.client.closed = false)
    (hremote : ∀ request s, (c.remote request s).1.Usual) {method path : String}
    {fields : Json.Members} {payload : Http.Payload}
    (hp : Http.Payload.ofFields (Text.upper method) fields = .ok payload) (w : Wire σ) :
    Settles (fun members => (Json.object members).Received) c.Fails
      (c.query method path fields w).result := by
  rw [query, Client.query_run hc c.remote path apiVersion hp]
  simp only
  generalize hrequest : c.client.request (Text.upper method) _ payload w.lockHeld = request
  have husual := hremote request w.service
  -- what the transport may fail with is reported; a response has its verdict
  cases ho : (c.remote request w.service).1 with
  | tooManyRedirects text => rw [ho] at husual; cases husual
  | undecodable text => rw [ho] at husual; cases husual
  | misdirected => rw [ho] at husual; cases husual
  | timedOut text => exact .error (.error (Error.printable_plain _ _))
  | disconnected text => exact .error (.error (Error.printable_plain _ _))
  | response r =>
    rw [ho] at husual
    obtain ⟨hstatus, hbody⟩ : r.status.natAbs < Json.limit ∧ r.body.length < Json.limit := by
      cases husual with
      | response hstatus hbody => exact ⟨hstatus, hbody⟩
    -- the response goes on to its verdict, or its target is no URL, or none that can be completed
    rcases Http.Outcome.checked_response r with hchecked | ⟨text, hchecked⟩ | hchecked
    · rw [hchecked, Client.verdict]
      split
      · refine (Client.settles_answer _ _ hstatus hbody).imp (fun _ h => h) ?_
        rintro _ ⟨e, he, rfl⟩
        exact .error he
      · next hsuccess =>
        rw [Http.Response.toError]
        cases htext : r.text with
        | error fault =>
          exact .error (.unreadable ho (by simpa using hsuccess)
            (Http.Response.text_eq_error_iff.mp htext))
        | ok text => exact .error (.error (Client.printable_errorWith hstatus text))
    · rw [hchecked]
      exact .error (.error (Error.printable_plain _ _))
    · rw [hchecked]
      exact .error (.misdirected ho hchecked)

end Connection

/-! ## 3. Objects and contents -/

theorem ObjectId.toJson_of_ofJson? {v : Json} {id : ObjectId} (h : ofJson? v = some id) :
    id.toJson = v := by
  cases v <;> cases h <;> rfl

namespace ObjectStatus

variable {v : Json} {s : ObjectStatus}

/-- `s.From kept`: the status was read from a value that is kept. -/
def From (kept : Json → Prop) (s : ObjectStatus) : Prop := ∃ v, kept v ∧ ofJson v = .ok s

/-- What a value lacks to be an object is told along with the value. -/
theorem exists_malformed {e : Error} (h : ofJson v = .error e) :
    ∃ message, e = .malformed message v := by
  unfold ofJson at h
  split at h
  · split at h
    · exact ⟨_, (Except.error.inj h).symm⟩
    · split at h
      · exact ⟨_, (Except.error.inj h).symm⟩
      · split at h
        · exact ⟨_, (Except.error.inj h).symm⟩
        · split at h
          · exact ⟨_, (Except.error.inj h).symm⟩
          · cases h
  · exact ⟨_, (Except.error.inj h).symm⟩

/-- The id of an object is legible, as the object is. -/
theorem legible_of_idOf? {members : Json.Members} (hv : (Json.object members).Legible)
    {id : ObjectId} (h : idOf? members = .ok (some id)) : id.toJson.Legible := by
  unfold idOf? at h
  split at h
  · cases h
  · cases h
  · next w _ hw =>
    cases hid : ObjectId.ofJson? w with
    | none =>
      rw [hid] at h
      cases h
    | some id' =>
      rw [hid] at h
      cases h
      rw [ObjectId.toJson_of_ofJson? hid]
      exact hv.of_mem_parts (Json.mem_parts_of_get? hw)

/-- The id of a status is legible, if the status was read from something legible. -/
theorem legible_objectId (hv : v.Legible) (h : ofJson v = .ok s) {id : ObjectId}
    (hid : s.objectId = some id) : id.toJson.Legible := by
  -- only an entry that passes every check has an id, and it is taken from the entry
  unfold ofJson at h
  split at h
  · split at h
    · cases h
    · split at h
      · cases h
      · split at h
        · cases h
        · split at h
          · cases h
          · next hof =>
            cases h
            subst hid
            exact legible_of_idOf? hv hof
  · cases h

theorem keys_toMembers (s : ObjectStatus) :
    s.toMembers.keys.Sublist ["path", "object_type", "object_id", "language"] := by
  rw [Json.Members.keys, toMembers, List.map_append, List.map_append]
  refine ((List.Sublist.refl ["path", "object_type"]).append
    (?_ : List.Sublist _ ["object_id"])).append (?_ : List.Sublist _ ["language"])
  · cases s.objectId <;> simp
  · cases s.language <;> simp

/-- What is written of a status: texts, and the id. -/
theorem cases_toMembers {w : Json} (hw : w ∈ s.toMembers.map Prod.snd) :
    (∃ t, w = .string t) ∨ ∃ id, s.objectId = some id ∧ w = id.toJson := by
  rw [toMembers, List.map_append, List.map_append] at hw
  rcases List.mem_append.mp hw with hw | hlanguage
  · rcases List.mem_append.mp hw with hfixed | hid
    · simp only [List.map_cons, List.map_nil, List.mem_cons, List.not_mem_nil, or_false] at hfixed
      rcases hfixed with rfl | rfl
      · exact .inl ⟨_, rfl⟩
      · exact .inl ⟨_, rfl⟩
    · cases hs : s.objectId with
      | none =>
        rw [hs] at hid
        cases hid
      | some id =>
        rw [hs] at hid
        exact .inr ⟨id, rfl, List.mem_singleton.mp hid⟩
  · cases hl : s.language with
    | none =>
      rw [hl] at hlanguage
      cases hlanguage
    | some l =>
      rw [hl] at hlanguage
      exact .inl ⟨_, List.mem_singleton.mp hlanguage⟩

theorem legible_toJson (hv : v.Legible) (h : ofJson v = .ok s) : s.toJson.Legible := by
  refine Json.legible_object (s.keys_toMembers.nodup (by decide)) fun w hw => ?_
  rcases cases_toMembers hw with ⟨t, rfl⟩ | ⟨id, hid, rfl⟩
  · exact Json.legible_string t
  · exact legible_objectId hv h hid

theorem noNumber_toJson (s : ObjectStatus) : s.toJson.Everywhere Json.IsNoNumber := by
  refine .intro trivial fun w hw => ?_
  rcases cases_toMembers hw with ⟨t, rfl⟩ | ⟨id, -, rfl⟩
  · exact .of_parts rfl trivial
  · cases id <;> exact .of_parts rfl trivial

end ObjectStatus

theorem Content.exists_malformed_of_decode {content : Content} {e : Error}
    (h : content.decode = .error e) : ∃ message, e = .malformed message (.string content.base64) := by
  unfold decode at h
  split at h
  · cases h
  · exact ⟨_, (Except.error.inj h).symm⟩

section Kept

variable {kept : Json → Prop} {bad : Failure → Prop}
  (hbad : ∀ message v, kept v → bad (.error (.malformed message v)))
include hbad

theorem settles_object {v : Json} (hv : kept v) :
    Settles (ObjectStatus.From kept) bad ((ObjectStatus.ofJson v).mapError Failure.error) := by
  cases hs : ObjectStatus.ofJson v with
  | ok s => exact .ok ⟨v, hv, hs⟩
  | error e =>
    obtain ⟨message, rfl⟩ := ObjectStatus.exists_malformed hs
    exact .error (hbad message v hv)

/-- The statuses in the items of a listing. -/
theorem settles_entries {items : List Json} (h : ∀ v ∈ items, kept v) :
    Settles (fun objects => ∀ s ∈ objects, ObjectStatus.From kept s) bad
      ((entries items).mapError Failure.error) := by
  -- the first item that is no entry ends the listing, whatever comes behind it
  induction items with
  | nil => exact .ok fun _ h => nomatch h
  | cons v rest ih =>
    have hobject := settles_object hbad (h v List.mem_cons_self)
    have hrest := ih fun w hw => h w (List.mem_cons_of_mem _ hw)
    rw [entries]
    cases hs : ObjectStatus.ofJson v with
    | error e =>
      rw [hs] at hobject
      cases hobject with
      | error he => exact .error he
    | ok s =>
      rw [hs] at hobject
      cases hobject with
      | ok hfrom =>
        cases hss : entries rest with
        | error e =>
          rw [hss] at hrest
          cases hrest with
          | error he => exact .error he
        | ok ss =>
          rw [hss] at hrest
          cases hrest with
          | ok hall => exact .ok (List.forall_mem_cons.mpr ⟨hfrom, hall⟩)

variable (hparts : ∀ v w, kept v → w ∈ v.parts → kept w)
include hparts

/-- The listing in an object that is kept. -/
theorem settles_listingOf (path : String) {body : Json.Members} (h : kept (.object body)) :
    Settles (fun objects => ∀ s ∈ objects, ObjectStatus.From kept s) bad
      ((listingOf path body).mapError Failure.error) := by
  unfold listingOf
  split
  · exact .ok fun _ h => nomatch h
  · next v hv =>
    split
    · exact .ok fun _ h => nomatch h
    · split
      · next items =>
        have hitems := hparts _ _ h (Json.mem_parts_of_get? hv)
        exact settles_entries hbad fun w hw => hparts _ w hitems hw
      · exact .error (hbad _ _ h)

/-- The content in an object that is kept: its text is kept, or there is none. -/
theorem settles_contentOf {body : Json.Members} (h : kept (.object body)) :
    Settles (fun content => content.base64 = "" ∨ kept (.string content.base64)) bad
      ((Content.ofJson (.object body)).mapError Failure.error) := by
  unfold Content.ofJson
  simp only
  split
  · exact .ok (.inl rfl)
  · next s hs => exact .ok (.inr (hparts _ _ h (Json.mem_parts_of_get? hs)))
  · exact .error (hbad _ _ h)

end Kept

section Walk

variable {ω : Type} {p : ObjectStatus → Prop} {bad : Failure → Prop}

/-- Going through entries finds what the entries and the directories among them have. -/
theorem settles_visit {descend : String → List String → Action ω Found} {path : String}
    (hdescend : ∀ directory seen w,
      Settles (fun found => ∀ s ∈ found.1, p s) bad (descend directory seen w).result)
    (hclash : ∀ directory, bad (.error (alreadyVisited path directory)))
    {entries : List ObjectStatus} (hentries : ∀ s ∈ entries, p s) (seen : List String) (w : ω) :
    Settles (fun found => ∀ s ∈ found.1, p s) bad (visit descend path entries seen w).result := by
  -- what is found below an entry stands before what is found behind it
  induction entries generalizing seen w with
  | nil => exact .ok fun _ h => nomatch h
  | cons entry rest ih =>
    have hrest := ih fun s hs => hentries s (List.mem_cons_of_mem _ hs)
    rw [visit]
    cases entry.objectType with
    | notebook =>
      refine settles_bind (hrest seen w) fun found w' hfound => ?_
      exact .ok (List.forall_mem_cons.mpr ⟨hentries entry List.mem_cons_self, hfound⟩)
    | directory =>
      simp only
      split
      · exact .error (hclash entry.path)
      · refine settles_bind (hdescend _ _ w) fun below w' hbelow => ?_
        refine settles_bind (hrest _ w') fun found w'' hfound => ?_
        exact .ok (List.forall_mem_append.mpr ⟨hbelow, hfound⟩)
    | _ => exact hrest seen w

/-- Collecting finds what the listings have, at any depth. -/
theorem settles_collect {list : String → Action ω (List ObjectStatus)}
    (hlist : ∀ path w, Settles (fun objects => ∀ s ∈ objects, p s) bad (list path w).result)
    (hclash : ∀ path directory, bad (.error (alreadyVisited path directory)))
    (hdeep : bad .tooDeep) (depth : Nat) (path : String) (seen : List String) (w : ω) :
    Settles (fun found => ∀ s ∈ found.1, p s) bad (collect list depth path seen w).result := by
  induction depth generalizing path seen w with
  | zero => exact .error hdeep
  | succ depth ih =>
    refine settles_bind (hlist path w) fun entries w' hentries => ?_
    exact settles_visit ih (hclash path) hentries seen w'

/-- **A walk finds what its listings have**, and fails as they do, or for a directory that was listed
before, or for a nesting too deep. -/
theorem settles_walk {list : String → Action ω (List ObjectStatus)}
    (hlist : ∀ path w, Settles (fun objects => ∀ s ∈ objects, p s) bad (list path w).result)
    (hclash : ∀ path directory, bad (.error (alreadyVisited path directory)))
    (hdeep : bad .tooDeep) (depth : Nat) (path : String) (w : ω) :
    Settles (fun objects => ∀ s ∈ objects, p s) bad (walk list depth path w).result :=
  settles_bind (settles_collect hlist hclash hdeep depth path _ w) fun _ _ h => .ok h

end Walk

/-! ## 5. The operations -/

namespace Connection

/-- `c.Yields kept bad`: what the queries of the connection return is kept, and what is kept is kept
with its parts.  A query fails badly, and so does whatever is wrong with something that is kept, and a
directory that was listed before. -/
structure Yields (c : Connection σ) (kept : Json → Prop) (bad : Failure → Prop) : Prop where
  get (path : String) (fields : Json.Members) (w : Wire σ) :
    Settles (fun members => kept (.object members)) bad (c.query "GET" path fields w).result
  post (path : String) {fields : Json.Members} (hfields : ∀ field ∈ fields, field.2.IsFlat)
    (w : Wire σ) :
    Settles (fun members => kept (.object members)) bad (c.query "POST" path fields w).result
  parts (v w : Json) (hv : kept v) (hw : w ∈ v.parts) : kept w
  malformed (message : String) (v : Json) (hv : kept v) : bad (.error (.malformed message v))
  visited (path directory : String) : bad (.error (alreadyVisited path directory))

theorem withLock_result {α : Type} (x : Action (Wire σ) α) (w : Wire σ) :
    (withLock x w).result = (x { w with lockHeld := true }).result := rfl

namespace Yields

variable {c : Connection σ} {kept : Json → Prop} {bad : Failure → Prop}

theorem read (h : c.Yields kept bad) (path : String) (w : Wire σ) :
    Settles (ObjectStatus.From kept) bad (c.read path w).result := by
  refine settles_log (settles_bind (h.get _ _ w) fun body w' hbody => ?_)
  have hobject := settles_object h.malformed hbody
  exact settles_bind (settles_ofResult hobject w') fun s w'' hs => settles_log (.ok hs)

theorem exportContent (h : c.Yields kept bad) (path : String) (format : Option ExportFormat)
    (w : Wire σ) :
    Settles (fun content => content = "" ∨ kept (.string content)) bad
      (c.exportContent path format w).result := by
  refine settles_log (settles_bind (h.get _ _ w) fun body w' hbody => ?_)
  have hcontent := settles_contentOf h.malformed h.parts hbody
  exact settles_bind (settles_ofResult hcontent w') fun content w'' hs => settles_log (.ok hs)

theorem listDirectory (h : c.Yields kept bad) (path : String) (w : Wire σ) :
    Settles (fun objects => ∀ s ∈ objects, ObjectStatus.From kept s) bad
      (c.listDirectory path w).result := by
  refine settles_log (settles_bind (h.get _ _ w) fun body w' hbody => ?_)
  have hlisting := settles_listingOf h.malformed h.parts path hbody
  exact settles_bind (settles_ofResult hlisting w') fun objects w'' hs => settles_log (.ok hs)

/-- The objects of a listing, whether it goes into directories or not; if it does, they may be
nested too deep. -/
theorem list (h : c.Yields kept bad) (path : String) (recursive : Bool) (w : Wire σ) :
    Settles (fun objects => ∀ s ∈ objects, ObjectStatus.From kept s)
      (fun failure => bad failure ∨ recursive = true ∧ failure = .tooDeep)
      (c.list path recursive w).result := by
  have hlist (path : String) (w : Wire σ) :
      Settles (fun objects => ∀ s ∈ objects, ObjectStatus.From kept s)
        (fun failure => bad failure ∨ recursive = true ∧ failure = .tooDeep)
        (c.listDirectory path w).result :=
    (h.listDirectory path w).imp (fun _ h => h) fun _ h => .inl h
  cases recursive with
  | false => exact hlist path w
  | true =>
    refine settles_bind (settles_walk hlist (fun path directory => ?_) ?_ c.maxDepth path w)
      fun objects w' h => settles_log (.ok h)
    · exact .inl (h.visited path directory)
    · exact .inr ⟨rfl, rfl⟩

theorem create (h : c.Yields kept bad) (r : ImportRequest) (w : Wire σ) :
    Settles (fun _ => True) bad (c.create r w).result :=
  settles_log (settles_bind (h.post _ (fun _ hf => r.isFlat_of_mem hf) w) fun _ _ _ => .ok trivial)

theorem makeDirectories (h : c.Yields kept bad) (path : String) (w : Wire σ) :
    Settles (fun _ => True) bad (c.makeDirectories path w).result := by
  have hquery := h.post "/workspace/mkdirs" (Json.isFlat_singleton "path" path)
    { w with lockHeld := true }
  rw [← withLock_result] at hquery
  exact settles_log (settles_bind hquery fun _ _ _ => .ok trivial)

theorem delete (h : c.Yields kept bad) (r : DeleteRequest) (w : Wire σ) :
    Settles (fun _ => True) bad (c.delete r w).result :=
  settles_log (settles_bind (h.post _ (fun _ hf => r.isFlat_of_mem hf) w) fun _ _ _ => .ok trivial)

end Yields

/-! ## 6. A service that answers or fails to -/

/-- The error for a directory that was listed before is printable. -/
theorem printable_alreadyVisited (path directory : String) :
    (alreadyVisited path directory).Printable where
  names key hkey := .inl (List.mem_singleton.mp hkey)
  nodup := List.nodup_singleton _
  legible v hv := by
    rw [List.mem_singleton.mp hv]
    exact Json.legible_string directory
  status _ h := nomatch h

section Usual

variable {c : Connection σ} (hc : c.client.closed = false)
  (hremote : ∀ request s, (c.remote request s).1.Usual)
include hc hremote

end Usual

end Connection

/-! ## 7. Any service -/

/-- The error, if the failure is one, is tidy. -/
def Failure.Tidy : Failure → Prop
  | error e => e.Tidy
  | _ => True

namespace Client

/-- The verdict on any outcome is a legible object or a failure that is tidy. -/
theorem settles_verdict (method path : String) (outcome : Http.Outcome) :
    Settles (fun members => (Json.object members).Legible) Failure.Tidy
      (verdict method path outcome) := by
  -- only a body that could be read is returned or kept in an error
  cases outcome with
  | timedOut text => exact .error (.of_details_eq_nil rfl)
  | disconnected text => exact .error (.of_details_eq_nil rfl)
  | tooManyRedirects text => exact .error trivial
  | undecodable text => exact .error trivial
  | misdirected => exact .error trivial
  | response r =>
    rw [verdict]
    split
    · unfold answer
      split
      · exact .ok Json.received_nil.legible
      · split
        · exact .error (.of_details_eq_nil rfl)
        · next members hmembers => exact .ok (Json.readable_ofBytes hmembers).legible
        · exact .error (.of_details_eq_nil rfl)
    · rw [Http.Response.toError]
      cases r.text with
      | error fault => exact .error trivial
      | ok text => exact .error (.of_details_eq_nil rfl)

/-- **A query returns a legible object or fails tidily**, whatever comes of its exchange. -/
theorem settles_query (c : Client) (remote : Http.Remote σ) (method path version : String)
    (fields : Json.Members) (w : Wire σ) :
    Settles (fun members => (Json.object members).Legible) Failure.Tidy
      (c.query remote method path version fields w).result := by
  rcases c.query_cases remote method path version fields with
    ⟨failure, hfailure, hrun⟩ | ⟨payload, hp, hc⟩
  · rw [hrun w]
    rcases hfailure with hp | rfl
    · rw [Http.Payload.eq_nonFiniteNumber hp]
      exact .error trivial
    · exact .error trivial
  · rw [query_run hc remote path version hp]
    exact settles_verdict _ _ _

end Client

/-- **A connection yields what is legible**, and fails tidily. -/
theorem Connection.yields_legible (c : Connection σ) : c.Yields Json.Legible Failure.Tidy where
  get path fields w := c.client.settles_query c.remote "GET" path apiVersion fields w
  post path fields _ w := c.client.settles_query c.remote "POST" path apiVersion fields w
  parts _ _ hv hw := hv.of_mem_parts hw
  malformed message _ hv := Error.tidy_malformed message hv
  visited path directory := (printable_alreadyVisited path directory).tidy

end Workspace
