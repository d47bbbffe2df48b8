/-
# The listing of one directory

Which responses list a directory, and what comes of the others.  The answer is an object, whose
`objects` are the entries; `Lists isAbsent` says which statuses it lists, for a given notion of a value
that is as good as none.

* `entries_eq_ok_iff` and `entries_of_refused` say that entries are read all or not at all, and that the
  first one that is refused decides the error.
* `Connection.Listed` holds what a listing does with a response, and `Connection.list_listed` says that
  every listing on an open client does so, if false, a zero, and an empty text or object count as
  absent.
* If only null does, this is too much to ask: an empty object in place of the entries would have to be
  refused (`Connection.not_forall_listed`).
-/
import Mathlib
import Workspace.Proofs.Exchange
import Workspace.Proofs.Http.Attempt
namespace Workspace

/-! ## 1. Entries -/

/-- **Entries are read all or not at all**, in their order. -/
theorem entries_eq_ok_iff {items : List Json} {objects : List ObjectStatus} :
    entries items = .ok objects ↔
      List.Forall₂ (fun v s => ObjectStatus.ofJson v = .ok s) items objects := by
  induction items generalizing objects with
  | nil => cases objects <;> simp [entries]
  | cons v rest ih =>
    rw [entries]
    cases hs : ObjectStatus.ofJson v with
    | error e => cases objects <;> simp [hs]
    | ok s =>
      cases hss : entries rest with
      | error e => cases objects <;> simp [hs, ← ih, hss]
      | ok ss => cases objects <;> simp [hs, ← ih, hss]

/-- **The first entry that is refused decides the error.** -/
theorem entries_of_refused {before after : List Json} {bad : Json} {e : Error}
    (hbefore : ∀ v ∈ before, ∃ s, ObjectStatus.ofJson v = .ok s)
    (hbad : ObjectStatus.ofJson bad = .error e) : entries (before ++ bad :: after) = .error e := by
  induction before with
  | nil => simp only [List.nil_append, entries, hbad]
  | cons v rest ih =>
    obtain ⟨⟨s, hs⟩, hrest⟩ := List.forall_mem_cons.mp hbefore
    simp only [List.cons_append, entries, hs, ih hrest]

/-! ## 2. What an answer lists -/

/-- `Lists isAbsent body objects`: the entries of the answer are these statuses, in their order; there
are none if `objects` are missing or as good as that. -/
inductive Lists (isAbsent : Json → Prop) (body : Json.Members) : List ObjectStatus → Prop
  | missing : body.get? "objects" = none → Lists isAbsent body []
  | absent {v : Json} : body.get? "objects" = some v → isAbsent v → Lists isAbsent body []
  | entries {items : List Json} {objects : List ObjectStatus} :
      body.get? "objects" = some (.array items) →
      List.Forall₂ (fun v s => ObjectStatus.ofJson v = .ok s) items objects →
      Lists isAbsent body objects

/-- What counts as absent although it is there. -/
abbrev Json.IsEmptyValue (v : Json) : Prop := v.isEmptyValue = true

section Answer

variable {path : String} {body : Json.Members}

/-- An array is read by its entries, also if it is empty and counts as absent. -/
theorem listingOf_array {items : List Json} (h : body.get? "objects" = some (.array items)) :
    listingOf path body = entries items := by
  unfold listingOf
  rw [h]
  cases items with
  | nil => rfl
  | cons v rest => rfl

/-- **A listing reads what its answer lists.** -/
theorem listingOf_eq_ok_iff {objects : List ObjectStatus} :
    listingOf path body = .ok objects ↔ Lists Json.IsEmptyValue body objects := by
  constructor
  -- the order of the checks: no key, a value that counts as absent, an array
  · intro h
    unfold listingOf at h
    split at h
    · next hnone =>
      cases h
      exact .missing hnone
    · next v hv =>
      split at h
      · next hempty =>
        cases h
        exact .absent hv hempty
      · split at h
        · exact .entries hv (entries_eq_ok_iff.mp h)
        · cases h
  · rintro (hnone | ⟨hv, hempty⟩ | ⟨hv, hentries⟩)
    · simp only [listingOf, hnone]
    · simp only [listingOf, hv, if_pos hempty]
    · rw [listingOf_array hv, entries_eq_ok_iff.mpr hentries]

/-- What is no array and does not count as absent is refused together with the answer. -/
theorem exists_malformed_of_listingOf (path : String) {v : Json} (hv : body.get? "objects" = some v)
    (hpresent : ¬ v.IsEmptyValue) (hforeign : ∀ items, v ≠ .array items) :
    ∃ message, listingOf path body = .error (.malformed message (.object body)) := by
  unfold listingOf
  rw [hv]
  simp only [if_neg hpresent]
  cases v with
  | array items => exact absurd rfl (hforeign items)
  | _ => exact ⟨_, rfl⟩

end Answer

/-! ## 3. The listing -/

namespace Connection

variable {σ : Type}

/-- `Listed isAbsent r result`: what the listing of a directory comes to, if the response `r` arrives.

* It returns what the answer of the response lists, and nothing without an answer.
* An answer with `objects` that are no array and not absent is malformed.
* The first entry that is refused decides the error. -/
structure Listed (isAbsent : Json → Prop) (r : Http.Response)
    (result : Except Failure (List ObjectStatus)) : Prop where
  returned (objects : List ObjectStatus) :
    result = .ok objects ↔ ∃ body, r.Answers body ∧ Lists isAbsent body objects
  foreign {body : Json.Members} {v : Json} : r.Answers body → body.get? "objects" = some v →
    ¬ isAbsent v → (∀ items, v ≠ .array items) →
    ∃ message, result = .error (.error (.malformed message (.object body)))
  refused {body : Json.Members} {before after : List Json} {bad : Json} {e : Error} :
    r.Answers body → body.get? "objects" = some (.array (before ++ bad :: after)) →
    (∀ v ∈ before, ∃ s, ObjectStatus.ofJson v = .ok s) → ObjectStatus.ofJson bad = .error e →
    result = .error (.error e)

theorem listingResult_of_answers {outcome : Http.Outcome} {body : Json.Members}
    (h : outcome.Answers body) (path : String) :
    listingResult path outcome = (listingOf path body).mapError .error := by
  rw [listingResult, Client.verdict_checked_eq_ok_iff.mpr h]

/-- **A listing returns what the answer lists.** -/
theorem listingResult_eq_ok_iff {path : String} {outcome : Http.Outcome}
    {objects : List ObjectStatus} :
    listingResult path outcome = .ok objects ↔
      ∃ body, outcome.Answers body ∧ Lists Json.IsEmptyValue body objects := by
  constructor
  · intro h
    unfold listingResult at h
    split at h
    · cases h
    · next body hbody =>
      rw [mapError_eq_ok_iff, listingOf_eq_ok_iff] at h
      exact ⟨body, Client.verdict_checked_eq_ok_iff.mp hbody, h⟩
  · rintro ⟨body, hbody, h⟩
    rw [listingResult_of_answers hbody, mapError_eq_ok_iff, listingOf_eq_ok_iff]
    exact h

theorem list_result_of_response {c : Connection σ} (hc : c.client.closed = false) (path : String)
    {w : Wire σ} {r : Http.Response}
    (hr : (c.remote (c.listRequest path w.lockHeld) w.service).1 = .response r) :
    (c.list path false w).result = listingResult path (.response r) := by
  rw [← hr]
  exact congrArg Run.result (listDirectory_run hc path w)

/-- **A listing on an open client** returns what the response to its request lists, refuses an answer
that is no listing, and fails with the first entry that is no status. -/
theorem list_listed {c : Connection σ} (hc : c.client.closed = false) (path : String) {w : Wire σ}
    {r : Http.Response} (hr : (c.remote (c.listRequest path w.lockHeld) w.service).1 = .response r) :
    Listed Json.IsEmptyValue r (c.list path false w).result := by
  -- from here on it is a matter of what the response holds
  rw [list_result_of_response hc path hr]
  constructor
  · intro objects
    rw [listingResult_eq_ok_iff]
    constructor
    · rintro ⟨body, ⟨r', hr', hbody⟩, hlists⟩
      cases hr'
      exact ⟨body, hbody, hlists⟩
    · rintro ⟨body, hbody, hlists⟩
      exact ⟨body, ⟨r, rfl, hbody⟩, hlists⟩
  · intro body v hbody hv hpresent hforeign
    obtain ⟨message, hmessage⟩ := exists_malformed_of_listingOf path hv hpresent hforeign
    rw [listingResult_of_answers ⟨r, rfl, hbody⟩, hmessage]
    exact ⟨message, rfl⟩
  · intro body before after bad e hbody hitems hbefore hbad
    rw [listingResult_of_answers ⟨r, rfl, hbody⟩, listingOf_array hitems,
      entries_of_refused hbefore hbad]
    rfl

/-! ### Spoilt and hollow pages -/

namespace Page

/-- A response with a text. -/
def response (text : String) : Http.Response := ⟨200, Utf8.ofString text, "", [], none⟩

/-- A connection to a service that answers everything with one text. -/
def connection (text : String) : Connection Unit :=
  ⟨fun _ s => (.response (response text), s),
    ⟨"https://example.com", none, Settings.defaultTimeout, false, none⟩, 1⟩

/-- A file, an entry without a path, and one without anything. -/
def spoilt : String :=
  "\x7b\"objects\": [\x7b\"path\": \"/f\", \"object_type\": \"FILE\"\x7d, " ++
    "\x7b\"path\": \"\"\x7d, \x7b\x7d]\x7d"

/-- The file of that page. -/
def file : Json := .object [("path", .string "/f"), ("object_type", .string "FILE")]

/-- The entry without a path. -/
def pathless : Json := .object [("path", .string "")]

theorem answers_spoilt :
    (response spoilt).Answers [("objects", .array ([file] ++ pathless :: [.object []]))] := by
  have hbody : Json.ofBytes (response spoilt).body =
      .ok (.object [("objects", .array ([file] ++ pathless :: [.object []]))]) := by cbv
  exact .object rfl (by decide +kernel) hbody

theorem ofJson_file : ∀ v ∈ [file], ∃ s, ObjectStatus.ofJson v = .ok s := by
  rintro v (_ | ⟨_, ⟨⟩⟩)
  exact ⟨_, rfl⟩

theorem ofJson_pathless :
    ∃ message, ObjectStatus.ofJson pathless = .error (.malformed message pathless) := ⟨_, rfl⟩

/-- An object in place of the entries. -/
def hollow : String := "\x7b\"objects\": \x7b\x7d\x7d"

theorem answers_hollow : (response hollow).Answers [("objects", .object [])] := by
  have hbody : Json.ofBytes (response hollow).body = .ok (.object [("objects", .object [])]) := by cbv
  exact .object rfl (by decide +kernel) hbody

theorem list_hollow : ((connection hollow).list "/d" false ⟨(), false⟩).result = .ok [] := by
  rw [list_result_of_response (c := connection hollow) rfl "/d" (r := response hollow) rfl,
    listingResult_eq_ok_iff]
  exact ⟨_, ⟨_, rfl, answers_hollow⟩, .absent rfl rfl⟩

end Page

/-- A page with an entry that has no path fails with it, and the file in front of it is not listed. -/
theorem list_listed_spoilt :
    (Page.connection Page.spoilt).client.closed = false ∧
      ∃ message, ((Page.connection Page.spoilt).list "/d" false ⟨(), false⟩).result =
        .error (.error (.malformed message Page.pathless)) := by
  have hopen : (Page.connection Page.spoilt).client.closed = false := rfl
  have hlisted := list_listed hopen "/d" (w := ⟨(), false⟩) (r := Page.response Page.spoilt) rfl
  obtain ⟨message, hpathless⟩ := Page.ofJson_pathless
  exact ⟨hopen, message, hlisted.refused Page.answers_spoilt rfl Page.ofJson_file hpathless⟩

/-- Not all that is no array and not null is refused: an object without members lists nothing. -/
theorem not_forall_listed :
    ¬ ∀ (c : Connection Unit) (path : String) (w : Wire Unit) (r : Http.Response),
      c.client.closed = false →
      (c.remote (c.listRequest path w.lockHeld) w.service).1 = .response r →
      Listed (fun v => v = .null) r (c.list path false w).result := by
  intro h
  have hlisted := h (Page.connection Page.hollow) "/d" ⟨(), false⟩ (Page.response Page.hollow) rfl rfl
  obtain ⟨message, hrefused⟩ := hlisted.foreign Page.answers_hollow rfl nofun nofun
  rw [Page.list_hollow] at hrefused
  cases hrefused

end Connection

end Workspace
