/-
# What a GET request carries

The fields of a GET request travel in its URL, and a character in a path that divides URLs or
queries must not change them.  `Http.Request.Carries` says what a request shows to whoever reads its
URL by the rules of form data, and `Connection.get_lossless` that this is exactly what was given: the
fields that are neither null nor empty, in order, and for the operations that read the path and the
format alone.

`Inquiry` gathers the operations that ask for one thing, a status, a content or a listing.
-/
import Workspace.Proofs.Effect
import Workspace.Proofs.Http.Form
import Workspace.Proofs.Walk.Service
namespace Workspace

variable {σ : Type}

/-! ## 1. Fields -/

/-- A value that a query can show as one text: a string, a truth value, null, or an integer that is
not too long. -/
def Json.isScalar : Json → Bool
  | .null | .bool _ | .string _ => true
  | .int n => n.natAbs < 10 ^ Reader.maxDigits
  | _ => false

namespace Http

/-- How a query shows a scalar: truth values in lower case, integers in decimal, strings as they are,
and neither null nor an empty string at all. -/
def rendered? : Json → Option String
  | .bool true => some "true"
  | .bool false => some "false"
  | .int n => some (toString n)
  | .string s => if s = "" then none else some s
  | _ => none

/-- The pairs that fields leave in a query. -/
def renderedPairs (fields : Json.Members) : List (String × String) :=
  fields.filterMap fun field => (rendered? field.2).map (field.1, ·)

/-- The digits of an integer are its decimal notation. -/
theorem ofList_intChars (n : Int) : String.ofList (Json.intChars n) = toString n := by
  cases n with
  | ofNat n => rfl
  | negSucc n => exact @String.ofList_append ['-'] (Nat.toDigits 10 (n + 1))

/-- A scalar is left out, or its text is the one that a query shows. -/
theorem rendered?_eq {v : Json} (h : v.isScalar = true) :
    rendered? v = if isLeftOut v then none else some (fieldText v) := by
  cases v with
  | null => rfl
  | bool b => cases b <;> rfl
  | int n => exact congrArg some (ofList_intChars n).symm
  | string s => simp [rendered?, isLeftOut, fieldText, Json.plain]
  | number x => cases h
  | array items => cases h
  | object members => cases h

/-- The pairs of a query are those that scalar fields leave. -/
theorem queryPairs_eq {fields : Json.Members}
    (h : ∀ field ∈ fields, Json.isScalar field.2 = true) :
    queryPairs fields = renderedPairs fields := by
  induction fields with
  | nil => rfl
  | cons field rest ih =>
    obtain ⟨k, v⟩ := field
    have hv := rendered?_eq (h (k, v) List.mem_cons_self)
    have hrest := ih fun field hf => h field (List.mem_cons_of_mem _ hf)
    rw [queryPairs, renderedPairs] at *
    cases hl : isLeftOut v with
    | true =>
      rw [List.filter_cons_of_neg (by simp [hl]), List.filterMap_cons_none (by simp [hv, hl]), hrest]
    | false =>
      rw [List.filter_cons_of_pos (by simp [hl]), List.map_cons,
        List.filterMap_cons_some (by rw [hv, hl]; rfl), hrest]

/-! ## 2. Requests -/

/-- `r.Carries base pairs`: the request asks for the URL `base` and shows the pairs in it and nothing
else.  Without pairs the URL is `base` itself, else there is a query behind it from which they are
read. -/
structure Request.Carries (r : Request) (base : String) (pairs : List (String × String)) :
    Prop where
  method : r.method = "GET"
  body : r.body = ""
  bare : pairs = [] → r.url = base
  query : pairs ≠ [] → ∃ q, r.url = base ++ "?" ++ q ∧ Form.decode? q = some pairs

end Http

namespace Client

theorem carries_request (c : Client) (base : String) (pairs : List (String × String))
    (locked : Bool) : (c.request "GET" base (.query pairs) locked).Carries base pairs where
  method := rfl
  body := rfl
  bare h := by subst h; rfl
  query h := ⟨Form.encode pairs, Http.Request.url_of_query h, Form.decode?_encode pairs⟩

/-- **A GET query carries its fields.**  One request goes out, and its URL shows the scalar fields
that are neither null nor empty. -/
theorem query_carries {c : Client} (hc : c.closed = false) (remote : Http.Remote σ)
    {method : String} (hm : Text.upper method = "GET") (path version : String)
    {fields : Json.Members} (hf : ∀ field ∈ fields, Json.isScalar field.2 = true) (w : Wire σ) :
    ∃ r, (c.query remote method path version fields w).requests = [r] ∧
      r.Carries (c.urlFor path version) (Http.renderedPairs fields) := by
  refine ⟨_, query_requests hc remote path version (ofFields_get hm fields) w, ?_⟩
  rw [hm, ← Http.queryPairs_eq hf]
  exact c.carries_request _ _ _

end Client

/-! ## 3. Operations that read -/

/-- What an operation asks of the service. -/
inductive Inquiry
  | status (path : String)
  | content (path : String) (format : Option ExportFormat)
  | listing (path : String)

namespace Inquiry

/-- The path that is asked about. -/
def path : Inquiry → String
  | status path => path
  | content path _ => path
  | listing path => path

/-- The format that is asked for. -/
def format? : Inquiry → Option ExportFormat
  | content _ format => format
  | _ => none

/-- The path of the interface. -/
def endpoint : Inquiry → String
  | status _ => "/workspace/get-status"
  | content _ _ => "/workspace/export"
  | listing _ => Connection.listPath

/-- The pair for a path, unless it is empty. -/
def pathPairs (path : String) : List (String × String) :=
  if path = "" then [] else [("path", path)]

/-- The pairs that the service is to see: the path, and the format if one is asked for. -/
def pairs (i : Inquiry) : List (String × String) :=
  pathPairs i.path ++ (i.format?.map fun format => ("format", format.name)).toList

/-- What the operation sends. -/
def requests (c : Connection σ) (w : Wire σ) : Inquiry → List Http.Request
  | status path => (c.read path w).requests
  | content path format => (c.exportContent path format w).requests
  | listing path => (c.list path false w).requests

theorem queryPairs_path (path : String) :
    Http.queryPairs [("path", .string path)] = pathPairs path := by
  by_cases h : path = "" <;>
    simp [Http.queryPairs, Http.isLeftOut, Http.fieldText, Json.plain, pathPairs, h]

/-- The pairs of a query for a path and a format. -/
theorem queryPairs_content (path : String) (format : Option ExportFormat) :
    Http.queryPairs [("path", .string path),
        ("format", Connection.optionalName (format.map ExportFormat.name))] =
      (content path format).pairs := by
  have hformat : Http.queryPairs
      [("format", Connection.optionalName (format.map ExportFormat.name))] =
        (format.map fun format => ("format", format.name)).toList := by
    cases format with
    | none => rfl
    | some format => cases format <;> rfl
  have hpairs : (content path format).pairs =
      pathPairs path ++ (format.map fun format => ("format", format.name)).toList := rfl
  rw [hpairs, ← queryPairs_path, ← hformat]
  simp only [Http.queryPairs, ← List.map_append, ← List.filter_append, List.singleton_append]

/-- An operation that reads sends one request, for its path and its format. -/
theorem requests_eq {c : Connection σ} (hc : c.client.closed = false) (i : Inquiry) (w : Wire σ) :
    i.requests c w =
      [c.client.request "GET" (c.client.urlFor i.endpoint apiVersion) (.query i.pairs)
        w.lockHeld] := by
  -- only the query sends: records and checks of the answer are silent
  have hget {path : String} (fields : Json.Members) :
      (c.query "GET" path fields w).requests =
        [c.client.request "GET" (c.client.urlFor path apiVersion)
          (.query (Http.queryPairs fields)) w.lockHeld] := by
    rw [Connection.query, Client.query_requests hc c.remote path apiVersion
      (Client.ofFields_get Client.upper_get fields), Client.upper_get]
  cases i with
  | status path =>
    have hquiet (body : Json.Members) : Action.Silent (ω := Wire σ) (do
        let status ← Action.ofResult (ObjectStatus.ofJson (.object body))
        Action.log (Log.apiResult Connection.service "get-status" none)
        return status) :=
      .bind (.ofResult _) fun _ => .bind (.log _) fun _ => .pure _
    rw [requests, Connection.read, Action.requests_bind_of_silent_left (.log _) rfl,
      Action.requests_bind_of_silent hquiet, Action.log_run, hget, queryPairs_path]
    simp [pairs, Inquiry.path, format?, endpoint]
  | content path format =>
    have hquiet (body : Json.Members) : Action.Silent (ω := Wire σ) (do
        let content ← Action.ofResult (Content.ofJson (.object body))
        Action.log (Log.apiResult Connection.service "export" none)
        return content.base64) :=
      .bind (.ofResult _) fun _ => .bind (.log _) fun _ => .pure _
    rw [requests, Connection.exportContent, Action.requests_bind_of_silent_left (.log _) rfl,
      Action.requests_bind_of_silent hquiet, Action.log_run, hget, queryPairs_content]
    rfl
  | listing path =>
    rw [requests, Connection.list, if_neg Bool.false_ne_true, Connection.listDirectory_requests, hc,
      if_neg Bool.false_ne_true, Connection.listRequest, queryPairs_path]
    simp [pairs, Inquiry.path, format?, endpoint]

theorem head?_pairs {i : Inquiry} (h : i.path ≠ "") : i.pairs.head? = some ("path", i.path) := by
  simp [pairs, pathPairs, h]

end Inquiry

/-! ## 4. Nothing is lost, and nothing gets in -/

namespace Connection

/-- **What is asked for arrives, and nothing else.**  On an open client:

* a GET query of scalar fields sends one request, which carries those that are neither null nor
  empty;
* an operation that reads sends one request, which carries its path and its format;
* a recursive listing sends requests that carry the path of a directory;
* and operations for different paths that are not empty never send the same URL. -/
theorem get_lossless (c : Connection σ) (hc : c.client.closed = false) (w : Wire σ) :
    (∀ method path version fields, Text.upper method = "GET" →
      (∀ field ∈ fields, Json.isScalar field.2 = true) →
      ∃ r, (c.client.query c.remote method path version fields w).requests = [r] ∧
        r.Carries (c.client.urlFor path version) (Http.renderedPairs fields)) ∧
    (∀ i : Inquiry, ∃ r, i.requests c w = [r] ∧
      r.Carries (c.client.urlFor i.endpoint apiVersion) i.pairs) ∧
    (∀ root, ∀ r ∈ (c.list root true w).requests, ∃ directory,
      r.Carries (c.client.urlFor listPath apiVersion) (Inquiry.pathPairs directory)) ∧
    (∀ (i i' : Inquiry) (w' : Wire σ), i.path ≠ "" → i'.path ≠ "" →
      ∀ r ∈ i.requests c w, ∀ r' ∈ i'.requests c w', r.url = r'.url → i.path = i'.path) := by
  refine ⟨?_, ?_, ?_, ?_⟩
  · intro method path version fields hm hf
    exact Client.query_carries hc c.remote hm path version hf w
  · intro i
    exact ⟨_, i.requests_eq hc w, c.client.carries_request _ _ _⟩
  · intro root r hr
    obtain ⟨calls, result, -, -, hrequests⟩ := c.course_of_list root w
    rw [hrequests, hc, if_neg Bool.false_ne_true] at hr
    obtain ⟨call, -, rfl⟩ := List.mem_map.mp hr
    refine ⟨call.path, ?_⟩
    rw [listRequest, Inquiry.queryPairs_path]
    exact c.client.carries_request _ _ _
  · intro i i' w' hi hi' r hr r' hr' hurl
    rw [i.requests_eq hc, List.mem_singleton] at hr
    rw [i'.requests_eq hc, List.mem_singleton] at hr'
    subst hr
    subst hr'
    -- with a path there is a query, and the URL shows it
    have hne : i.pairs ≠ [] := fun h => by simpa [h] using Inquiry.head?_pairs hi
    have hne' : i'.pairs ≠ [] := fun h => by simpa [h] using Inquiry.head?_pairs hi'
    obtain ⟨-, hquery⟩ := Http.Request.url_inj hne hne' hurl
    have hpairs : i.pairs = i'.pairs := hquery
    have hhead := congrArg List.head? hpairs
    rw [Inquiry.head?_pairs hi, Inquiry.head?_pairs hi'] at hhead
    simpa using hhead

end Connection

/-- Marks, blanks, controls and characters outside ASCII travel unharmed; a path that holds another
pair, and one that holds the space and not the plus sign, stay apart from their likes. -/
theorem get_lossless_shelf :
    Text.upper "get" = "GET" ∧
      (∃ r, (Shelf.connection.client.query Shelf.connection.remote "get" "/workspace/list"
          apiVersion [("path", .string "/a&format=x#?%2F+ \n\x00é€𝄞"), ("n", .int (-12)),
            ("none", .null), ("empty", .string ""), ("b", .bool true)] ⟨[], false⟩).requests = [r] ∧
        r.Carries "https://example.com/api/2.0/workspace/list"
          [("path", "/a&format=x#?%2F+ \n\x00é€𝄞"), ("n", "-12"), ("b", "true")]) ∧
      ∀ r ∈ (Inquiry.status "/a b").requests Shelf.connection ⟨[], false⟩,
        ∀ r' ∈ (Inquiry.status "/a+b").requests Shelf.connection ⟨[], false⟩, r.url ≠ r'.url := by
  have hupper : Text.upper "get" = "GET" := by decide +kernel
  obtain ⟨hquery, -, -, hpaths⟩ :=
    Connection.get_lossless Shelf.connection rfl ⟨[], false⟩
  refine ⟨hupper, hquery "get" "/workspace/list" apiVersion _ hupper (by decide +kernel), ?_⟩
  intro r hr r' hr' hurl
  exact absurd (hpaths (.status "/a b") (.status "/a+b") ⟨[], false⟩ (by decide) (by decide)
    r hr r' hr' hurl) (by decide)

end Workspace
