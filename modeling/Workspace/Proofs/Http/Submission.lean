/-
# What a request that changes something carries

The fields of every request but GET travel in its body, as the text of a JSON object.
`Http.Request.Conveys` says what a request shows to whoever reads its body as JSON, and
`Connection.post_lossless` that this is exactly what was given: the fields that are not null, in
order, with everything inside them as it was; and for the operations that change a workspace the
path, the content, the names and the flags.

Values without fractions are `Json.Exact`: their text says all there is to say about them.

`Change` gathers the operations that change a workspace.
-/
import Workspace.Proofs.Effect
import Workspace.Proofs.Http.Posting
import Workspace.Proofs.Walk.Service
namespace Workspace

variable {σ : Type}

/-! ## 1. No controls in a compact text -/

namespace Json

/-- A value that its text conveys in full: no number with a fraction occurs in it, its integers are
not too long, and none of its objects has a key twice. -/
structure Exact (v : Json) : Prop where
  legible : v.Legible
  noNumber : v.Everywhere IsNoNumber

/-- A character that is no control below U+0020. -/
abbrev IsNoControl (c : Char) : Prop := 0x20 ≤ c.toNat

theorem isNoControl_of_shortEscape? {c letter : Char} (h : shortEscape? c = some letter) :
    IsNoControl letter := by
  have hletters : ∀ entry ∈ escapeLetters, IsNoControl entry.1 := by decide
  exact hletters _ (mem_escapeLetters h)

/-- What the compact form writes for a character holds no control. -/
theorem isNoControl_escapeControls (c : Char) : ∀ d ∈ escapeControls c, IsNoControl d := by
  have hbackslash : IsNoControl '\\' := by decide
  unfold escapeControls
  split
  · next letter hletter =>
    exact List.forall_mem_cons.mpr ⟨hbackslash,
      List.forall_mem_singleton.mpr (isNoControl_of_shortEscape? hletter)⟩
  · split
    · have hu : IsNoControl 'u' := by decide
      have hhex : ∀ d < 16, IsNoControl (Text.Hex.digit d) := by decide
      exact List.forall_mem_cons.mpr ⟨hbackslash,
        List.forall_mem_cons.mpr ⟨hu, Text.Hex.forall_mem_digits hhex 4 _⟩⟩
    · next hcontrol => exact List.forall_mem_singleton.mpr (Nat.le_of_not_lt hcontrol)

theorem isNoControl_quoted (s : String) : ∀ c ∈ quoted escapeControls s, IsNoControl c :=
  forall_mem_quoted (by decide) isNoControl_escapeControls s

theorem isNoControl_of_isDigit {c : Char} (h : c.isDigit = true) : IsNoControl c := by
  simp only [Char.isDigit, Bool.and_eq_true, decide_eq_true_eq, ge_iff_le,
    UInt32.le_iff_toNat_le] at h
  exact le_trans (by decide) h.1

section Compact

variable {entries : Members} {items : List Json}

/-- The items of an array hold no control, if none of them does. -/
theorem isNoControl_compactItems (h : ∀ v ∈ items, ∀ c ∈ v.compactChars, IsNoControl c) :
    ∀ c ∈ compactItems items, IsNoControl c := by
  have hcomma : IsNoControl ',' := by decide
  induction items with
  | nil => exact fun _ h => nomatch h
  | cons v rest ih =>
    have hv := h v List.mem_cons_self
    cases rest with
    | nil => exact hv
    | cons w rest =>
      have hrest := ih fun v hmem => h v (List.mem_cons_of_mem _ hmem)
      exact List.forall_mem_append.mpr ⟨hv, List.forall_mem_cons.mpr ⟨hcomma, hrest⟩⟩

/-- The members of an object hold no control, if none of their values does. -/
theorem isNoControl_compactMembers
    (h : ∀ v ∈ entries.map Prod.snd, ∀ c ∈ v.compactChars, IsNoControl c) :
    ∀ c ∈ compactMembers entries, IsNoControl c := by
  have hcomma : IsNoControl ',' := by decide
  have hcolon : IsNoControl ':' := by decide
  induction entries with
  | nil => exact fun _ h => nomatch h
  | cons entry rest ih =>
    obtain ⟨k, v⟩ := entry
    have hk := isNoControl_quoted k
    have hv := h v List.mem_cons_self
    cases rest with
    | nil => exact List.forall_mem_append.mpr ⟨hk, List.forall_mem_cons.mpr ⟨hcolon, hv⟩⟩
    | cons next rest =>
      have hrest := ih fun v hmem => h v (List.mem_cons_of_mem _ hmem)
      exact List.forall_mem_append.mpr ⟨hk, List.forall_mem_cons.mpr ⟨hcolon,
        List.forall_mem_append.mpr ⟨hv, List.forall_mem_cons.mpr ⟨hcomma, hrest⟩⟩⟩⟩

/-- **The compact text of a value holds no control**, whatever its strings hold. -/
theorem isNoControl_compactChars {v : Json} (h : v.Everywhere IsNoNumber) :
    ∀ c ∈ v.compactChars, IsNoControl c := by
  have hword {w : String} (hw : w.toList.all (fun c => 0x20 ≤ c.toNat) = true) :
      ∀ c ∈ w.toList, IsNoControl c :=
    fun c hc => of_decide_eq_true (List.all_eq_true.mp hw c hc)
  have hbracket {l r : Char} {t : List Char} (hl : IsNoControl l) (hr : IsNoControl r)
      (ht : ∀ c ∈ t, IsNoControl c) : ∀ c ∈ l :: t ++ [r], IsNoControl c :=
    List.forall_mem_append.mpr ⟨List.forall_mem_cons.mpr ⟨hl, ht⟩, List.forall_mem_singleton.mpr hr⟩
  -- the compact form holds no line break, unlike the indented one
  induction h with
  | @intro v hv _ ih =>
    cases v with
    | null => exact hword (w := "null") (by decide)
    | bool b =>
      cases b with
      | false => exact hword (w := "false") (by decide)
      | true => exact hword (w := "true") (by decide)
    | int n => exact forall_mem_intChars (by decide) (fun _ h => isNoControl_of_isDigit h) n
    | number x => exact hv.elim
    | string s => exact isNoControl_quoted s
    | array items =>
      exact hbracket (by decide) (by decide)
        (isNoControl_compactItems ih)
    | object members =>
      exact hbracket (by decide) (by decide)
        (isNoControl_compactMembers ih)

end Compact

end Json

/-! ## 2. The fields that are sent -/

namespace Json

variable {sent fields : Members}

/-- `sent.NonNullOf fields`: those of the fields that are not null, in their order. -/
structure Members.NonNullOf (sent fields : Members) : Prop where
  order : sent.Sublist fields
  mem_iff : ∀ field ∈ fields, field ∈ sent ↔ field.2 ≠ .null

/-- Some members of an object are conveyed in full if the object is. -/
theorem Exact.of_sublist (h : (object fields).Exact) (hsub : sent.Sublist fields) :
    (object sent).Exact := by
  have hparts : ∀ w ∈ (object sent).parts, w ∈ (object fields).parts :=
    fun w hw => (hsub.map Prod.snd).subset hw
  exact ⟨.intro ((hsub.map Prod.fst).nodup h.legible.here)
      fun w hw => h.legible.of_mem_parts (hparts w hw),
    .intro trivial fun w hw => h.noNumber.of_mem_parts (hparts w hw)⟩

theorem exact_of_flat (h : ∀ field ∈ fields, IsFlat field.2) (hkeys : fields.keys.Nodup) :
    (object fields).Exact where
  legible := everywhere_of_flat h hkeys fun v hv => by cases hv <;> trivial
  noNumber := noNumber_of_flat h

end Json

namespace Http

/-- The fields that a request keeps are those that are not null. -/
theorem presentFields_nonNullOf (fields : Json.Members) :
    (presentFields fields).NonNullOf fields where
  order := List.filter_sublist
  mem_iff field hmem := by
    obtain ⟨k, v⟩ := field
    rw [presentFields, List.mem_filter]
    cases v <;> simp [hmem]

/-- Fields without numbers have a payload, which is a body for every method but GET. -/
theorem Payload.ofFields_of_exact {fields : Json.Members} (h : (Json.object fields).Exact)
    {method : String} (hm : method ≠ "GET") :
    ofFields method fields = .ok (body (bodyOf (presentFields fields))) := by
  have hfinite : (Json.object (presentFields fields)).allFinite = true :=
    Json.allFinite_of_noNumber (h.of_sublist (presentFields_nonNullOf fields).order).noNumber
  rw [ofFields, if_neg hm, Json.compact?, if_pos hfinite]
  rfl

/-! ## 3. Requests -/

/-- `r.Conveys method base fields`: the request goes to the URL `base` with a JSON body, which reads
as the fields, be it by its characters or by its bytes, and which holds no control. -/
structure Request.Conveys (r : Request) (method base : String) (fields : Json.Members) : Prop where
  method : r.method = method
  url : r.url = base
  contentType : r.contentType = some "application/json"
  text : Json.ofString r.body = .ok (.object fields)
  bytes : Json.ofBytes (Utf8.ofString r.body) = .ok (.object fields)
  noControl : ∀ c ∈ r.body.toList, Json.IsNoControl c

end Http

namespace Client

/-- A request with the body for some fields conveys them. -/
theorem conveys_request (c : Client) (method base : String) {fields : Json.Members}
    (h : (Json.object fields).Exact) (locked : Bool) :
    (c.request method base (.body (Http.Payload.bodyOf fields)) locked).Conveys method base
      fields := by
  have hspells := h.legible.compact
  rw [Json.reread_eq_self h.noNumber] at hspells
  have hlist : (Http.Payload.bodyOf fields).toList = (Json.object fields).compactChars :=
    String.toList_ofList
  refine ⟨rfl, rfl, rfl, hspells.ofString, ?_, ?_⟩
  · have hbytes := hspells.ofBytes
    rwa [← hlist] at hbytes
  · have hcontrol := Json.isNoControl_compactChars h.noNumber
    rwa [← hlist] at hcontrol

/-- **A query that is no GET query conveys its fields.**  One request goes out, and its body reads
as the fields that are not null. -/
theorem query_conveys {c : Client} (hc : c.closed = false) (remote : Http.Remote σ)
    {method : String} (hm : Text.upper method ≠ "GET") (path version : String)
    {fields : Json.Members} (hf : (Json.object fields).Exact) (w : Wire σ) :
    ∃ r, (c.query remote method path version fields w).requests = [r] ∧
      r.Conveys (Text.upper method) (c.urlFor path version) (Http.presentFields fields) :=
  ⟨_, query_requests hc remote path version (Http.Payload.ofFields_of_exact hf hm) w,
    c.conveys_request _ _ (hf.of_sublist (Http.presentFields_nonNullOf fields).order) _⟩

end Client

/-! ## 4. Operations that change a workspace -/

/-- What an operation changes. -/
inductive Change
  | create (r : ImportRequest)
  | makeDirectories (path : String)
  | delete (r : DeleteRequest)

namespace Change

/-- The path of the interface. -/
def endpoint : Change → String
  | create _ => "/workspace/import"
  | makeDirectories _ => "/workspace/mkdirs"
  | delete _ => "/workspace/delete"

/-- What the service is to be told: a value for each name, or none. -/
def told : Change → List (String × Option Json)
  | create r =>
    [("path", some (.string r.path)), ("content", some (.string r.content)),
      ("overwrite", some (.bool r.overwrite)), ("language", r.language.map fun l => .string l.name),
      ("format", r.format.map fun f => .string f.name)]
  | makeDirectories path => [("path", some (.string path))]
  | delete r => [("path", some (.string r.path)), ("recursive", some (.bool r.recursive))]

/-- The value of one name: none for a name that says nothing. -/
def value? (change : Change) (key : String) : Option Json := (change.told.lookup key).join

/-- What the operation sends. -/
def requests (c : Connection σ) (w : Wire σ) : Change → List Http.Request
  | create r => (c.create r w).requests
  | makeDirectories path => (c.makeDirectories path w).requests
  | delete r => (c.delete r w).requests

/-- The fields of the request. -/
def fields : Change → Json.Members
  | create r => r.toMembers
  | makeDirectories path => [("path", .string path)]
  | delete r => r.toMembers

theorem isFlat_fields (change : Change) : ∀ field ∈ change.fields, field.2.IsFlat := by
  cases change with
  | create r => exact fun _ h => r.isFlat_of_mem h
  | makeDirectories path => exact Json.isFlat_singleton "path" path
  | delete r => exact fun _ h => r.isFlat_of_mem h

theorem keys_nodup (change : Change) : change.fields.keys.Nodup := by
  cases change with
  | create r => exact r.keys_nodup
  | makeDirectories path => exact List.nodup_singleton _
  | delete r => simp [fields, DeleteRequest.toMembers, Json.Members.keys]

/-- Of names with at most one value each, those that have one keep it. -/
theorem lookup_present {told : List (String × Option Json)} (h : (told.map Prod.fst).Nodup)
    (key : String) :
    (told.filterMap fun entry => entry.2.map (entry.1, ·)).lookup key = (told.lookup key).join := by
  -- with distinct keys, a key that is told nothing of is not told of further down
  induction told with
  | nil => rfl
  | cons entry rest ih =>
    obtain ⟨k, v⟩ := entry
    obtain ⟨hnew, hrest⟩ := List.nodup_cons.mp h
    cases v with
    | some v =>
      simp only [List.filterMap_cons, Option.map_some, List.lookup_cons, ih hrest]
      cases key == k <;> rfl
    | none =>
      simp only [List.filterMap_cons, Option.map_none, ih hrest, List.lookup_cons]
      by_cases hkey : key = k
      · subst hkey
        have hnone : rest.lookup key = none := List.lookup_eq_none_iff.mpr fun entry hmem => by
          rw [bne_iff_ne]
          intro heq
          exact hnew (List.mem_map.mpr ⟨entry, hmem, heq.symm⟩)
        rw [hnone, beq_self_eq_true]
        rfl
      · rw [beq_false_of_ne hkey]

/-- The fields say what the service is to be told, and nothing else. -/
theorem get?_fields (change : Change) (key : String) :
    change.fields.get? key = change.value? key := by
  have hfields : change.fields = change.told.filterMap fun entry => entry.2.map (entry.1, ·) := by
    cases change with
    | create r =>
      obtain ⟨path, content, language, format, overwrite⟩ := r
      cases language <;> cases format <;> rfl
    | makeDirectories path => rfl
    | delete r => rfl
  have hnames : (change.told.map Prod.fst).Nodup := by cases change <;> simp [told]
  rw [Json.Members.get?, hfields, lookup_present hnames, value?]

/-- An operation that changes a workspace posts its fields, and sends nothing else. -/
theorem requests_eq {c : Connection σ} (hc : c.client.closed = false) (change : Change)
    (w : Wire σ) :
    ∃ locked, change.requests c w = [c.client.request "POST"
      (c.client.urlFor change.endpoint apiVersion) (.body (Http.Payload.bodyOf change.fields))
      locked] := by
  -- the post is the only part that sends; the lock is held around the creation of directories alone
  have hpost (w : Wire σ) : (c.query "POST" change.endpoint change.fields w).requests = _ :=
    Client.query_requests hc c.remote _ apiVersion
      (Http.Payload.ofFields_of_flat change.isFlat_fields (by rw [Client.upper_post]; decide)) w
  rw [Client.upper_post] at hpost
  have hquiet (r : Log.Record) (_ : Json.Members) :
      Action.Silent (ω := Wire σ) (Action.log r) := .log _
  cases change with
  | create r =>
    refine ⟨w.lockHeld, ?_⟩
    rw [requests, Connection.create, Action.requests_bind_of_silent_left (.log _) rfl,
      Action.requests_bind_of_silent (hquiet _), Action.log_run]
    exact hpost w
  | makeDirectories path =>
    refine ⟨true, ?_⟩
    rw [requests, Connection.makeDirectories, Action.requests_bind_of_silent_left (.log _) rfl,
      Action.requests_bind_of_silent (hquiet _), Action.log_run]
    exact hpost { w with lockHeld := true }
  | delete r =>
    refine ⟨w.lockHeld, ?_⟩
    rw [requests, Connection.delete, Action.requests_bind_of_silent_left (.log _) rfl,
      Action.requests_bind_of_silent (hquiet _), Action.log_run]
    exact hpost w

end Change

/-! ## 5. Nothing is lost, and nothing gets in -/

namespace Connection

/-- **What is submitted arrives, and nothing else.**  On an open client:

* a query with any method but GET, of fields without fractions, sends one request, whose body reads
  as the fields that are not null;
* an operation that changes a workspace sends one request, whose body tells what was asked for and
  nothing else. -/
theorem post_lossless (c : Connection σ) (hc : c.client.closed = false) (w : Wire σ) :
    (∀ method path version fields, Text.upper method ≠ "GET" → (Json.object fields).Exact →
      ∃ r sent, (c.client.query c.remote method path version fields w).requests = [r] ∧
        r.Conveys (Text.upper method) (c.client.urlFor path version) sent ∧
        sent.NonNullOf fields) ∧
    (∀ change : Change, ∃ r fields, change.requests c w = [r] ∧
      r.Conveys "POST" (c.client.urlFor change.endpoint apiVersion) fields ∧
      ∀ key, fields.get? key = change.value? key) := by
  constructor
  · intro method path version fields hm hf
    obtain ⟨r, hr, hconveys⟩ := Client.query_conveys hc c.remote hm path version hf w
    exact ⟨r, _, hr, hconveys, Http.presentFields_nonNullOf fields⟩
  · intro change
    obtain ⟨locked, hrequests⟩ := change.requests_eq hc w
    exact ⟨_, change.fields, hrequests,
      c.client.conveys_request _ _ (Json.exact_of_flat change.isFlat_fields change.keys_nodup) _,
      change.get?_fields⟩

end Connection

/-! ### A parcel -/

namespace Parcel

/-- Marks, a backslash, controls and characters outside ASCII. -/
def text : String := "\"\\\n\x00\x7fé€𝄞"

/-- An object with a null in it. -/
def inner : Json.Members := [("", .string text), ("none", .null)]

/-- Fields with such texts as names and values, and with nulls inside and outside of them. -/
def fields : Json.Members :=
  [(text, .array [.null, .object inner, .int (-12)]), ("none", .null), ("flag", .bool false),
    ("empty", .string "")]

theorem exact : (Json.object fields).Exact := by
  have hleaf {p : Json → Prop} {v : Json} (hv : p v) (hparts : v.parts = []) : v.Everywhere p :=
    .intro hv (by simp [hparts])
  -- a walk through the value, once for what each part must be and once for the numbers
  have hall {p : Json → Prop} (hfields : p (.object fields)) (hinner : p (.object inner))
      (harray : ∀ items, p (.array items)) (hnull : p .null) (hint : p (.int (-12)))
      (hflat : ∀ v : Json, v.IsFlat → p v) : (Json.object fields).Everywhere p := by
    refine .intro hfields fun v hv => ?_
    simp only [Json.parts, fields, List.map_cons, List.map_nil, List.mem_cons, List.not_mem_nil,
      or_false] at hv
    rcases hv with rfl | rfl | rfl | rfl
    · refine .intro (harray _) fun v hv => ?_
      simp only [Json.parts, List.mem_cons, List.not_mem_nil, or_false] at hv
      rcases hv with rfl | rfl | rfl
      · exact hleaf hnull rfl
      · refine .intro hinner fun v hv => ?_
        simp only [Json.parts, inner, List.map_cons, List.map_nil, List.mem_cons,
          List.not_mem_nil, or_false] at hv
        rcases hv with rfl | rfl
        · exact hleaf (hflat _ (.string text)) rfl
        · exact hleaf hnull rfl
      · exact hleaf hint rfl
    · exact hleaf hnull rfl
    · exact hleaf (hflat _ (.bool false)) rfl
    · exact hleaf (hflat _ (.string "")) rfl
  constructor
  · refine hall ?_ ?_ (fun _ => trivial) trivial ?_ fun v hv => by cases hv <;> trivial
    · show (Json.Members.keys fields).Nodup
      decide
    · show (Json.Members.keys inner).Nodup
      decide
    · show 12 < 10 ^ Json.Reader.maxDigits
      exact Nat.lt_of_lt_of_le (by decide : 12 < 10 ^ 2)
        (Nat.pow_le_pow_right (by decide) (by decide))
  · exact hall trivial trivial (fun _ => trivial) trivial trivial
      fun v hv => by cases hv <;> trivial

end Parcel
/-- The parcel arrives without its null, and a notebook with its path as it is and without a
format. -/
theorem post_lossless_parcel :
    Text.upper "patch" = "PATCH" ∧ (Json.object Parcel.fields).Exact ∧
      (∃ r sent, (Shelf.connection.client.query Shelf.connection.remote "patch" "/x" apiVersion
          Parcel.fields ⟨[], false⟩).requests = [r] ∧
        r.Conveys "PATCH" "https://example.com/api/2.0/x" sent ∧
        sent.NonNullOf Parcel.fields) ∧
      ∃ (r : Http.Request) (fields : Json.Members),
        (Change.create ⟨Parcel.text, "", some .python, none, true⟩).requests Shelf.connection
          ⟨[], false⟩ = [r] ∧
        Json.ofString r.body = .ok (.object fields) ∧
        fields.get? "path" = some (.string Parcel.text) ∧
        fields.get? "language" = some (.string "PYTHON") ∧ fields.get? "format" = none := by
  have hupper : Text.upper "patch" = "PATCH" := by decide +kernel
  have hurl : Shelf.connection.client.urlFor "/x" apiVersion = "https://example.com/api/2.0/x" := by
    decide +kernel
  obtain ⟨hquery, hchange⟩ := Connection.post_lossless Shelf.connection rfl ⟨[], false⟩
  refine ⟨hupper, Parcel.exact, ?_, ?_⟩
  · rw [← hupper, ← hurl]
    exact hquery "patch" "/x" apiVersion Parcel.fields (by rw [hupper]; decide) Parcel.exact
  · obtain ⟨r, fields, hrequests, hconveys, htold⟩ :=
      hchange (.create ⟨Parcel.text, "", some .python, none, true⟩)
    exact ⟨r, fields, hrequests, hconveys.text, htold "path", htold "language", htold "format"⟩

end Workspace
