/-
# A listing that fails ends the walk

Take two services that give fixed answers and differ in the answer for one directory, whose listing
fails at the second of them.  `list_true_severed` compares a recursive listing at the two.  If the
first run asks for that directory, the second one is the same up to this request, and ends there
with the error of the listing as it is; if the first run does not ask for it, nothing changes.

The law is proved on courses.  `Course.severed` takes a course, and any course of the same task
with the one directory broken: its calls are those of the first up to the broken directory
(`upTo`), and its failure is the failure of that directory, whatever the task and however deep.
-/
import Workspace.Proofs.Walk.Service
namespace Workspace

open Walk

/-! ## 1. A trail up to a directory -/

/-- The trail up to the first occurrence of a directory, itself included; the whole trail if there
is none. -/
def upTo (directory : String) (trail : List String) : List String :=
  trail.take (trail.idxOf directory + 1)

section UpTo

variable {directory : String} {before after : List String}

@[simp] theorem upTo_nil : upTo directory [] = [] := rfl

@[simp] theorem upTo_cons_self : upTo directory (directory :: after) = [directory] := by
  simp [upTo]

theorem upTo_cons_of_ne {path : String} (h : path ≠ directory) :
    upTo directory (path :: after) = path :: upTo directory after := by
  simp [upTo, List.idxOf_cons_ne after h]

theorem upTo_of_notMem (h : directory ∉ before) : upTo directory before = before := by
  rw [upTo, List.idxOf_eq_length h]
  exact List.take_of_length_le (Nat.le_succ _)

theorem upTo_append_of_mem (h : directory ∈ before) :
    upTo directory (before ++ after) = upTo directory before := by
  have hlt := List.idxOf_lt_length_of_mem h
  rw [upTo, upTo, List.idxOf_append_of_mem h, List.take_append_of_le_length hlt]

theorem upTo_append_of_notMem (h : directory ∉ before) :
    upTo directory (before ++ after) = before ++ upTo directory after := by
  rw [upTo, upTo, List.idxOf_append_of_notMem h, Nat.add_assoc, List.take_length_add_append]

/-- In a trail without repetitions, the index of a directory tells how far its trail goes. -/
theorem upTo_of_getElem? {k : Nat} (hn : before.Nodup) (h : before[k]? = some directory) :
    upTo directory before = before.take (k + 1) := by
  obtain ⟨hk, rfl⟩ := List.getElem?_eq_some_iff.mp h
  rw [upTo, hn.idxOf_getElem k hk]

end UpTo

/-! ## 2. Two courses -/

namespace Walk.Course

variable {permitted permitted' : Call → Prop}
  {answers : String → Except Failure (List ObjectStatus)} {directory : String} {failure : Failure}
  {n : Nat} {task : Task} {seen : List String} {calls : List Call} {r : Except Failure Found}

/-- `CutOff permitted directory failure n task seen calls r`: a course calls what `calls` holds up to
the directory, and fails with it if it comes there; else it ends with `r`. -/
def CutOff (permitted : Call → Prop) (directory : String) (failure : Failure) (n : Nat) (task : Task)
    (seen : List String) (calls : List Call) (r : Except Failure Found) : Prop :=
  ∀ {calls' : List Call} {r' : Except Failure Found}, Course permitted n task seen calls' r' →
    calls'.map Call.path = upTo directory (calls.map Call.path) ∧
      r' = if directory ∈ calls.map Call.path then .error failure else r

/-- What is cut off below an entry is cut off there; else the cut is left to the entries behind it. -/
theorem CutOff.descended {path : String} {entry : ObjectStatus} {rest : List ObjectStatus}
    {found : List ObjectStatus} {seen' : List String} {below : List Call}
    (hd : entry.objectType = .directory) (hk : directoryKey entry.path ∉ seen)
    (hbelow : CutOff permitted directory failure n (.directory entry.path) seen below
      (.ok (found, seen')))
    (hrest : CutOff permitted directory failure n (.entries path rest) seen' calls r) :
    CutOff permitted directory failure n (.entries path (entry :: rest)) seen (below ++ calls)
      (r.map (prepend found)) := by
  intro calls' r' h
  by_cases hmem : directory ∈ below.map Call.path
  · rcases h.of_directory hd hk with ⟨failure', hb, rfl⟩ | ⟨_, _, _, _, _, hb, -⟩
    · obtain ⟨hcalls, hr⟩ := hbelow hb
      rw [if_pos hmem] at hr
      rw [List.map_append, upTo_append_of_mem hmem, if_pos (List.mem_append_left _ hmem)]
      exact ⟨hcalls, hr⟩
    · obtain ⟨-, hr⟩ := hbelow hb
      rw [if_pos hmem] at hr
      cases hr
  -- below the entry the two courses are the same, and so are the keys that they go on with
  · rcases h.of_directory hd hk with
      ⟨failure', hb, -⟩ | ⟨below', found', seen'', calls'', r'', hb, hentries, rfl, rfl⟩
    · obtain ⟨-, hr⟩ := hbelow hb
      rw [if_neg hmem] at hr
      cases hr
    · obtain ⟨hcalls, hr⟩ := hbelow hb
      rw [if_neg hmem] at hr
      cases hr
      obtain ⟨hcalls', rfl⟩ := hrest hentries
      rw [List.map_append, List.map_append, upTo_append_of_notMem hmem, hcalls,
        upTo_of_notMem hmem, hcalls', apply_ite (Except.map _)]
      simp [List.mem_append, hmem, Except.map]

/-- **A broken directory cuts a course off.**  Let the answers of the second course be those of the
first, but for one directory, which fails.  Then the second course calls what the first one does
up to that directory, and fails with it if it comes there. -/
theorem severed (hp : ∀ c, permitted c → c.answer = answers c.path)
    (hp' : ∀ c, permitted' c → c.answer = Function.update answers directory (.error failure) c.path)
    (h : Course permitted n task seen calls r) :
    CutOff permitted' directory failure n task seen calls r := by
  have hbroken : ∀ c, permitted' c → c.path = directory → c.answer = .error failure := by
    intro c hc hpath
    rw [hp' c hc, hpath, Function.update_self]
  have hsame {path : String} {answer answer' : Except Failure (List ObjectStatus)}
      {events events' : List Event} (hne : path ≠ directory)
      (hc : permitted ⟨path, answer, events⟩) (hc' : permitted' ⟨path, answer', events'⟩) :
      answer' = answer :=
    (hp' _ hc').trans ((Function.update_of_ne hne ..).trans (hp _ hc).symm)
  -- the second course takes the same steps as long as its answers are the same: each rule of the
  -- first one determines the rule of the second
  induction h with
  | exhausted _ =>
    intro calls' r' h'
    cases h'
    exact ⟨rfl, rfl⟩
  | @unlisted n path seen _ _ _ hc =>
    intro calls' r' h'
    by_cases heq : path = directory
    · subst heq
      simpa using h'.of_unlisted hbroken
    · cases h' with
      | unlisted _ hc' =>
        cases hsame heq hc hc'
        simp [upTo_cons_of_ne heq, Ne.symm heq]
      | listed _ hc' _ => cases hsame heq hc hc'
  | @listed n path seen entries events calls r _ hc _ ih =>
    intro calls' r' h'
    by_cases heq : path = directory
    · subst heq
      simpa using h'.of_unlisted hbroken
    · cases h' with
      | unlisted _ hc' => cases hsame heq hc hc'
      | listed _ hc' h' =>
        cases hsame heq hc hc'
        obtain ⟨hcalls, hr⟩ := ih h'
        simp [upTo_cons_of_ne heq, Ne.symm heq, hcalls, hr]
  | done =>
    intro calls' r' h'
    cases h'
    exact ⟨rfl, rfl⟩
  | notebook hn _ ih =>
    intro calls' r' h'
    obtain ⟨r₀, hrest, rfl⟩ := h'.of_notebook hn
    obtain ⟨hcalls, rfl⟩ := ih hrest
    refine ⟨hcalls, ?_⟩
    rw [apply_ite (Except.map _)]
    rfl
  | skipped hn hd _ ih =>
    intro calls' r' h'
    exact ih (h'.of_skipped hn hd)
  | clash hd hk =>
    intro calls' r' h'
    obtain ⟨rfl, rfl⟩ := h'.of_clash hd hk
    exact ⟨rfl, rfl⟩
  | broken hd hb ih =>
    intro calls' r' h'
    rcases h'.of_directory hd hb.key_notMem with ⟨failure', hb', rfl⟩ | ⟨_, _, _, _, _, hb', -⟩
    · exact ih hb'
    · obtain ⟨-, hr⟩ := ih hb'
      split at hr <;> cases hr
  | descended hd hb _ ih₁ ih₂ => exact ih₁.descended hd hb.key_notMem ih₂

end Walk.Course

/-! ## 3. Recursive listings -/

namespace Connection

variable {σ τ : Type}

/-- The same connection to another service. -/
def withRemote (c : Connection σ) (remote : Http.Remote τ) : Connection τ :=
  ⟨remote, c.client, c.maxDepth⟩

theorem list_true_requests_closed {c : Connection σ} (hc : c.client.closed = true) (root : String)
    (w : Wire σ) : (c.list root true w).requests = [] := by
  obtain ⟨calls, r, -, -, hrequests⟩ := c.course_of_list root w
  rw [hrequests, if_pos hc]

/-- A recursive listing on a closed client fails, whatever the service is. -/
theorem list_true_closed {c : Connection σ} (hc : c.client.closed = true) (root : String)
    (w : Wire σ) :
    (c.list root true w).result =
      .error (if c.maxDepth = 0 then .tooDeep else .closedClient) := by
  rw [(c.list_true_run root w).1]
  cases hm : c.maxDepth with
  | zero => rfl
  | succ n => simp [walk, collect, Action.bind_run, listDirectory_closed hc]

/-- With fixed answers, a listing is decided by the answer for its path. -/
theorem AnswersFrom.list_false_congr {c : Connection σ} {remote : Http.Remote τ} {w : Wire σ}
    {v : Wire τ} {answer answer' : String → Http.Outcome} (hs : c.AnswersFrom w.service answer)
    (hs' : (c.withRemote remote).AnswersFrom v.service answer') {path : String}
    (h : answer' path = answer path) :
    ((c.withRemote remote).list path false v).result = (c.list path false w).result := by
  have hl : (c.list path false w).result = _ := hs.listDirectory_result .start path
  have hl' : ((c.withRemote remote).list path false v).result = _ :=
    hs'.listDirectory_result .start path
  rw [hl, hl', h]
  rfl

/-- On an open client, the requests of a recursive listing and what becomes of it when the listing
of one directory is broken, by the trail of the directories that are listed. -/
theorem exists_trail (c : Connection σ) {w : Wire σ} {answer : String → Http.Outcome}
    (hopen : c.client.closed = false) (hs : c.AnswersFrom w.service answer)
    (remote : Http.Remote τ) {v : Wire τ} (hlock : v.lockHeld = w.lockHeld)
    {answer' : String → Http.Outcome} (hs' : (c.withRemote remote).AnswersFrom v.service answer')
    {directory : String} (hsame : ∀ path, path ≠ directory → answer' path = answer path)
    {failure : Failure}
    (hfail : ((c.withRemote remote).list directory false v).result = .error failure)
    (root : String) :
    ∃ trail : List String, trail.Nodup ∧
      (c.list root true w).requests = trail.map (fun path => c.listRequest path w.lockHeld) ∧
      ((c.withRemote remote).list root true v).requests =
        (upTo directory trail).map (fun path => c.listRequest path w.lockHeld) ∧
      ((c.withRemote remote).list root true v).result =
        if directory ∈ trail then .error failure else (c.list root true w).result := by
  obtain ⟨calls, r, hc, hresult, hrequests⟩ := c.course_of_list root w
  obtain ⟨calls', r', hc', hresult', hrequests'⟩ := (c.withRemote remote).course_of_list root v
  have hp : ∀ call, c.Made w call → call.answer = (c.list call.path false w).result :=
    fun call hm => hm.answer_eq hs
  have hp' : ∀ call, (c.withRemote remote).Made v call → call.answer =
      Function.update (fun path => (c.list path false w).result) directory (.error failure)
        call.path := by
    intro call hm
    rw [hm.answer_eq hs']
    by_cases heq : call.path = directory
    · rw [heq, Function.update_self, hfail]
    · rw [Function.update_of_ne heq, hs.list_false_congr hs' (hsame _ heq)]
  obtain ⟨htrail, hr⟩ := hc.severed hp hp' hc'
  have hopen' : (c.withRemote remote).client.closed = false := hopen
  refine ⟨calls.map Call.path, (hc.nodup_keys List.nodup_nil).of_map directoryKey, ?_, ?_, ?_⟩
  · simp [hrequests, hopen]
  · rw [hrequests', hopen', ← htrail, List.map_map, hlock]
    rfl
  · rw [hresult', hresult, hr, apply_ite (Except.map _)]
    rfl

/-- **A listing that fails ends the walk.**  Take two services that give fixed answers, which
differ in the answer for one directory only, and let its listing fail at the second one.  If a
recursive listing at the first service asks for the directory, then at the second one it sends the
same requests up to this one and no more, and fails with the failure of that listing.  If it does
not ask for the directory, it is the same at both. -/
theorem list_true_severed (c : Connection σ) {w : Wire σ} {answer : String → Http.Outcome}
    (hs : c.AnswersFrom w.service answer) (remote : Http.Remote τ) {v : Wire τ}
    (hlock : v.lockHeld = w.lockHeld) {answer' : String → Http.Outcome}
    (hs' : (c.withRemote remote).AnswersFrom v.service answer') {directory : String}
    (hsame : ∀ path, path ≠ directory → answer' path = answer path) {failure : Failure}
    (hfail : ((c.withRemote remote).list directory false v).result = .error failure)
    (root : String) :
    let whole := c.list root true w
    let severed := (c.withRemote remote).list root true v
    (∀ k, whole.requests[k]? = some (c.listRequest directory w.lockHeld) →
      severed.requests = whole.requests.take (k + 1) ∧ severed.result = .error failure) ∧
    (c.listRequest directory w.lockHeld ∉ whole.requests →
      severed.requests = whole.requests ∧ severed.result = whole.result) := by
  dsimp only
  cases hopen : c.client.closed with
  | true =>
    -- nothing is sent, so that the first part is void
    have hopen' : (c.withRemote remote).client.closed = true := hopen
    rw [list_true_requests_closed hopen, list_true_requests_closed hopen', list_true_closed hopen,
      list_true_closed hopen']
    refine ⟨?_, fun _ => ⟨rfl, rfl⟩⟩
    intro k hk
    cases hk
  | false =>
    obtain ⟨trail, hn, hwhole, hsevered, hresult⟩ :=
      c.exists_trail hopen hs remote hlock hs' hsame hfail root
    rw [hsevered, hwhole, hresult]
    constructor
    · intro k hk
      rw [List.getElem?_map, Option.map_eq_some_iff] at hk
      obtain ⟨path, hk, hpath⟩ := hk
      obtain rfl := listRequest_inj.mp hpath
      rw [upTo_of_getElem? hn hk, List.map_take, if_pos (List.mem_of_getElem? hk)]
      exact ⟨rfl, rfl⟩
    · intro hnot
      have hmem : directory ∉ trail := by
        intro hmem
        exact hnot (List.mem_map.mpr ⟨directory, hmem, rfl⟩)
      rw [upTo_of_notMem hmem, if_neg hmem]
      exact ⟨rfl, rfl⟩

end Connection

namespace Shelf

/-- The shelf, when no answer comes in time for its directory. -/
def broken : Script := ⟨script.tree.map fun (path, outcome) =>
  (path, if path = "/r/d/" then .timedOut "no answer" else outcome)⟩

/-- The answer for each path. -/
def brokenAnswer (path : String) : Http.Outcome :=
  (broken.tree.lookup path).getD Script.emptyResponse

theorem answersFrom_broken : (connection.withRemote broken.remote).AnswersFrom [] brokenAnswer :=
  Connection.answersFrom_script rfl (by decide +kernel)

theorem brokenAnswer_of_ne (path : String) (h : path ≠ "/r/d/") :
    brokenAnswer path = answer path := by
  simp [brokenAnswer, broken, answer, script, List.lookup_cons, beq_false_of_ne h]

/-- What becomes of the directory. -/
def timeout : Failure :=
  .error (.plain .timeout "GET /workspace/list timed out: no answer")

theorem list_broken :
    ((connection.withRemote broken.remote).list "/r/d/" false ⟨[], false⟩).result =
      .error timeout := by
  have hl : ((connection.withRemote broken.remote).list "/r/d/" false ⟨[], false⟩).result = _ :=
    answersFrom_broken.listDirectory_result .start "/r/d/"
  rw [hl]
  rfl

end Shelf

/-- The second request is for the directory, and it is the last one if no answer comes. -/
theorem list_true_severed_shelf :
    (Shelf.connection.list "/r" true ⟨[], false⟩).requests[1]? =
        some (Shelf.connection.listRequest "/r/d/" false) ∧
      ((Shelf.connection.withRemote Shelf.broken.remote).list "/r" true ⟨[], false⟩).requests =
        (Shelf.connection.list "/r" true ⟨[], false⟩).requests.take 2 ∧
      ((Shelf.connection.withRemote Shelf.broken.remote).list "/r" true ⟨[], false⟩).result =
        .error Shelf.timeout := by
  have hk : (Shelf.connection.list "/r" true ⟨[], false⟩).requests[1]? =
      some (Shelf.connection.listRequest "/r/d/" false) := by decide +kernel
  exact ⟨hk, (Connection.list_true_severed Shelf.connection (w := ⟨[], false⟩) Shelf.answersFrom
    Shelf.broken.remote (v := ⟨[], false⟩) rfl Shelf.answersFrom_broken Shelf.brokenAnswer_of_ne
    Shelf.list_broken "/r").1 1 hk⟩

end Workspace
