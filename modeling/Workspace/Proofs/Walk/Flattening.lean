/-
# What a recursive listing returns

The plain reading of a recursive listing has no memory: go through the listing of a directory,
keep what is a notebook, put in place of a directory what its own listing comes to, and leave out
all else.  `flatten` is that reading, and `preorder` lists the directories that it opens, each
before those below it.  Neither carries keys that were seen or notebooks that were found.  Both
follow the unfolding to a given depth and have no value if it goes deeper or meets a directory that
cannot be listed; a value that they have is the same at any greater depth (`flatten_of_le`,
`preorder_of_le`).

`list_true_eq_flatten` says that a recursive listing which returns agrees with both: it returns
the flattening, and it has sent the request for each directory once, in preorder.
-/
import Workspace.Proofs.Walk.Service
namespace Workspace

open Walk

/-! ## 1. Flattening and preorder -/

/-- The notebooks below a directory: the entries of its listing in order, with a notebook for
itself, what is below a directory in its place, and nothing for any other entry. -/
def flatten (listings : String → Option (List ObjectStatus)) :
    (depth : Nat) → (directory : String) → Option (List ObjectStatus)
  | 0, _ => none
  | depth + 1, directory => do
    let entries ← listings directory
    let parts ← entries.mapM fun entry =>
      match entry.objectType with
      | .notebook => some [entry]
      | .directory => flatten listings depth entry.path
      | _ => some []
    return parts.flatten

/-- The directories that the flattening of a directory opens, each before those below it. -/
def preorder (listings : String → Option (List ObjectStatus)) :
    (depth : Nat) → (directory : String) → Option (List String)
  | 0, _ => none
  | depth + 1, directory => do
    let entries ← listings directory
    let parts ← (subdirectories entries).mapM (preorder listings depth)
    return directory :: parts.flatten

/-- A map over a list that has a value keeps it if its function keeps its values. -/
theorem mapM_eq_some_of_imp {α β : Type} {f g : α → Option β}
    (h : ∀ x y, f x = some y → g x = some y) :
    ∀ {xs : List α} {ys : List β}, xs.mapM f = some ys → xs.mapM g = some ys := by
  intro xs
  induction xs with
  | nil =>
    intro ys hys
    exact hys
  | cons x xs ih =>
    intro ys hys
    simp only [List.mapM_cons, Option.bind_eq_bind, Option.bind_eq_some_iff, Option.pure_def]
      at hys ⊢
    obtain ⟨y, hy, zs, hzs, heq⟩ := hys
    exact ⟨y, h x y hy, zs, ih hzs, heq⟩

namespace Walk

/-- What an entry contributes to the flattening. -/
def share (listings : String → Option (List ObjectStatus)) (depth : Nat) (entry : ObjectStatus) :
    Option (List ObjectStatus) :=
  match entry.objectType with
  | .notebook => some [entry]
  | .directory => flatten listings depth entry.path
  | _ => some []

/-- What a task comes to, by the flattening. -/
def Task.flatten (listings : String → Option (List ObjectStatus)) (depth : Nat) :
    Task → Option (List ObjectStatus)
  | .directory path => Workspace.flatten listings depth path
  | .entries _ rest => (rest.mapM (share listings depth)).map List.flatten

/-- The directories that a task opens, by the preorder. -/
def Task.preorder (listings : String → Option (List ObjectStatus)) (depth : Nat) :
    Task → Option (List String)
  | .directory path => Workspace.preorder listings depth path
  | .entries _ rest =>
    ((subdirectories rest).mapM (Workspace.preorder listings depth)).map List.flatten

section Equations

variable {listings : String → Option (List ObjectStatus)} {depth : Nat} {path : String}
  {entry : ObjectStatus} {entries rest notebooks found : List ObjectStatus}
  {above trail : List String}

theorem flatten_directory (h : listings path = some entries) :
    (Task.directory path).flatten listings (depth + 1) =
      (Task.entries path entries).flatten listings depth := by
  have hshares : Workspace.flatten listings (depth + 1) path =
      (listings path).bind fun entries =>
        (entries.mapM (share listings depth)).bind fun parts => some parts.flatten := rfl
  rw [Task.flatten, hshares, h, Task.flatten]
  cases hp : entries.mapM (share listings depth) <;> simp [hp]

theorem preorder_directory (h : listings path = some entries)
    (ht : (Task.entries path entries).preorder listings depth = some trail) :
    (Task.directory path).preorder listings (depth + 1) = some (path :: trail) := by
  obtain ⟨parts, hp, rfl⟩ := Option.map_eq_some_iff.mp ht
  rw [Task.preorder, Workspace.preorder, h]
  simp [hp]

theorem flatten_entries_cons (hs : share listings depth entry = some notebooks)
    (hr : (Task.entries path rest).flatten listings depth = some found) :
    (Task.entries path (entry :: rest)).flatten listings depth = some (notebooks ++ found) := by
  obtain ⟨parts, hp, rfl⟩ := Option.map_eq_some_iff.mp hr
  simp [Task.flatten, List.mapM_cons, hs, hp]

theorem preorder_entries_of_ne (h : entry.objectType ≠ .directory) :
    (Task.entries path (entry :: rest)).preorder listings depth =
      (Task.entries path rest).preorder listings depth := by
  rw [Task.preorder, Task.preorder, subdirectories_cons_of_ne h]

theorem preorder_entries_directory (h : entry.objectType = .directory)
    (hb : (Task.directory entry.path).preorder listings depth = some above)
    (hr : (Task.entries path rest).preorder listings depth = some trail) :
    (Task.entries path (entry :: rest)).preorder listings depth = some (above ++ trail) := by
  obtain ⟨parts, hp, rfl⟩ := Option.map_eq_some_iff.mp hr
  rw [Task.preorder] at hb
  simp [Task.preorder, subdirectories_cons_directory h, List.mapM_cons, hb, hp]

theorem share_notebook (h : entry.objectType = .notebook) :
    share listings depth entry = some [entry] := by
  rw [share, h]

theorem share_directory (h : entry.objectType = .directory) :
    share listings depth entry = (Task.directory entry.path).flatten listings depth := by
  rw [share, h]
  rfl

theorem share_skipped (hn : entry.objectType ≠ .notebook) (hd : entry.objectType ≠ .directory) :
    share listings depth entry = some [] := by
  unfold share
  split
  · exact absurd ‹_› hn
  · exact absurd ‹_› hd
  · rfl

end Equations

section Depths

variable {listings : String → Option (List ObjectStatus)} {n m : Nat}

/-- What an entry contributes stays if flattenings stay. -/
theorem share_of_flatten
    (h : ∀ path found, Workspace.flatten listings n path = some found →
      Workspace.flatten listings m path = some found) (entry : ObjectStatus)
    (notebooks : List ObjectStatus) (hs : share listings n entry = some notebooks) :
    share listings m entry = some notebooks := by
  by_cases hn : entry.objectType = .notebook
  · rw [share_notebook hn] at hs ⊢
    exact hs
  by_cases hd : entry.objectType = .directory
  · rw [share_directory hd] at hs ⊢
    exact h entry.path notebooks hs
  · rw [share_skipped hn hd] at hs ⊢
    exact hs

/-- A flattening is the same at any greater depth. -/
theorem flatten_of_le : ∀ {n m : Nat}, n ≤ m → ∀ (directory : String) (found : List ObjectStatus),
    Workspace.flatten listings n directory = some found →
    Workspace.flatten listings m directory = some found := by
  -- on the depth: each listing is one level above those it names
  intro n
  induction n with
  | zero => intro _ _ _ _ h; cases h
  | succ n ih =>
    intro m hm directory found h
    obtain ⟨m, rfl⟩ : ∃ k, m = k + 1 := ⟨m - 1, by omega⟩
    cases hl : listings directory with
    | none =>
      rw [Workspace.flatten, hl] at h
      cases h
    | some entries =>
      have hn := (flatten_directory hl).symm.trans h
      obtain ⟨parts, hp, rfl⟩ := Option.map_eq_some_iff.mp hn
      refine (flatten_directory hl).trans (Option.map_eq_some_iff.mpr ⟨parts, ?_, rfl⟩)
      exact mapM_eq_some_of_imp (share_of_flatten (ih (Nat.le_of_succ_le_succ hm))) hp

/-- A preorder is the same at any greater depth. -/
theorem preorder_of_le : ∀ {n m : Nat}, n ≤ m → ∀ (directory : String) (trail : List String),
    Workspace.preorder listings n directory = some trail →
    Workspace.preorder listings m directory = some trail := by
  intro n
  induction n with
  | zero => intro _ _ _ _ h; cases h
  | succ n ih =>
    intro m hm directory trail h
    obtain ⟨m, rfl⟩ : ∃ k, m = k + 1 := ⟨m - 1, by omega⟩
    simp only [Workspace.preorder, Option.bind_eq_bind, Option.bind_eq_some_iff, Option.pure_def]
      at h ⊢
    obtain ⟨entries, hl, parts, hp, htrail⟩ := h
    exact ⟨entries, hl, parts, mapM_eq_some_of_imp (ih (Nat.le_of_succ_le_succ hm)) hp, htrail⟩

end Depths

/-- **A course that returns has found the flattening of its task**, and has called the directories
of its preorder. -/
theorem Course.flatten_eq {listings : String → Option (List ObjectStatus)}
    {permitted : Call → Prop}
    (hp : ∀ c, permitted c → c.answer.toOption = listings c.path) {n : Nat} {task : Task}
    {seen : List String} {calls : List Call} {r : Except Failure Found}
    (h : Course permitted n task seen calls r) :
    ∀ {found : List ObjectStatus} {seen' : List String}, r = .ok (found, seen') →
      task.flatten listings n = some found ∧
        task.preorder listings n = some (calls.map Call.path) := by
  -- the reference reads listings only, so its recursion follows the course without the keys
  induction h with
  | exhausted _ => intro _ _ hr; cases hr
  | unlisted _ _ => intro _ _ hr; cases hr
  | listed _ hc _ ih =>
    intro found seen' hr
    obtain ⟨hf, ht⟩ := ih hr
    have hl := (hp _ hc).symm
    exact ⟨(flatten_directory hl).trans hf, preorder_directory hl ht⟩
  | done =>
    intro found seen' hr
    cases hr
    exact ⟨rfl, rfl⟩
  | notebook hn _ ih =>
    intro found seen' hr
    obtain ⟨rest, hr', rfl⟩ := map_prepend_eq_ok.mp hr
    obtain ⟨hf, ht⟩ := ih hr'
    exact ⟨flatten_entries_cons (share_notebook hn) hf,
      (preorder_entries_of_ne (by simp [hn])).trans ht⟩
  | skipped hn hd _ ih =>
    intro found seen' hr
    obtain ⟨hf, ht⟩ := ih hr
    exact ⟨flatten_entries_cons (share_skipped hn hd) hf, (preorder_entries_of_ne hd).trans ht⟩
  | clash _ _ => intro _ _ hr; cases hr
  | broken _ _ _ => intro _ _ hr; cases hr
  | descended hd _ _ ih₁ ih₂ =>
    intro found seen' hr
    obtain ⟨rest, hr', rfl⟩ := map_prepend_eq_ok.mp hr
    obtain ⟨hf₁, ht₁⟩ := ih₁ rfl
    obtain ⟨hf₂, ht₂⟩ := ih₂ hr'
    rw [List.map_append]
    exact ⟨flatten_entries_cons ((share_directory hd).trans hf₁) hf₂,
      preorder_entries_directory hd ht₁ ht₂⟩

end Walk

/-! ## 2. Recursive listings -/

namespace Connection

variable {σ : Type}

/-- **A recursive listing returns the flattening.**  If the service gives a fixed answer for each
path, and a recursive listing returns, then it returns the flattening of the root, and the requests
that it sent are those for the directories of the preorder, each once.  Any depth will do that is
not below the limit on the nesting. -/
theorem list_true_eq_flatten (c : Connection σ) {w : Wire σ} {answer : String → Http.Outcome}
    (hs : c.AnswersFrom w.service answer) {root : String} {found : List ObjectStatus}
    (hr : (c.list root true w).result = .ok found) :
    (∀ depth, c.maxDepth ≤ depth → flatten (c.listings w) depth root = some found) ∧
      ∃ trail, (∀ depth, c.maxDepth ≤ depth → preorder (c.listings w) depth root = some trail) ∧
        trail.Nodup ∧
        (c.list root true w).requests =
          trail.map fun directory => c.listRequest directory w.lockHeld := by
  obtain ⟨calls, r, hc, hresult, hrequests⟩ := c.course_of_list root w
  rw [hresult] at hr
  obtain ⟨⟨found, seen⟩, hok, rfl⟩ := map_eq_ok_iff.mp hr
  obtain ⟨hf, ht⟩ := hc.flatten_eq (fun call hm => hm.toOption_answer hs) hok
  -- the root was answered, so the client is open and the calls are requests
  obtain ⟨call, hcall, -⟩ := hc.mem_called hok (List.mem_singleton_self root)
  obtain ⟨entries, ha⟩ := hc.answered hok call hcall
  have hopen : c.client.closed = false := (hc.permitted_of_mem call hcall).client_open ha
  refine ⟨fun depth hd => flatten_of_le hd root _ hf, calls.map Call.path,
    fun depth hd => preorder_of_le hd root _ ht, ?_, ?_⟩
  · exact (hc.nodup_keys List.nodup_nil).of_map directoryKey
  · simp [hrequests, hopen]

end Connection

/-- The shelf is flattened: the notebook below the directory stands between the other two, and
nothing stands for the library. -/
theorem list_true_shelf :
    (Shelf.connection.list "/r" true ⟨[], false⟩).result = .ok Shelf.notebooks ∧
      (∀ depth, 3 ≤ depth →
        flatten (Shelf.connection.listings ⟨[], false⟩) depth "/r" = some Shelf.notebooks) ∧
      ∃ trail, (∀ depth, 3 ≤ depth →
          preorder (Shelf.connection.listings ⟨[], false⟩) depth "/r" = some trail) ∧
        trail.Nodup ∧
        (Shelf.connection.list "/r" true ⟨[], false⟩).requests =
          trail.map fun directory => Shelf.connection.listRequest directory false :=
  ⟨Shelf.list_true_result,
    Connection.list_true_eq_flatten _ Shelf.answersFrom Shelf.list_true_result⟩

end Workspace
