/-
# The course of a walk

A walk is a recursion over entries that lists directories on its way, and what it does next hangs
on what the listings return.  `Course` writes this down as a derivation: a rule for each thing
that can happen, with the listings that were made (`Call`) in order, and no world.  What holds of
every walk is then shown by induction over its course.

* `course_of_walk`: every run of `walk` follows a course.
* `Course.seen_eq` and `Course.nodup`: the keys that were seen are those of the calls, and no key
  is called twice.
* `Course.length_le_card`: there are no more calls than keys to call.
* `Course.balance`: what was called is what was named, each directory as often as it was named.
* `Course.failure`: the only ways to fail are a listing that failed, a nesting too deep, and a
  directory whose key was seen before.
* `Course.lt_card_of_tooDeep`: the nesting is too deep only if there are as many keys.
-/
import Mathlib.Algebra.Order.Group.Multiset
import Mathlib.Data.Finset.Card
import Mathlib.Tactic.Abel
import Workspace.Listing
namespace Workspace

/-! ## 1. Calls and tasks -/

/-- The directories among the entries of a listing, in order. -/
def subdirectories (entries : List ObjectStatus) : List String :=
  (entries.filter ObjectStatus.isDirectory).map ObjectStatus.path

@[simp] theorem subdirectories_nil : subdirectories [] = [] := rfl

theorem subdirectories_cons_directory {entry : ObjectStatus} (h : entry.objectType = .directory)
    (rest : List ObjectStatus) :
    subdirectories (entry :: rest) = entry.path :: subdirectories rest := by
  simp [subdirectories, ObjectStatus.isDirectory, h]

theorem subdirectories_cons_of_ne {entry : ObjectStatus} (h : entry.objectType ≠ .directory)
    (rest : List ObjectStatus) : subdirectories (entry :: rest) = subdirectories rest := by
  simp [subdirectories, ObjectStatus.isDirectory, h]

theorem mem_subdirectories {entries : List ObjectStatus} {directory : String} :
    directory ∈ subdirectories entries ↔
      ∃ entry ∈ entries, entry.objectType = .directory ∧ entry.path = directory := by
  simp [subdirectories, ObjectStatus.isDirectory, and_assoc]

/-- One listing on the way of a walk: the directory that was asked for, what came back, and what
happened meanwhile. -/
structure Call where
  path : String
  answer : Except Failure (List ObjectStatus)
  events : List Event

namespace Call

/-- The key of the directory that was asked for. -/
def key (c : Call) : String := directoryKey c.path

/-- The directories that the answer names. -/
def subdirectories (c : Call) : List String :=
  match c.answer with
  | .ok entries => Workspace.subdirectories entries
  | .error _ => []

end Call

namespace Walk

/-- What is left to do at a point of a walk: list a directory and go through its entries, or go
through what remains of the entries of the directory `path`. -/
inductive Task
  | directory (path : String)
  | entries (path : String) (rest : List ObjectStatus)

/-- The directories that a task starts from. -/
def Task.directories : Task → List String
  | .directory path => [path]
  | .entries _ rest => subdirectories rest

/-- Put notebooks before those that were found. -/
def prepend (notebooks : List ObjectStatus) (found : Found) : Found :=
  (notebooks ++ found.1, found.2)

theorem map_prepend_eq_ok {notebooks : List ObjectStatus} {r : Except Failure Found}
    {found : List ObjectStatus} {seen : List String} :
    r.map (prepend notebooks) = .ok (found, seen) ↔
      ∃ rest, r = .ok (rest, seen) ∧ notebooks ++ rest = found := by
  rw [map_eq_ok_iff]
  constructor
  · rintro ⟨⟨rest, seen'⟩, hr, h⟩
    cases h
    exact ⟨rest, hr, rfl⟩
  · rintro ⟨rest, hr, rfl⟩
    exact ⟨(rest, seen), hr, rfl⟩

/-! ## 2. Courses -/

/-- `Course permitted n task seen calls r`: with `n` directories left to nest and the keys `seen`
seen before, the task makes the calls `calls`, each of them permitted, and ends with `r`. -/
inductive Course (permitted : Call → Prop) :
    Nat → Task → List String → List Call → Except Failure Found → Prop
  /-- No directory may be nested here. -/
  | exhausted {path : String} {seen : List String} :
      directoryKey path ∉ seen → Course permitted 0 (.directory path) seen [] (.error .tooDeep)
  /-- The directory cannot be listed. -/
  | unlisted {n : Nat} {path : String} {seen : List String} {failure : Failure}
      {events : List Event} :
      directoryKey path ∉ seen → permitted ⟨path, .error failure, events⟩ →
      Course permitted (n + 1) (.directory path) seen [⟨path, .error failure, events⟩]
        (.error failure)
  /-- The directory is listed, and its entries come next. -/
  | listed {n : Nat} {path : String} {seen : List String} {entries : List ObjectStatus}
      {events : List Event} {calls : List Call} {r : Except Failure Found} :
      directoryKey path ∉ seen → permitted ⟨path, .ok entries, events⟩ →
      Course permitted n (.entries path entries) (directoryKey path :: seen) calls r →
      Course permitted (n + 1) (.directory path) seen (⟨path, .ok entries, events⟩ :: calls) r
  /-- No entry is left. -/
  | done {n : Nat} {path : String} {seen : List String} :
      Course permitted n (.entries path []) seen [] (.ok ([], seen))
  /-- A notebook is kept. -/
  | notebook {n : Nat} {path : String} {seen : List String} {entry : ObjectStatus}
      {rest : List ObjectStatus} {calls : List Call} {r : Except Failure Found} :
      entry.objectType = .notebook → Course permitted n (.entries path rest) seen calls r →
      Course permitted n (.entries path (entry :: rest)) seen calls (r.map (prepend [entry]))
  /-- What is neither notebook nor directory is passed over. -/
  | skipped {n : Nat} {path : String} {seen : List String} {entry : ObjectStatus}
      {rest : List ObjectStatus} {calls : List Call} {r : Except Failure Found} :
      entry.objectType ≠ .notebook → entry.objectType ≠ .directory →
      Course permitted n (.entries path rest) seen calls r →
      Course permitted n (.entries path (entry :: rest)) seen calls r
  /-- A directory was seen before. -/
  | clash {n : Nat} {path : String} {seen : List String} {entry : ObjectStatus}
      {rest : List ObjectStatus} :
      entry.objectType = .directory → directoryKey entry.path ∈ seen →
      Course permitted n (.entries path (entry :: rest)) seen []
        (.error (.error (alreadyVisited path entry.path)))
  /-- Something below a directory fails. -/
  | broken {n : Nat} {path : String} {seen : List String} {entry : ObjectStatus}
      {rest : List ObjectStatus} {calls : List Call} {failure : Failure} :
      entry.objectType = .directory →
      Course permitted n (.directory entry.path) seen calls (.error failure) →
      Course permitted n (.entries path (entry :: rest)) seen calls (.error failure)
  /-- A directory is gone through, and the entries after it come next. -/
  | descended {n : Nat} {path : String} {seen seen' : List String} {entry : ObjectStatus}
      {rest found : List ObjectStatus} {below calls : List Call} {r : Except Failure Found} :
      entry.objectType = .directory →
      Course permitted n (.directory entry.path) seen below (.ok (found, seen')) →
      Course permitted n (.entries path rest) seen' calls r →
      Course permitted n (.entries path (entry :: rest)) seen (below ++ calls)
        (r.map (prepend found))

/-! ## 3. Every run follows a course -/

section Visit

variable {ω : Type} {descend : String → List String → Action ω Found} {path : String}
  {entry : ObjectStatus} {rest : List ObjectStatus} {seen : List String} {w : ω}

theorem visit_notebook (h : entry.objectType = .notebook) :
    visit descend path (entry :: rest) seen w =
      (visit descend path rest seen w).map (prepend [entry]) := by
  rw [visit, h]
  exact Action.bind_pure_run _ (prepend [entry]) w

theorem visit_skipped (hn : entry.objectType ≠ .notebook) (hd : entry.objectType ≠ .directory) :
    visit descend path (entry :: rest) seen w = visit descend path rest seen w := by
  rw [visit]
  cases ht : entry.objectType with
  | notebook => exact absurd ht hn
  | directory => exact absurd ht hd
  | library => rfl
  | file => rfl
  | repo => rfl
  | unknown => rfl

theorem visit_clash (h : entry.objectType = .directory) (hk : directoryKey entry.path ∈ seen) :
    visit descend path (entry :: rest) seen w =
      ⟨.error (.error (alreadyVisited path entry.path)), [], w⟩ := by
  rw [visit, h]
  simp [hk]

theorem visit_broken (h : entry.objectType = .directory) (hk : directoryKey entry.path ∉ seen)
    {failure : Failure}
    (hr : (descend entry.path (directoryKey entry.path :: seen) w).result = .error failure) :
    visit descend path (entry :: rest) seen w =
      ⟨.error failure, (descend entry.path (directoryKey entry.path :: seen) w).events,
        (descend entry.path (directoryKey entry.path :: seen) w).world⟩ := by
  rw [visit, h]
  simp only [hk, if_false]
  exact Action.bind_run_error hr

theorem visit_descended (h : entry.objectType = .directory) (hk : directoryKey entry.path ∉ seen)
    {found : List ObjectStatus} {seen' : List String}
    (hr : (descend entry.path (directoryKey entry.path :: seen) w).result = .ok (found, seen')) :
    visit descend path (entry :: rest) seen w =
      let before := descend entry.path (directoryKey entry.path :: seen) w
      let after := visit descend path rest seen' before.world
      ⟨after.result.map (prepend found), before.events ++ after.events, after.world⟩ := by
  have hafter := Action.bind_pure_run (visit descend path rest seen') (prepend found)
    (descend entry.path (directoryKey entry.path :: seen) w).world
  rw [visit, h]
  simp only [hk, if_false]
  rw [Action.bind_run_ok hr]
  exact congrArg (fun r : Run ω Found => (⟨r.result, _ ++ r.events, r.world⟩ : Run ω Found)) hafter

end Visit

section Runs

variable {ω : Type} {list : String → Action ω (List ObjectStatus)} {permitted : Call → Prop}
  {inv : ω → Prop}

/-- A run of a task that follows a course and keeps the invariant `inv` of the world. -/
def Follows (permitted : Call → Prop) (inv : ω → Prop) (n : Nat) (task : Task)
    (seen : List String) (r : Run ω Found) : Prop :=
  ∃ calls, Course permitted n task seen calls r.result ∧
    r.events = calls.flatMap Call.events ∧ inv r.world

/-- If descents follow courses, so does going through entries. -/
theorem follows_visit {descend : String → List String → Action ω Found} {n : Nat}
    (hd : ∀ path seen w, directoryKey path ∉ seen → inv w →
      Follows permitted inv n (.directory path) seen (descend path (directoryKey path :: seen) w))
    (path : String) : ∀ (entries : List ObjectStatus) (seen : List String) (w : ω), inv w →
      Follows permitted inv n (.entries path entries) seen (visit descend path entries seen w) := by
  intro entries
  -- the rule for an entry is chosen by its type and its key, as the walk does
  induction entries with
  | nil =>
    intro seen w hw
    exact ⟨[], .done, rfl, hw⟩
  | cons entry rest ih =>
    intro seen w hw
    by_cases hn : entry.objectType = .notebook
    · obtain ⟨calls, hc, he, hw'⟩ := ih seen w hw
      rw [visit_notebook hn]
      exact ⟨calls, .notebook hn hc, he, hw'⟩
    by_cases hdir : entry.objectType = .directory
    · by_cases hk : directoryKey entry.path ∈ seen
      · rw [visit_clash hdir hk]
        exact ⟨[], .clash hdir hk, rfl, hw⟩
      · obtain ⟨below, hb, he, hw'⟩ := hd entry.path seen w hk hw
        cases hr : (descend entry.path (directoryKey entry.path :: seen) w).result with
        | error failure =>
          rw [hr] at hb
          rw [visit_broken hdir hk hr]
          exact ⟨below, .broken hdir hb, he, hw'⟩
        | ok found =>
          rw [hr] at hb
          rw [visit_descended hdir hk hr]
          obtain ⟨calls, hc, he', hw''⟩ := ih found.2 _ hw'
          exact ⟨below ++ calls, .descended hdir hb hc, by simp [he, he'], hw''⟩
    · rw [visit_skipped hn hdir]
      obtain ⟨calls, hc, he, hw'⟩ := ih seen w hw
      exact ⟨calls, .skipped hn hdir hc, he, hw'⟩

/-- Every run of `collect` follows a course. -/
theorem follows_collect
    (hlist : ∀ path w, inv w →
      permitted ⟨path, (list path w).result, (list path w).events⟩ ∧ inv (list path w).world) :
    ∀ (n : Nat) (path : String) (seen : List String) (w : ω), directoryKey path ∉ seen → inv w →
      Follows permitted inv n (.directory path) seen
        (collect list n path (directoryKey path :: seen) w) := by
  intro n
  induction n with
  | zero =>
    intro path seen w hk hw
    exact ⟨[], .exhausted hk, rfl, hw⟩
  | succ n ih =>
    intro path seen w hk hw
    obtain ⟨hp, hw'⟩ := hlist path w hw
    cases hr : (list path w).result with
    | error failure =>
      rw [hr] at hp
      rw [collect, Action.bind_run_error hr]
      exact ⟨[_], .unlisted hk hp, by simp, hw'⟩
    | ok entries =>
      rw [hr] at hp
      rw [collect, Action.bind_run_ok hr]
      obtain ⟨calls, hc, he, hw''⟩ := follows_visit ih path entries _ _ hw'
      exact ⟨_ :: calls, .listed hk hp hc, by simp [he], hw''⟩

theorem walk_run (n : Nat) (root : String) (w : ω) :
    walk list n root w = (collect list n root [directoryKey root] w).map Prod.fst :=
  Action.bind_pure_run _ Prod.fst w

/-- **Every walk follows a course**, which starts with nothing seen. -/
theorem course_of_walk
    (hlist : ∀ path w, inv w →
      permitted ⟨path, (list path w).result, (list path w).events⟩ ∧ inv (list path w).world)
    (n : Nat) (root : String) {w : ω} (hw : inv w) :
    ∃ calls r, Course permitted n (.directory root) [] calls r ∧
      (walk list n root w).result = r.map Prod.fst ∧
      (walk list n root w).events = calls.flatMap Call.events ∧
      inv (walk list n root w).world := by
  obtain ⟨calls, hc, he, hw'⟩ := follows_collect hlist n root [] w List.not_mem_nil hw
  rw [walk_run]
  exact ⟨calls, _, hc, rfl, he, hw'⟩

end Runs

/-! ## 4. A course read backwards -/

namespace Course

section Inversion

variable {permitted : Call → Prop} {n : Nat} {path : String} {seen : List String}
  {entry : ObjectStatus} {rest : List ObjectStatus} {calls : List Call} {r : Except Failure Found}

/-- A course comes only to directories whose key was not seen. -/
theorem key_notMem (h : Course permitted n (.directory path) seen calls r) :
    directoryKey path ∉ seen := by
  cases h with
  | exhausted hk => exact hk
  | unlisted hk _ => exact hk
  | listed hk _ _ => exact hk

/-- What a course does at a notebook. -/
theorem of_notebook (hn : entry.objectType = .notebook)
    (h : Course permitted n (.entries path (entry :: rest)) seen calls r) :
    ∃ r', Course permitted n (.entries path rest) seen calls r' ∧ r = r'.map (prepend [entry]) := by
  cases h with
  | notebook _ h => exact ⟨_, h, rfl⟩
  | skipped hn' => exact absurd hn hn'
  | clash hd => simp [hn] at hd
  | broken hd => simp [hn] at hd
  | descended hd => simp [hn] at hd

/-- What a course does at an entry that is neither notebook nor directory. -/
theorem of_skipped (hn : entry.objectType ≠ .notebook) (hd : entry.objectType ≠ .directory)
    (h : Course permitted n (.entries path (entry :: rest)) seen calls r) :
    Course permitted n (.entries path rest) seen calls r := by
  cases h with
  | notebook hn' => exact absurd hn' hn
  | skipped _ _ h => exact h
  | clash hd' => exact absurd hd' hd
  | broken hd' => exact absurd hd' hd
  | descended hd' => exact absurd hd' hd

/-- What a course does at a directory whose key was seen. -/
theorem of_clash (hd : entry.objectType = .directory) (hk : directoryKey entry.path ∈ seen)
    (h : Course permitted n (.entries path (entry :: rest)) seen calls r) :
    calls = [] ∧ r = .error (.error (alreadyVisited path entry.path)) := by
  cases h with
  | notebook hn => simp [hd] at hn
  | skipped _ hd' => exact absurd hd hd'
  | clash => exact ⟨rfl, rfl⟩
  | broken _ hb => exact absurd hk hb.key_notMem
  | descended _ hb => exact absurd hk hb.key_notMem

/-- What a course does at a directory whose key was not seen: it fails there, or it goes on behind
it. -/
theorem of_directory (hd : entry.objectType = .directory) (hk : directoryKey entry.path ∉ seen)
    (h : Course permitted n (.entries path (entry :: rest)) seen calls r) :
    (∃ failure, Course permitted n (.directory entry.path) seen calls (.error failure) ∧
      r = .error failure) ∨
    ∃ below found seen' calls' r',
      Course permitted n (.directory entry.path) seen below (.ok (found, seen')) ∧
      Course permitted n (.entries path rest) seen' calls' r' ∧
      calls = below ++ calls' ∧ r = r'.map (prepend found) := by
  cases h with
  | notebook hn => simp [hd] at hn
  | skipped _ hd' => exact absurd hd hd'
  | clash _ hk' => exact absurd hk' hk
  | broken _ hb => exact Or.inl ⟨_, hb, rfl⟩
  | descended _ hb h => exact Or.inr ⟨_, _, _, _, _, hb, h, rfl, rfl⟩

/-- What a course does at a directory that cannot be listed. -/
theorem of_unlisted {failure : Failure}
    (hp : ∀ c, permitted c → c.path = path → c.answer = .error failure)
    (h : Course permitted (n + 1) (.directory path) seen calls r) :
    calls.map Call.path = [path] ∧ r = .error failure := by
  cases h with
  | unlisted _ hc =>
    cases hp _ hc rfl
    exact ⟨rfl, rfl⟩
  | listed _ hc _ => cases hp _ hc rfl

end Inversion

end Course

/-! ## 5. What a course keeps -/

namespace Course

variable {permitted : Call → Prop} {n : Nat} {task : Task} {seen : List String}
  {calls : List Call} {r : Except Failure Found}

/-- Every call of a course is a permitted one. -/
theorem permitted_of_mem (h : Course permitted n task seen calls r) :
    ∀ c ∈ calls, permitted c := by
  induction h with
  | exhausted _ => simp
  | unlisted _ hp => simpa using hp
  | listed _ hp _ ih => simpa using ⟨hp, ih⟩
  | done => simp
  | notebook _ _ ih => exact ih
  | skipped _ _ _ ih => exact ih
  | clash _ _ => simp
  | broken _ _ ih => exact ih
  | descended _ _ _ ih₁ ih₂ =>
    intro c hc
    rcases List.mem_append.mp hc with hc | hc
    · exact ih₁ c hc
    · exact ih₂ c hc

/-- In a course that returns, every call returned. -/
theorem answered (h : Course permitted n task seen calls r) :
    ∀ {found : Found}, r = .ok found → ∀ c ∈ calls, ∃ entries, c.answer = .ok entries := by
  induction h with
  | exhausted _ => intro _ hr; cases hr
  | unlisted _ _ => intro _ hr; cases hr
  | listed _ _ _ ih =>
    intro found hr c hc
    rcases List.mem_cons.mp hc with rfl | hc
    · exact ⟨_, rfl⟩
    · exact ih hr c hc
  | done => simp
  | notebook _ _ ih =>
    intro found hr
    obtain ⟨rest, hr, -⟩ := map_prepend_eq_ok.mp hr
    exact ih hr
  | skipped _ _ _ ih => exact ih
  | clash _ _ => intro _ hr; cases hr
  | broken _ _ _ => intro _ hr; cases hr
  | descended _ _ _ ih₁ ih₂ =>
    intro found hr c hc
    obtain ⟨rest, hr, -⟩ := map_prepend_eq_ok.mp hr
    rcases List.mem_append.mp hc with hc | hc
    · exact ih₁ rfl c hc
    · exact ih₂ hr c hc

/-- What was seen at the end is what was seen at the start and the keys of the calls. -/
theorem seen_eq (h : Course permitted n task seen calls r) :
    ∀ {found : List ObjectStatus} {seen' : List String}, r = .ok (found, seen') →
      seen' = (calls.map Call.key).reverse ++ seen := by
  -- each call adds its key in front, below an entry as well as behind it
  induction h with
  | exhausted _ => intro _ _ hr; cases hr
  | unlisted _ _ => intro _ _ hr; cases hr
  | listed _ _ _ ih =>
    intro found seen' hr
    simp [ih hr, Call.key]
  | done =>
    intro found seen' hr
    cases hr
    rfl
  | notebook _ _ ih =>
    intro found seen' hr
    obtain ⟨rest, hr, -⟩ := map_prepend_eq_ok.mp hr
    exact ih hr
  | skipped _ _ _ ih => exact ih
  | clash _ _ => intro _ _ hr; cases hr
  | broken _ _ _ => intro _ _ hr; cases hr
  | descended _ _ _ ih₁ ih₂ =>
    intro found seen' hr
    obtain ⟨rest, hr, -⟩ := map_prepend_eq_ok.mp hr
    rw [ih₂ hr, ih₁ rfl]
    simp

/-- **No key is called twice**, and none that was seen before. -/
theorem nodup (h : Course permitted n task seen calls r) (hs : seen.Nodup) :
    ((calls.map Call.key).reverse ++ seen).Nodup := by
  -- a directory is called only if its key is not among those seen, which grow from the entry to the rest
  -- the key of a call is not among those seen, and is among them from then on
  induction h with
  | exhausted _ => exact hs
  | unlisted hk _ => exact List.nodup_cons.mpr ⟨hk, hs⟩
  | listed hk _ _ ih => simpa [Call.key] using ih (List.nodup_cons.mpr ⟨hk, hs⟩)
  | done => exact hs
  | notebook _ _ ih => exact ih hs
  | skipped _ _ _ ih => exact ih hs
  | clash _ _ => exact hs
  | broken _ _ ih => exact ih hs
  | descended _ hb _ ih₁ ih₂ =>
    have hs' := ih₁ hs
    rw [← hb.seen_eq rfl] at hs'
    have hall := ih₂ hs'
    rw [hb.seen_eq rfl] at hall
    simpa using hall

theorem nodup_keys (h : Course permitted n task seen calls r) (hs : seen.Nodup) :
    ((calls.map Call.path).map directoryKey).Nodup := by
  rw [List.map_map]
  exact List.nodup_reverse.mp (List.nodup_append.mp (h.nodup hs)).1

/-- The directories that a course is made to call: those its task starts from and those that the
answers to its calls name, each as often as it is named. -/
def named (task : Task) (calls : List Call) : Multiset String :=
  ↑task.directories + ↑(calls.flatMap Call.subdirectories)

section Named

variable {path : String} {entry : ObjectStatus} {rest : List ObjectStatus}

theorem named_listed (entries : List ObjectStatus) (events : List Event) (calls : List Call) :
    named (.directory path) (⟨path, .ok entries, events⟩ :: calls) =
      path ::ₘ named (.entries path entries) calls := by
  simp [named, Task.directories, Call.subdirectories]

theorem named_of_ne (h : entry.objectType ≠ .directory) (calls : List Call) :
    named (.entries path (entry :: rest)) calls = named (.entries path rest) calls := by
  simp [named, Task.directories, subdirectories_cons_of_ne h]

theorem named_descended (h : entry.objectType = .directory) (below calls : List Call) :
    named (.entries path (entry :: rest)) (below ++ calls) =
      named (.directory entry.path) below + named (.entries path rest) calls := by
  simp only [named, Task.directories, subdirectories_cons_directory h, List.flatMap_append,
    ← Multiset.coe_add, ← Multiset.cons_coe, ← Multiset.singleton_add, Multiset.coe_nil, add_zero]
  abel

theorem named_broken (h : entry.objectType = .directory) (calls : List Call) :
    named (.entries path (entry :: rest)) calls =
      named (.directory entry.path) calls + ↑(subdirectories rest) := by
  have hsplit : named (.entries path (entry :: rest)) (calls ++ []) =
      named (.directory entry.path) calls + named (.entries path rest) [] :=
    named_descended h calls []
  rw [List.append_nil] at hsplit
  rw [hsplit]
  simp [named, Task.directories]

end Named

/-- **The balance of a course that returns.**  What it called is what was named, and each
directory as often as it was named. -/
theorem balance (h : Course permitted n task seen calls r) :
    ∀ {found : Found}, r = .ok found → (↑(calls.map Call.path) : Multiset String) =
      named task calls := by
  -- only a course without clash and without fault calls all that it names
  induction h with
  | exhausted _ => intro _ hr; cases hr
  | unlisted _ _ => intro _ hr; cases hr
  | listed _ _ _ ih =>
    intro found hr
    rw [named_listed, ← ih hr]
    rfl
  | done => intro _ _; rfl
  | notebook hn _ ih =>
    intro found hr
    obtain ⟨rest, hr, -⟩ := map_prepend_eq_ok.mp hr
    rw [named_of_ne (by simp [hn]), ih hr]
  | skipped _ hd _ ih =>
    intro found hr
    rw [named_of_ne hd, ih hr]
  | clash _ _ => intro _ hr; cases hr
  | broken _ _ _ => intro _ hr; cases hr
  | descended hd _ _ ih₁ ih₂ =>
    intro found hr
    obtain ⟨rest, hr, -⟩ := map_prepend_eq_ok.mp hr
    rw [named_descended hd, ← ih₁ rfl, ← ih₂ hr, List.map_append, Multiset.coe_add]

/-- A course calls nothing more often than it was named. -/
theorem called_le_named (h : Course permitted n task seen calls r) :
    (↑(calls.map Call.path) : Multiset String) ≤ named task calls := by
  induction h with
  | exhausted _ => exact Multiset.zero_le _
  | unlisted _ _ => exact Multiset.le_add_right _ _
  | listed _ _ _ ih =>
    rw [named_listed]
    exact Multiset.cons_le_cons _ ih
  | done => exact Multiset.zero_le _
  | notebook hn _ ih =>
    rw [named_of_ne (by simp [hn])]
    exact ih
  | skipped _ hd _ ih =>
    rw [named_of_ne hd]
    exact ih
  | clash _ _ => exact Multiset.zero_le _
  | broken hd _ ih =>
    rw [named_broken hd]
    exact ih.trans (Multiset.le_add_right _ _)
  | descended hd _ _ ih₁ ih₂ =>
    rw [named_descended hd, List.map_append, ← Multiset.coe_add]
    exact add_le_add ih₁ ih₂

theorem mem_called (h : Course permitted n task seen calls r) {found : Found} (hr : r = .ok found)
    {directory : String} (hd : directory ∈ task.directories) :
    ∃ c ∈ calls, c.path = directory := by
  have hm : directory ∈ (↑(calls.map Call.path) : Multiset String) := by
    rw [h.balance hr]
    exact Multiset.mem_add.mpr (Or.inl hd)
  simpa using hm

/-- A directory that was called is one that the task starts from or that an answer named. -/
theorem mem_named (h : Course permitted n task seen calls r) {c : Call} (hc : c ∈ calls) :
    c.path ∈ task.directories ∨ ∃ c' ∈ calls, c.path ∈ c'.subdirectories := by
  have hm : c.path ∈ named task calls :=
    Multiset.mem_of_le h.called_le_named (Multiset.mem_coe.mpr (List.mem_map_of_mem hc))
  simpa [named] using hm

/-- What holds of the directories that a task starts from, and passes from a directory called to
those that the answer names, holds of every directory called. -/
theorem forall_called {P : String → Prop}
    (hp : ∀ c, permitted c → P c.path → ∀ d ∈ c.subdirectories, P d)
    (h : Course permitted n task seen calls r) :
    (∀ d ∈ task.directories, P d) → ∀ c ∈ calls, P c.path := by
  -- the answer of a call is the task that the course goes on with
  induction h with
  | exhausted _ => intro _ c hc; cases hc
  | unlisted _ _ =>
    intro ht c hc
    rw [List.mem_singleton.mp hc]
    exact ht _ (List.mem_singleton_self _)
  | listed _ hc _ ih =>
    intro ht c hmem
    have hpath := ht _ (List.mem_singleton_self _)
    rcases List.mem_cons.mp hmem with rfl | hmem
    · exact hpath
    · exact ih (hp _ hc hpath) c hmem
  | done => intro _ c hc; cases hc
  | notebook hn _ ih =>
    intro ht
    rw [Task.directories, subdirectories_cons_of_ne (by simp [hn])] at ht
    exact ih ht
  | skipped _ hd _ ih =>
    intro ht
    rw [Task.directories, subdirectories_cons_of_ne hd] at ht
    exact ih ht
  | clash _ _ => intro _ c hc; cases hc
  | broken hd _ ih =>
    intro ht
    rw [Task.directories, subdirectories_cons_directory hd] at ht
    exact ih (List.forall_mem_singleton.mpr (List.forall_mem_cons.mp ht).1)
  | descended hd _ _ ih₁ ih₂ =>
    intro ht c hc
    rw [Task.directories, subdirectories_cons_directory hd] at ht
    obtain ⟨hentry, hrest⟩ := List.forall_mem_cons.mp ht
    rcases List.mem_append.mp hc with hc | hc
    · exact ih₁ (List.forall_mem_singleton.mpr hentry) c hc
    · exact ih₂ hrest c hc

/-- **There are no more calls than keys.**  If every directory that is named has its key in `keys`,
and nothing was seen before, then there are at most as many calls as keys. -/
theorem length_le_card {keys : Finset String}
    (hkeys : ∀ c, permitted c → ∀ d ∈ c.subdirectories, directoryKey d ∈ keys)
    (ht : ∀ d ∈ task.directories, directoryKey d ∈ keys)
    (h : Course permitted n task [] calls r) : calls.length ≤ keys.card := by
  have hsub : ((calls.map Call.path).map directoryKey).toFinset ⊆ keys := by
    intro key hkey
    obtain ⟨c, hc, rfl⟩ : ∃ c ∈ calls, directoryKey c.path = key := by simpa using hkey
    rcases h.mem_named hc with hd | ⟨c', hc', hd⟩
    · exact ht _ hd
    · exact hkeys c' (h.permitted_of_mem c' hc') _ hd
  calc calls.length = ((calls.map Call.path).map directoryKey).length := by simp
    _ = ((calls.map Call.path).map directoryKey).toFinset.card :=
      (List.toFinset_card_of_nodup (h.nodup_keys List.nodup_nil)).symm
    _ ≤ keys.card := Finset.card_le_card hsub

/-- **How a course fails**: a listing failed, or the nesting was too deep, or a directory came up
whose key was seen before.  In the last case that directory was named once more often than it was
called. -/
theorem failure (h : Course permitted n task seen calls r) :
    ∀ {failure : Failure}, r = .error failure →
      (∃ c ∈ calls, c.answer = .error failure) ∨ failure = .tooDeep ∨
        ∃ path directory, failure = .error (alreadyVisited path directory) ∧
          directoryKey directory ∈ (calls.map Call.key).reverse ++ seen ∧
          directory ::ₘ ↑(calls.map Call.path) ≤ named task calls := by
  -- `named task calls` counts what was to be called; a clash leaves one directory of it uncalled
  induction h with
  | exhausted _ =>
    intro failure hr
    cases hr
    exact Or.inr (Or.inl rfl)
  | unlisted _ _ =>
    intro failure hr
    cases hr
    exact Or.inl ⟨_, List.mem_singleton_self _, rfl⟩
  | listed _ _ _ ih =>
    intro failure hr
    rcases ih hr with ⟨c, hc, ha⟩ | hdeep | ⟨path, directory, hf, hk, hle⟩
    · exact Or.inl ⟨c, List.mem_cons_of_mem _ hc, ha⟩
    · exact Or.inr (Or.inl hdeep)
    · refine Or.inr (Or.inr ⟨path, directory, hf, by simpa [Call.key] using hk, ?_⟩)
      rw [named_listed, List.map_cons, ← Multiset.cons_coe, Multiset.cons_swap]
      exact Multiset.cons_le_cons _ hle
  | done => intro _ hr; cases hr
  | notebook hn _ ih =>
    intro failure hr
    rw [named_of_ne (by simp [hn])]
    exact ih (map_eq_error_iff.mp hr)
  | skipped _ hd _ ih =>
    intro failure hr
    rw [named_of_ne hd]
    exact ih hr
  | @clash n path seen entry rest hd hk =>
    intro failure hr
    cases hr
    refine Or.inr (Or.inr ⟨path, entry.path, rfl, by simpa using hk, ?_⟩)
    rw [named_broken hd]
    exact Multiset.le_add_right _ _
  | broken hd _ ih =>
    intro failure hr
    rcases ih hr with hc | hdeep | ⟨path, directory, hf, hk, hle⟩
    · exact Or.inl hc
    · exact Or.inr (Or.inl hdeep)
    · refine Or.inr (Or.inr ⟨path, directory, hf, hk, ?_⟩)
      rw [named_broken hd]
      exact hle.trans (Multiset.le_add_right _ _)
  | descended hd hb _ _ ih =>
    intro failure hr
    rcases ih (map_eq_error_iff.mp hr) with ⟨c, hc, ha⟩ | hdeep | ⟨path, directory, hf, hk, hle⟩
    · exact Or.inl ⟨c, List.mem_append_right _ hc, ha⟩
    · exact Or.inr (Or.inl hdeep)
    · refine Or.inr (Or.inr ⟨path, directory, hf, ?_, ?_⟩)
      · rw [hb.seen_eq rfl] at hk
        simpa using hk
      · rw [named_descended hd, ← hb.balance rfl, List.map_append, ← Multiset.coe_add,
          ← Multiset.add_cons]
        exact Multiset.add_le_add_left hle

/-- **A nesting that is too deep takes many keys.**  If every directory that is named has its key
in `keys`, then more of them are unseen than the levels that were left. -/
theorem lt_card_of_tooDeep {keys : Finset String}
    (hkeys : ∀ c, permitted c → ∀ d ∈ c.subdirectories, directoryKey d ∈ keys)
    (hlist : ∀ c, permitted c → c.answer ≠ .error .tooDeep)
    (h : Course permitted n task seen calls r) :
    (∀ d ∈ task.directories, directoryKey d ∈ keys) → r = .error .tooDeep →
      n < (keys \ seen.toFinset).card := by
  -- each level of nesting uses up one of the keys, so `n` levels leave fewer keys than there were
  induction h with
  | @exhausted path seen hk =>
    intro ht _
    have hmem : directoryKey path ∈ keys \ seen.toFinset :=
      Finset.mem_sdiff.mpr ⟨ht path (by simp [Task.directories]), by simpa using hk⟩
    exact Finset.card_pos.mpr ⟨_, hmem⟩
  | unlisted _ hp =>
    intro _ hr
    cases hr
    exact absurd rfl (hlist _ hp)
  | @listed n path seen entries events calls r hk hp _ ih =>
    intro ht hr
    have hmem : directoryKey path ∈ keys \ seen.toFinset :=
      Finset.mem_sdiff.mpr ⟨ht path (by simp [Task.directories]), by simpa using hk⟩
    have hlt := ih (fun d hd => hkeys _ hp d hd) hr
    rw [List.toFinset_cons, Finset.sdiff_insert, Finset.card_erase_of_mem hmem] at hlt
    omega
  | done => intro _ hr; cases hr
  | notebook hn _ ih =>
    intro ht hr
    rw [Task.directories, subdirectories_cons_of_ne (by simp [hn])] at ht
    exact ih ht (map_eq_error_iff.mp hr)
  | skipped _ hd _ ih =>
    intro ht hr
    rw [Task.directories, subdirectories_cons_of_ne hd] at ht
    exact ih ht hr
  | clash _ _ => intro _ hr; cases hr
  | broken hd _ ih =>
    intro ht hr
    rw [Task.directories, subdirectories_cons_directory hd] at ht
    exact ih (fun d hd' => ht d (by simp_all [Task.directories])) hr
  | @descended n path seen seen' entry rest found below calls r hd hb _ _ ih =>
    intro ht hr
    rw [Task.directories, subdirectories_cons_directory hd] at ht
    have hlt := ih (fun d hd' => ht d (List.mem_cons_of_mem _ hd')) (map_eq_error_iff.mp hr)
    have hsub : seen.toFinset ⊆ seen'.toFinset := by
      rw [hb.seen_eq rfl]
      intro k hk
      simp_all
    exact hlt.trans_le (Finset.card_le_card (Finset.sdiff_subset_sdiff (Finset.Subset.refl _) hsub))

end Course

end Walk

end Workspace
