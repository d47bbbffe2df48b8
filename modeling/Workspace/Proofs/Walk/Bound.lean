/-
# How far a recursive listing can go

The service decides which directories there are, and it may name a directory again, under another
spelling, or below itself; it may even change its mind from one request to the next.  A walk ends
all the same, because each descent takes a key that was not seen: what shrinks is the number of
keys that are still unseen.

* `list_true_bounded`: with `N` keys to name, a recursive listing sends at most `N + 1` requests,
  no two of them for the same key, and a limit of more than `N` on the nesting is never felt.
* `Walk.walk_of_le`: a walk that is not stopped by its limit is the same under any higher limit.
-/
import Workspace.Proofs.Walk.Service
namespace Workspace

open Walk

/-! ## 1. The limit on the nesting -/

namespace Walk

section Limits

variable {ω : Type} {list : String → Action ω (List ObjectStatus)}

/-- If descents that are not stopped are the same, so is going through entries. -/
theorem visit_of_descend {descend descend' : String → List String → Action ω Found}
    (hd : ∀ path seen w, (descend path seen w).result ≠ .error .tooDeep →
      descend' path seen w = descend path seen w) (path : String) :
    ∀ (entries : List ObjectStatus) (seen : List String) (w : ω),
      (visit descend path entries seen w).result ≠ .error .tooDeep →
      visit descend' path entries seen w = visit descend path entries seen w := by
  intro entries
  -- a part of what is not stopped is not stopped
  induction entries with
  | nil => intro _ _ _; rfl
  | cons entry rest ih =>
    intro seen w h
    by_cases hn : entry.objectType = .notebook
    · rw [visit_notebook hn] at h
      rw [visit_notebook hn, visit_notebook hn,
        ih seen w fun hr => h (map_eq_error_iff.mpr hr)]
    by_cases hdir : entry.objectType = .directory
    · by_cases hk : directoryKey entry.path ∈ seen
      · rw [visit_clash hdir hk, visit_clash hdir hk]
      · cases hr : (descend entry.path (directoryKey entry.path :: seen) w).result with
        | error failure =>
          rw [visit_broken hdir hk hr] at h
          have hsame := hd entry.path (directoryKey entry.path :: seen) w (by rwa [hr])
          rw [visit_broken hdir hk hr, visit_broken hdir hk (hsame ▸ hr), hsame]
        | ok found =>
          rw [visit_descended hdir hk hr] at h
          have hsame := hd entry.path (directoryKey entry.path :: seen) w (by simp [hr])
          rw [visit_descended hdir hk hr, visit_descended hdir hk (hsame ▸ hr), hsame]
          simp only
          rw [ih found.2 _ fun hr => h (map_eq_error_iff.mpr hr)]
    · rw [visit_skipped hn hdir] at h
      rw [visit_skipped hn hdir, visit_skipped hn hdir, ih seen w h]

/-- A collection that is not stopped by its limit is the same under any higher limit. -/
theorem collect_of_le : ∀ {n m : Nat}, n ≤ m → ∀ (path : String) (seen : List String) (w : ω),
    (collect list n path seen w).result ≠ .error .tooDeep →
    collect list m path seen w = collect list n path seen w := by
  intro n
  induction n with
  | zero =>
    intro m _ path seen w h
    exact absurd rfl h
  | succ n ih =>
    intro m hm path seen w h
    obtain ⟨m, rfl⟩ : ∃ k, m = k + 1 := ⟨m - 1, by omega⟩
    rw [collect, collect]
    rw [collect] at h
    cases hr : (list path w).result with
    | error failure => rw [Action.bind_run_error hr, Action.bind_run_error hr]
    | ok entries =>
      rw [Action.bind_run_ok hr] at h
      rw [Action.bind_run_ok hr, Action.bind_run_ok hr,
        visit_of_descend (ih (Nat.le_of_succ_le_succ hm)) path entries seen _ h]

/-- **The limit on the nesting is felt only when it stops a walk.** -/
theorem walk_of_le {n m : Nat} (hm : n ≤ m) (root : String) (w : ω)
    (h : (walk list n root w).result ≠ .error .tooDeep) :
    walk list m root w = walk list n root w := by
  rw [walk_run] at h
  rw [walk_run, walk_run, collect_of_le hm]
  intro hr
  exact h (map_eq_error_iff.mpr hr)

end Limits

end Walk

/-! ## 2. Recursive listings -/

namespace Connection

variable {σ : Type}

theorem list_true_of_le (c : Connection σ) {m : Nat} (hm : c.maxDepth ≤ m) (root : String)
    (w : Wire σ) (h : (c.list root true w).result ≠ .error .tooDeep) :
    ({ c with maxDepth := m }).list root true w = c.list root true w := by
  rw [(c.list_true_run root w).1] at h
  have hwalk : walk ({ c with maxDepth := m } : Connection σ).listDirectory m root w =
      walk c.listDirectory c.maxDepth root w := walk_of_le hm root w h
  show ({ c with maxDepth := m }).listRecursively root w = c.listRecursively root w
  rw [listRecursively, listRecursively, Action.bind_run, Action.bind_run, hwalk]

/-- The root may have a key that the service never names, hence the one key more. -/
theorem NamesWithin.key_mem_insert {c : Connection σ} {w : Wire σ} {keys : Finset String}
    (hk : c.NamesWithin w.service keys) (root : String) :
    (∀ call, c.Made w call → ∀ d ∈ call.subdirectories,
      directoryKey d ∈ insert (directoryKey root) keys) ∧
      ∀ d ∈ (Task.directory root).directories,
        directoryKey d ∈ insert (directoryKey root) keys := by
  refine ⟨fun call hm d hd => Finset.mem_insert_of_mem (hk.key_mem hm hd), ?_⟩
  intro d hd
  rw [List.mem_singleton.mp hd]
  exact Finset.mem_insert_self _ _

/-- A limit on the nesting that exceeds the number of keys does not stop a recursive listing. -/
theorem list_true_ne_tooDeep (c : Connection σ) {w : Wire σ} {keys : Finset String}
    (hk : c.NamesWithin w.service keys) (hdepth : keys.card < c.maxDepth) (root : String) :
    (c.list root true w).result ≠ .error .tooDeep := by
  obtain ⟨calls, r, hc, hresult, -⟩ := c.course_of_list root w
  obtain ⟨hnamed, hroot⟩ := hk.key_mem_insert root
  intro h
  rw [hresult, map_eq_error_iff] at h
  have hlt := hc.lt_card_of_tooDeep hnamed (fun call hm => hm.ne_tooDeep) hroot h
  have hcard := Finset.card_insert_le (directoryKey root) keys
  rw [List.toFinset_nil, Finset.sdiff_empty] at hlt
  omega

/-- **A recursive listing is bounded.**  If all directories that the service ever names have their
keys in `keys`, whatever its answers are and however they change, then a recursive listing sends
at most one request for each key and one for the root, and no two for directories with the same
key.  If directories may be nested deeper than there are keys, the limit on the nesting does not
stop it, and no higher limit changes anything. -/
theorem list_true_bounded (c : Connection σ) {w : Wire σ} {keys : Finset String}
    (hk : c.NamesWithin w.service keys) (root : String) :
    (c.list root true w).requests.length ≤ keys.card + 1 ∧
      ((c.list root true w).requests.map fun r => directoryKey r.listedPath).Nodup ∧
      (keys.card < c.maxDepth → (c.list root true w).result ≠ .error .tooDeep ∧
        ∀ m, c.maxDepth ≤ m →
          ({ c with maxDepth := m }).list root true w = c.list root true w) := by
  obtain ⟨calls, r, hc, -, hrequests⟩ := c.course_of_list root w
  obtain ⟨hnamed, hroot⟩ := hk.key_mem_insert root
  refine ⟨?_, ?_, ?_⟩
  · have hlength := hc.length_le_card hnamed hroot
    have hcard := Finset.card_insert_le (directoryKey root) keys
    rw [hrequests]
    split
    · exact Nat.zero_le _
    · rw [List.length_map]
      omega
  · rw [hrequests]
    split
    · exact List.nodup_nil
    · simpa [listedPath_listRequest, Function.comp_def] using hc.nodup_keys List.nodup_nil
  · intro hdepth
    have hnot := c.list_true_ne_tooDeep hk hdepth root
    exact ⟨hnot, fun m hm => c.list_true_of_le hm root w hnot⟩

end Connection

/-- The shelf names one directory, so that two requests are enough. -/
theorem list_true_bounded_shelf :
    Shelf.connection.NamesWithin [] {"/r/d"} ∧
      (Shelf.connection.list "/r" true ⟨[], false⟩).requests.length ≤ 2 ∧
      ((Shelf.connection.list "/r" true ⟨[], false⟩).requests.map fun r =>
        directoryKey r.listedPath).Nodup ∧
      (Shelf.connection.list "/r" true ⟨[], false⟩).result ≠ .error .tooDeep ∧
      ∀ m, 3 ≤ m → ({ Shelf.connection with maxDepth := m }).list "/r" true ⟨[], false⟩ =
        Shelf.connection.list "/r" true ⟨[], false⟩ := by
  obtain ⟨hlength, hnodup, hdepth⟩ := Connection.list_true_bounded Shelf.connection
    (w := ⟨[], false⟩) Shelf.namesWithin "/r"
  obtain ⟨hresult, hsame⟩ := hdepth (by decide)
  exact ⟨Shelf.namesWithin, hlength, hnodup, hresult, hsame⟩

end Workspace
