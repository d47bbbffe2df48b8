/-
# When a recursive listing returns

A walk refuses a directory whose key it has seen, at the moment it meets it.  Seen from outside,
the service is a graph: a directory contains those that its listing names.  `list_true_returns_iff`
says what the check on the way amounts to there: a recursive listing returns iff every directory
that can be reached has a listing, and no two of the places that name a directory name the same
one, up to slashes at the end.  The root counts as a place of its own.

The two directions rest on the two halves of the bookkeeping.  A course that returns has called
what was named, each directory as often as it was named (`Course.balance`), and no key twice; a
course that stops at a directory had it named once more than it was called (`Course.failure`).
-/
import Mathlib.Data.List.Nodup
import Mathlib.Data.List.Pairwise
import Mathlib.Logic.Relation
import Workspace.Proofs.Walk.Bound
namespace Workspace

open Walk

/-! ## 1. Paths with the same key -/

/-- The paths are the same up to slashes at their ends. -/
def SamePath (a b : String) : Prop :=
  ∃ stem m n, a.toList = stem ++ List.replicate m '/' ∧ b.toList = stem ++ List.replicate n '/'

/-- The characters of a path without the slashes at its end. -/
def stem (path : String) : List Char := Text.dropEndWhile (· == '/') path.toList

theorem directoryKey_eq (path : String) :
    directoryKey path = if stem path = [] then "/" else String.ofList (stem path) := by
  have hkey : Text.trimEnd '/' path = String.ofList (stem path) := rfl
  rw [directoryKey, hkey]
  by_cases h : stem path = []
  · simp [h]
  · simp [h]

/-- A path is its stem and slashes. -/
theorem exists_eq_stem_append (path : String) :
    ∃ n, path.toList = stem path ++ List.replicate n '/' := by
  obtain ⟨run, heq, hrun⟩ := Text.exists_append_dropEndWhile (· == '/') path.toList
  have hslashes : run = List.replicate run.length '/' :=
    List.eq_replicate_of_mem fun c hc => beq_iff_eq.mp (hrun c hc)
  rw [hslashes] at heq
  exact ⟨run.length, heq⟩

theorem stem_eq_of_append {path : String} {cs : List Char} {n : Nat}
    (h : path.toList = cs ++ List.replicate n '/') :
    stem path = Text.dropEndWhile (· == '/') cs := by
  rw [stem, h, Text.dropEndWhile_append_of_forall]
  intro c hc
  exact beq_iff_eq.mpr (List.eq_of_mem_replicate hc)

/-- **Directories have the same key iff their paths are the same up to slashes at their ends.** -/
theorem directoryKey_eq_iff {a b : String} : directoryKey a = directoryKey b ↔ SamePath a b := by
  have hslash (path : String) : "/" ≠ String.ofList (stem path) := by
    intro h
    exact Text.dropEndWhile_ne_singleton path.toList rfl
      (String.ofList_injective (h.symm.trans rfl : _ = String.ofList ['/']))
  constructor
  · intro h
    have hstem : stem a = stem b := by
      rw [directoryKey_eq, directoryKey_eq] at h
      split at h <;> split at h
      · simp_all
      · exact absurd h (hslash b)
      · exact absurd h.symm (hslash a)
      · exact String.ofList_injective h
    obtain ⟨m, ha⟩ := exists_eq_stem_append a
    obtain ⟨n, hb⟩ := exists_eq_stem_append b
    exact ⟨stem a, m, n, ha, hstem ▸ hb⟩
  · rintro ⟨cs, m, n, ha, hb⟩
    rw [directoryKey_eq, directoryKey_eq, stem_eq_of_append ha, stem_eq_of_append hb]

example : SamePath "" "//" := ⟨[], 0, 2, rfl, rfl⟩

/-! ## 2. Directories that can be reached, and places that name them -/

/-- The listing of the directory `above` has an entry for the directory `below`. -/
def Contains (listings : String → Option (List ObjectStatus)) (above below : String) : Prop :=
  ∃ entries, listings above = some entries ∧
    ∃ entry ∈ entries, entry.objectType = .directory ∧ entry.path = below

/-- The directory can be reached from the root through entries for directories. -/
def Reachable (listings : String → Option (List ObjectStatus)) (root directory : String) : Prop :=
  Relation.ReflTransGen (Contains listings) root directory

/-- A place that names a directory: the root of a recursive listing, or the entry with a given index
in the listing of a directory. -/
inductive Place
  | root
  | entry (directory : String) (index : Nat)

/-- The place names the directory, and a recursive listing of the root can come there. -/
inductive NamedAt (listings : String → Option (List ObjectStatus)) (root : String) :
    Place → String → Prop
  | root : NamedAt listings root .root root
  | entry {directory : String} {entries : List ObjectStatus} {index : Nat} {entry : ObjectStatus} :
      Reachable listings root directory → listings directory = some entries →
      entries[index]? = some entry → entry.objectType = .directory →
      NamedAt listings root (.entry directory index) entry.path

/-- No two places name the same path, up to slashes at the end. -/
def NamedOnce (listings : String → Option (List ObjectStatus)) (root : String) : Prop :=
  ∀ ⦃a b : Place⦄ ⦃x y : String⦄, NamedAt listings root a x → NamedAt listings root b y →
    SamePath x y → a = b

/-- The directories that the listing of a directory names, in order. -/
def children (listings : String → Option (List ObjectStatus)) (directory : String) : List String :=
  ((listings directory).map subdirectories).getD []

section Places

variable {listings : String → Option (List ObjectStatus)} {root : String} {trail : List String}

theorem children_eq {directory : String} {entries : List ObjectStatus}
    (h : listings directory = some entries) :
    children listings directory = subdirectories entries := by
  simp [children, h]

theorem mem_children {above below : String} :
    below ∈ children listings above ↔ Contains listings above below := by
  cases h : listings above with
  | none => simp [children, Contains, h]
  | some entries => simp [children_eq h, Contains, h, mem_subdirectories]

theorem namedAt_of_mem_children {directory below : String}
    (hd : Reachable listings root directory) (h : below ∈ children listings directory) :
    ∃ index, NamedAt listings root (.entry directory index) below := by
  obtain ⟨entries, hl, entry, hentry, ht, rfl⟩ := mem_children.mp h
  obtain ⟨index, hi⟩ := List.getElem?_of_mem hentry
  exact ⟨index, .entry hd hl hi ht⟩

theorem nodup_keys_subdirectories {entries : List ObjectStatus} :
    ((subdirectories entries).map directoryKey).Nodup ↔
      entries.Pairwise fun a b => a.objectType = .directory → b.objectType = .directory →
        directoryKey a.path ≠ directoryKey b.path := by
  simp [subdirectories, List.Nodup, List.pairwise_map, List.pairwise_filter,
    ObjectStatus.isDirectory]

/-- In a listing whose directories have distinct keys, a key has one index. -/
theorem index_eq_of_nodup {entries : List ObjectStatus}
    (hn : ((subdirectories entries).map directoryKey).Nodup) {i j : Nat} {a b : ObjectStatus}
    (hi : entries[i]? = some a) (hj : entries[j]? = some b) (ha : a.objectType = .directory)
    (hb : b.objectType = .directory) (hkey : directoryKey a.path = directoryKey b.path) :
    i = j := by
  rw [nodup_keys_subdirectories, List.pairwise_iff_getElem] at hn
  obtain ⟨hil, rfl⟩ := List.getElem?_eq_some_iff.mp hi
  obtain ⟨hjl, rfl⟩ := List.getElem?_eq_some_iff.mp hj
  rcases Nat.lt_trichotomy i j with hlt | heq | hgt
  · exact absurd hkey (hn i j hil hjl hlt ha hb)
  · exact heq
  · exact absurd hkey.symm (hn j i hjl hil hgt hb ha)

/-- If no two places clash, the keys of what a list of directories names are distinct. -/
theorem NamedOnce.nodup (h : NamedOnce listings root)
    (hreach : ∀ d ∈ trail, Reachable listings root d) (ht : trail.Nodup) :
    ((root :: trail.flatMap (children listings)).map directoryKey).Nodup := by
  rw [List.map_cons, List.nodup_cons, List.map_flatMap, List.nodup_flatMap]
  -- against the root, within one listing, and between two listings
  refine ⟨?_, ?_, ?_⟩
  · intro hmem
    obtain ⟨d, hd, hkey⟩ := List.mem_flatMap.mp hmem
    obtain ⟨below, hb, hkey⟩ := List.mem_map.mp hkey
    obtain ⟨index, hplace⟩ := namedAt_of_mem_children (hreach d hd) hb
    cases h .root hplace (directoryKey_eq_iff.mp hkey.symm)
  · intro d hd
    cases hl : listings d with
    | none => simp [children, hl]
    | some entries =>
      rw [children_eq hl, nodup_keys_subdirectories, List.pairwise_iff_getElem]
      intro i j hi hj hij hdi hdj hkey
      have hplace := h (.entry (hreach d hd) hl (List.getElem?_eq_getElem hi) hdi)
        (.entry (hreach d hd) hl (List.getElem?_eq_getElem hj) hdj) (directoryKey_eq_iff.mp hkey)
      cases hplace
      omega
  · refine List.Pairwise.imp_of_mem ?_ ht
    intro d d' hd hd' hne key hkey hkey'
    obtain ⟨x, hx, rfl⟩ := List.mem_map.mp hkey
    obtain ⟨y, hy, hxy⟩ := List.mem_map.mp hkey'
    obtain ⟨i, hi⟩ := namedAt_of_mem_children (hreach d hd) hx
    obtain ⟨j, hj⟩ := namedAt_of_mem_children (hreach d' hd') hy
    cases h hi hj (directoryKey_eq_iff.mp hxy.symm)
    exact hne rfl

/-- If the keys of what all directories that can be reached name are distinct, no two places
clash. -/
theorem namedOnce_of_nodup (hall : ∀ d, Reachable listings root d → d ∈ trail)
    (hn : ((root :: trail.flatMap (children listings)).map directoryKey).Nodup) :
    NamedOnce listings root := by
  rw [List.map_cons, List.nodup_cons, List.map_flatMap, List.nodup_flatMap] at hn
  obtain ⟨hroot, heach, hapart⟩ := hn
  have hchild {d : String} {entries : List ObjectStatus} {i : Nat} {entry : ObjectStatus}
      (hl : listings d = some entries) (hi : entries[i]? = some entry)
      (ht : entry.objectType = .directory) :
      directoryKey entry.path ∈ (children listings d).map directoryKey :=
    List.mem_map_of_mem (mem_children.mpr ⟨entries, hl, entry, List.mem_of_getElem? hi, ht, rfl⟩)
  have hnot {d : String} {entries : List ObjectStatus} {i : Nat} {entry : ObjectStatus}
      (hd : Reachable listings root d) (hl : listings d = some entries)
      (hi : entries[i]? = some entry) (ht : entry.objectType = .directory) :
      directoryKey root ≠ directoryKey entry.path := by
    intro hkey
    rw [hkey] at hroot
    exact hroot (List.mem_flatMap.mpr ⟨d, hall d hd, hchild hl hi ht⟩)
  have : Std.Symm (Function.onFun List.Disjoint fun d =>
      (children listings d).map directoryKey) := ⟨fun _ _ h => h.symm⟩
  intro a b x y ha hb hsame
  have hkey := directoryKey_eq_iff.mpr hsame
  -- two places are the root and an entry, two entries of one listing, or entries of two
  cases ha with
  | root =>
    cases hb with
    | root => rfl
    | entry hd hl hi ht => exact absurd hkey (hnot hd hl hi ht)
  | @entry d entries i _ hd hl hi ht =>
    cases hb with
    | root => exact absurd hkey.symm (hnot hd hl hi ht)
    | @entry d' entries' j _ hd' hl' hj ht' =>
      by_cases hne : d = d'
      · subst hne
        obtain rfl : entries = entries' := Option.some.inj (hl.symm.trans hl')
        have hkeys := heach d (hall d hd)
        rw [children_eq hl] at hkeys
        rw [index_eq_of_nodup hkeys hi hj ht ht' hkey]
      · have hdisjoint := hapart.forall (hall d hd) (hall d' hd') hne
        have hmem := hchild hl' hj ht'
        rw [← hkey] at hmem
        exact absurd hmem (hdisjoint (hchild hl hi ht))

end Places

/-! ## 3. Courses over a fixed graph -/

theorem Call.subdirectories_eq {listings : String → Option (List ObjectStatus)} {c : Call}
    (h : c.answer.toOption = listings c.path) :
    c.subdirectories = children listings c.path := by
  rw [Call.subdirectories, children, ← h]
  cases c.answer <;> rfl

namespace Walk.Course

variable {permitted : Call → Prop} {listings : String → Option (List ObjectStatus)} {n : Nat}
  {root : String} {seen : List String} {calls : List Call} {r : Except Failure Found}

/-- What a course is made to call, by the graph: the root, and what the directories called
contain. -/
theorem named_eq (hp : ∀ c, permitted c → c.answer.toOption = listings c.path)
    (h : Course permitted n (.directory root) seen calls r) :
    named (.directory root) calls =
      ↑(root :: (calls.map Call.path).flatMap (children listings)) := by
  have hcalls : calls.flatMap Call.subdirectories =
      calls.flatMap fun c => children listings c.path :=
    List.flatMap_congr fun c hc => Call.subdirectories_eq (hp c (h.permitted_of_mem c hc))
  rw [named, hcalls, List.flatMap_map]
  rfl

/-- Only directories that can be reached are called. -/
theorem reachable (hp : ∀ c, permitted c → c.answer.toOption = listings c.path)
    (h : Course permitted n (.directory root) seen calls r) :
    ∀ d ∈ calls.map Call.path, Reachable listings root d := by
  have hstep : ∀ c, permitted c → Reachable listings root c.path →
      ∀ d ∈ c.subdirectories, Reachable listings root d := by
    intro c hc hreach d hd
    rw [Call.subdirectories_eq (hp c hc)] at hd
    exact hreach.tail (mem_children.mp hd)
  have hroot : ∀ d ∈ (Task.directory root).directories, Reachable listings root d := by
    intro d hd
    rw [List.mem_singleton.mp hd]
    exact Relation.ReflTransGen.refl
  exact List.forall_mem_map.mpr (h.forall_called hstep hroot)

/-- A course that returns has called every directory that can be reached. -/
theorem called_of_reachable (hp : ∀ c, permitted c → c.answer.toOption = listings c.path)
    (h : Course permitted n (.directory root) seen calls r) {found : Found} (hr : r = .ok found)
    {d : String} (hd : Reachable listings root d) : d ∈ calls.map Call.path := by
  have hbalance := h.balance hr
  rw [h.named_eq hp, Multiset.coe_eq_coe] at hbalance
  induction hd with
  | refl => exact hbalance.mem_iff.mpr (List.mem_cons_self ..)
  | tail _ hcontains ih =>
    exact hbalance.mem_iff.mpr (List.mem_cons_of_mem _
      (List.mem_flatMap.mpr ⟨_, ih, mem_children.mpr hcontains⟩))

/-- If a course returns, no two places clash. -/
theorem namedOnce (hp : ∀ c, permitted c → c.answer.toOption = listings c.path)
    (h : Course permitted n (.directory root) [] calls r) {found : Found} (hr : r = .ok found) :
    NamedOnce listings root := by
  have hbalance := h.balance hr
  rw [h.named_eq hp, Multiset.coe_eq_coe] at hbalance
  exact namedOnce_of_nodup (fun _ hd => h.called_of_reachable hp hr hd)
    ((hbalance.map directoryKey).nodup (h.nodup_keys List.nodup_nil))

/-- If a directory comes up whose key was seen before, two places clash. -/
theorem not_namedOnce (hp : ∀ c, permitted c → c.answer.toOption = listings c.path)
    (h : Course permitted n (.directory root) [] calls r) {directory : String}
    (hk : directoryKey directory ∈ (calls.map Call.key).reverse)
    (hle : directory ::ₘ ↑(calls.map Call.path) ≤ named (.directory root) calls) :
    ¬ NamedOnce listings root := by
  intro honce
  have hnodup := honce.nodup (h.reachable hp) (h.nodup_keys List.nodup_nil).of_map
  rw [h.named_eq hp, Multiset.cons_coe, Multiset.coe_le] at hle
  obtain ⟨named, hperm, hsub⟩ := hle
  have hclash : ((directory :: calls.map Call.path).map directoryKey).Nodup :=
    (hperm.map directoryKey).nodup (hnodup.sublist (hsub.map directoryKey))
  refine (List.nodup_cons.mp hclash).1 ?_
  simpa [Call.key] using hk

end Walk.Course

/-! ## 4. Recursive listings -/

namespace Connection

variable {σ : Type}

/-- Every directory that can be reached from the root has a listing. -/
def AllListed (c : Connection σ) (w : Wire σ) (root : String) : Prop :=
  ∀ directory, Reachable (c.listings w) root directory →
    ∃ entries, (c.list directory false w).result = .ok entries

/-- **When a recursive listing returns.**  Let the service give a fixed answer for each path and
name directories with finitely many keys, fewer than the limit on the nesting.  Then a recursive
listing returns iff every directory that can be reached has a listing and no two places name
the same path, up to slashes at the end.  If only the latter fails, the answer counts as
malformed. -/
theorem list_true_returns_iff (c : Connection σ) {w : Wire σ} {answer : String → Http.Outcome}
    (hs : c.AnswersFrom w.service answer) {keys : Finset String}
    (hk : c.NamesWithin w.service keys) (hdepth : keys.card < c.maxDepth) (root : String) :
    ((∃ found, (c.list root true w).result = .ok found) ↔
      c.AllListed w root ∧ NamedOnce (c.listings w) root) ∧
    (c.AllListed w root → ¬ NamedOnce (c.listings w) root →
      ∃ e, (c.list root true w).result = .error (.error e) ∧ e.kind = .malformedResponse) := by
  obtain ⟨calls, r, hc, hresult, -⟩ := c.course_of_list root w
  have hp : ∀ call, c.Made w call → call.answer.toOption = c.listings w call.path :=
    fun call hm => hm.toOption_answer hs
  have hnot := c.list_true_ne_tooDeep hk hdepth root
  cases hr : r with
  | ok found =>
    have hall : c.AllListed w root := by
      intro d hd
      obtain ⟨call, hcall, rfl⟩ := List.mem_map.mp (hc.called_of_reachable hp hr hd)
      obtain ⟨entries, ha⟩ := hc.answered hr call hcall
      exact ⟨entries, ((hc.permitted_of_mem call hcall).answer_eq hs).symm.trans ha⟩
    have honce := hc.namedOnce hp hr
    refine ⟨⟨fun _ => ⟨hall, honce⟩, fun _ => ⟨found.1, by rw [hresult, hr]; rfl⟩⟩, ?_⟩
    intro _ hclash
    exact absurd honce hclash
  | error failure =>
    rw [hr] at hresult
    have hnone : ¬ ∃ found, (c.list root true w).result = .ok found := by
      rintro ⟨found, hok⟩
      rw [hresult] at hok
      cases hok
    -- a failure is that of a listing, which then is missing, or comes of two places that clash
    rcases hc.failure hr with ⟨call, hcall, ha⟩ | rfl | ⟨path, directory, rfl, hkey, hle⟩
    · have hunlisted : ¬ c.AllListed w root := by
        intro hall
        obtain ⟨entries, hok⟩ := hall _ (hc.reachable hp _ (List.mem_map_of_mem hcall))
        rw [← (hc.permitted_of_mem call hcall).answer_eq hs, ha] at hok
        cases hok
      exact ⟨⟨fun h => absurd h hnone, fun h => absurd h.1 hunlisted⟩,
        fun h _ => absurd h hunlisted⟩
    · exact absurd hresult hnot
    · rw [List.append_nil] at hkey
      have hclash := hc.not_namedOnce hp hkey hle
      exact ⟨⟨fun h => absurd h hnone, fun h => absurd h.2 hclash⟩,
        fun _ _ => ⟨alreadyVisited path directory, hresult, rfl⟩⟩

end Connection

/-- On the shelf every directory has a listing, and no two places clash. -/
theorem list_true_returns_iff_shelf :
    Shelf.connection.AllListed ⟨[], false⟩ "/r" ∧
      NamedOnce (Shelf.connection.listings ⟨[], false⟩) "/r" :=
  (Connection.list_true_returns_iff Shelf.connection (w := ⟨[], false⟩) Shelf.answersFrom
    Shelf.namesWithin (by decide) "/r").1.mp ⟨_, Shelf.list_true_result⟩

end Workspace
