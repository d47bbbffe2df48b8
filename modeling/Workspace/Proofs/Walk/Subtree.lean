/-
# A subtree is a part of its tree

A walk that returns has listed a number of directories, and a walk from one of them could have been
made on its own.  `list_true_subtree` says that it returns too, that its requests are a segment of
those of the whole walk, and that its notebooks are a segment of the notebooks.

The walk from below starts with nothing seen, whereas the whole walk comes there with the keys seen
before.  Two laws of courses bridge the gap.

* `Course.exists_part`: the part of a course below a directory that it calls is a course of that
  directory, and what it calls and finds are segments of what the whole calls and finds.
* `Course.agrees`: a course that returns is the same for any smaller set of keys seen before, and
  for any more directories left to nest.
-/
import Workspace.Proofs.Walk.Service
namespace Workspace

open Walk

/-! ## 1. Parts of a course -/

namespace Walk.Course

variable {permitted permitted' : Call → Prop} {n : Nat} {task : Task} {seen : List String}
  {calls : List Call} {r : Except Failure Found}

/-- **What is below a directory is a part of the course.**  A course that returns goes through a
course of each directory that it calls; what this part calls and finds stands in one piece in what
the whole calls and finds. -/
theorem exists_part (h : Course permitted n task seen calls r) :
    ∀ {found : List ObjectStatus} {seen' : List String}, r = .ok (found, seen') →
      ∀ c ∈ calls, ∃ m ≤ n, ∃ before after calls₁ found₁,
        Course permitted m (.directory c.path) before calls₁ (.ok (found₁, after)) ∧
          calls₁ <:+: calls ∧ found₁ <:+: found := by
  -- the part grows with the course: entries before it and behind it leave it an infix
  induction h with
  | exhausted _ => intro _ _ hr; cases hr
  | unlisted _ _ => intro _ _ hr; cases hr
  | listed hk hp hrest ih =>
    intro found seen' hr c hc
    rcases List.mem_cons.mp hc with rfl | hc
    · subst hr
      exact ⟨_, le_rfl, _, _, _, _, .listed hk hp hrest, List.infix_rfl, List.infix_rfl⟩
    · obtain ⟨m, hm, before, after, calls₁, found₁, hcourse, hcalls, hfound⟩ := ih hr c hc
      exact ⟨m, Nat.le_succ_of_le hm, before, after, calls₁, found₁, hcourse,
        List.infix_cons hcalls, hfound⟩
  | done =>
    intro _ _ _ c hc
    cases hc
  | notebook _ _ ih =>
    intro found seen' hr c hc
    obtain ⟨rest, hr', rfl⟩ := map_prepend_eq_ok.mp hr
    obtain ⟨m, hm, before, after, calls₁, found₁, hcourse, hcalls, hfound⟩ := ih hr' c hc
    exact ⟨m, hm, before, after, calls₁, found₁, hcourse, hcalls, List.infix_cons hfound⟩
  | skipped _ _ _ ih => exact ih
  | clash _ _ => intro _ _ hr; cases hr
  | broken _ _ _ => intro _ _ hr; cases hr
  | descended _ _ _ ih₁ ih₂ =>
    intro found seen' hr c hc
    obtain ⟨rest, hr', rfl⟩ := map_prepend_eq_ok.mp hr
    rcases List.mem_append.mp hc with hc | hc
    · obtain ⟨m, hm, before, after, calls₁, found₁, hcourse, hcalls, hfound⟩ := ih₁ rfl c hc
      exact ⟨m, hm, before, after, calls₁, found₁, hcourse,
        hcalls.trans (List.prefix_append _ _).isInfix,
        hfound.trans (List.prefix_append _ _).isInfix⟩
    · obtain ⟨m, hm, before, after, calls₁, found₁, hcourse, hcalls, hfound⟩ := ih₂ hr' c hc
      exact ⟨m, hm, before, after, calls₁, found₁, hcourse,
        hcalls.trans (List.suffix_append _ _).isInfix,
        hfound.trans (List.suffix_append _ _).isInfix⟩

/-- **A course that returns does not hang on what was seen.**  With the same listings, fewer keys
seen before and no less to nest, a course of the same task returns as well, finds the same and calls
the same directories. -/
theorem agrees {listings : String → Option (List ObjectStatus)}
    (hp : ∀ c, permitted c → c.answer.toOption = listings c.path)
    (hp' : ∀ c, permitted' c → c.answer.toOption = listings c.path)
    (h : Course permitted n task seen calls r) :
    ∀ {found : List ObjectStatus} {after : List String}, r = .ok (found, after) →
      ∀ {m : Nat} {seen' : List String} {calls' : List Call} {r' : Except Failure Found},
        n ≤ m → seen' ⊆ seen → Course permitted' m task seen' calls' r' →
        ∃ after', r' = .ok (found, after') ∧ after' ⊆ after ∧
          calls'.map Call.path = calls.map Call.path := by
  induction h with
  | exhausted _ => intro _ _ hr; cases hr
  | unlisted _ _ => intro _ _ hr; cases hr
  | @listed n path seen entries _ _ _ _ hc _ ih =>
    intro found after hr m seen' calls' r' hm hsub h'
    have hlisted := hp _ hc
    cases h' with
    | exhausted _ => exact absurd hm (Nat.not_succ_le_zero n)
    | unlisted _ hc' => cases hlisted.trans (hp' _ hc').symm
    | listed _ hc' h' =>
      cases hlisted.trans (hp' _ hc').symm
      obtain ⟨after', hr', hafter, hcalls⟩ :=
        ih hr (Nat.le_of_succ_le_succ hm) (List.cons_subset_cons _ hsub) h'
      exact ⟨after', hr', hafter, congrArg (path :: ·) hcalls⟩
  | done =>
    intro found after hr m seen' calls' r' _ hsub h'
    cases hr
    cases h'
    exact ⟨seen', rfl, hsub, rfl⟩
  | notebook hn _ ih =>
    intro found after hr m seen' calls' r' hm hsub h'
    obtain ⟨rest, hrest, rfl⟩ := map_prepend_eq_ok.mp hr
    obtain ⟨r₀, hrest', rfl⟩ := h'.of_notebook hn
    obtain ⟨after', rfl, hafter, hcalls⟩ := ih hrest hm hsub hrest'
    exact ⟨after', rfl, hafter, hcalls⟩
  | skipped hn hd _ ih =>
    intro found after hr m seen' calls' r' hm hsub h'
    exact ih hr hm hsub (h'.of_skipped hn hd)
  | clash _ _ => intro _ _ hr; cases hr
  | broken _ _ _ => intro _ _ hr; cases hr
  | descended hd hb _ ih₁ ih₂ =>
    intro found after hr m seen' calls' r' hm hsub h'
    obtain ⟨rest, hrest, rfl⟩ := map_prepend_eq_ok.mp hr
    -- a key that was not seen is not seen in the smaller set either
    have hk := fun hmem => hb.key_notMem (hsub hmem)
    rcases h'.of_directory hd hk with ⟨failure, hb', -⟩ |
        ⟨below', found', seen'', calls'', r'', hb', hrest', rfl, rfl⟩
    · obtain ⟨_, hok, -⟩ := ih₁ rfl hm hsub hb'
      cases hok
    · obtain ⟨_, hok, hafter, hbelow⟩ := ih₁ rfl hm hsub hb'
      cases hok
      obtain ⟨after', rfl, hafter', hcalls⟩ := ih₂ hrest hm hafter hrest'
      exact ⟨after', rfl, hafter', by simp only [List.map_append, hbelow, hcalls]⟩

end Walk.Course

/-! ## 2. Recursive listings -/

namespace Connection

variable {σ : Type}

theorem Comes.trans {c : Connection σ} {s t u : σ} (h : c.Comes s t) (h' : c.Comes t u) :
    c.Comes s u := by
  induction h' with
  | start => exact h
  | listing path locked _ ih => exact ih.listing path locked

theorem AnswersFrom.of_comes {c : Connection σ} {s t : σ} {answer : String → Http.Outcome}
    (h : c.AnswersFrom s answer) (ht : c.Comes s t) : c.AnswersFrom t answer :=
  fun u hu => h u (ht.trans hu)

/-- With fixed answers, the listings are the same after any listings. -/
theorem AnswersFrom.listings_eq {c : Connection σ} {w v : Wire σ}
    {answer : String → Http.Outcome} (h : c.AnswersFrom w.service answer) (hv : c.Leads w v) :
    c.listings v = c.listings w := by
  funext directory
  have hw : (c.list directory false w).result = _ := h.listDirectory_result .start directory
  have hv : (c.list directory false v).result = _ := h.listDirectory_result hv.1 directory
  rw [listings, listings, hw, hv]

/-- **A subtree is a part of its tree.**  Let the service give a fixed answer for each path, and let
a recursive listing of the root return.  For every directory that it asked for, a recursive listing
of this directory, then or after any listings, returns as well; its requests are a contiguous
segment of the requests for the root, and its notebooks of the notebooks below the root. -/
theorem list_true_subtree (c : Connection σ) {w : Wire σ} {answer : String → Http.Outcome}
    (hs : c.AnswersFrom w.service answer) {root : String} {found : List ObjectStatus}
    (hr : (c.list root true w).result = .ok found) {directory : String}
    (hd : directory ∈ (c.list root true w).requests.map Http.Request.listedPath) {v : Wire σ}
    (hv : c.Leads w v) :
    ∃ below, (c.list directory true v).result = .ok below ∧
      (c.list directory true v).requests <:+: (c.list root true w).requests ∧
      below <:+: found := by
  obtain ⟨calls, r, hc, hresult, hrequests⟩ := c.course_of_list root w
  rw [hresult] at hr
  obtain ⟨⟨found, seen⟩, rfl, rfl⟩ := map_eq_ok_iff.mp hr
  -- the directory is that of a call, which a closed client would not have made
  obtain ⟨request, hmem, rfl⟩ := List.mem_map.mp hd
  have hopen : c.client.closed = false := by
    by_contra hclosed
    rw [hrequests, if_pos (by simpa using hclosed)] at hmem
    cases hmem
  rw [hopen, if_neg Bool.false_ne_true] at hrequests
  rw [hrequests] at hmem
  obtain ⟨call, hcall, rfl⟩ := List.mem_map.mp hmem
  rw [listedPath_listRequest]
  obtain ⟨m, hm, before, after, calls₁, found₁, hpart, hcalls, hfound⟩ := hc.exists_part rfl call hcall
  obtain ⟨calls', r', hc', hresult', hrequests'⟩ := c.course_of_list call.path v
  obtain ⟨after', rfl, -, hpaths⟩ := hpart.agrees (fun _ hmade => hmade.toOption_answer hs)
    (fun _ hmade => (hmade.toOption_answer (hs.of_comes hv.1)).trans
      (congrFun (hs.listings_eq hv) _))
    rfl hm (List.nil_subset before) hc'
  refine ⟨found₁, hresult', ?_, hfound⟩
  rw [hopen, if_neg Bool.false_ne_true, hv.2] at hrequests'
  have hsame : calls'.map (fun call => c.listRequest call.path w.lockHeld) =
      calls₁.map fun call => c.listRequest call.path w.lockHeld := by
    simpa only [List.map_map, Function.comp_def] using
      congrArg (List.map fun path => c.listRequest path w.lockHeld) hpaths
  rw [hrequests, hrequests', hsame]
  exact hcalls.map _

end Connection

/-- The walk of the shelf asks for the directory, and the notebook below it stands between the other
two. -/
theorem list_true_subtree_shelf :
    Shelf.connection.AnswersFrom [] Shelf.answer ∧
      (Shelf.connection.list "/r" true ⟨[], false⟩).result = .ok Shelf.notebooks ∧
      "/r/d/" ∈ (Shelf.connection.list "/r" true ⟨[], false⟩).requests.map
        Http.Request.listedPath ∧
      ∃ below, (Shelf.connection.list "/r/d/" true ⟨[], false⟩).result = .ok below ∧
        (Shelf.connection.list "/r/d/" true ⟨[], false⟩).requests <:+:
          (Shelf.connection.list "/r" true ⟨[], false⟩).requests ∧
        below <:+: Shelf.notebooks := by
  have hd : "/r/d/" ∈ (Shelf.connection.list "/r" true ⟨[], false⟩).requests.map
      Http.Request.listedPath := by decide +kernel
  exact ⟨Shelf.answersFrom, Shelf.list_true_result, hd,
    Connection.list_true_subtree Shelf.connection (w := ⟨[], false⟩) Shelf.answersFrom
      Shelf.list_true_result hd (v := ⟨[], false⟩) ⟨.start, rfl⟩⟩

end Workspace
