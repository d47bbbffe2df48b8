/-
# What actions send, and what they come to

The requests of a composition are those of its parts, as far as the parts come to run
(`requests_bind`), and so are its records (`records_bind`).  Most steps of an operation read, check or record something and send nothing:
they are `Silent`, and behind an action they leave its requests as they are.

`Settles good bad` speaks about the result alone: what is returned is good, and a failure is bad.  A
composition settles as its second part does, if the first part returns what the second one needs
(`settles_bind`).

A walk is put together from listings, so a relation between actions that composition keeps holds of
walks if it holds of their listings (`rel_walk`), and so does a property (`prop_walk`).
-/
import Workspace.Effect
import Workspace.Listing
namespace Workspace.Action

variable {ω α β : Type}

/-! ## 1. Requests -/

theorem requests_bind (x : Action ω α) (f : α → Action ω β) (w : ω) :
    ((x >>= f) w).requests =
      (x w).requests ++
        match (x w).result with
        | .ok a => (f a (x w).world).requests
        | .error _ => [] := by
  rw [bind_run]
  cases (x w).result <;> simp [Run.requests]

theorem records_bind (x : Action ω α) (f : α → Action ω β) (w : ω) :
    ((x >>= f) w).records =
      (x w).records ++
        match (x w).result with
        | .ok a => (f a (x w).world).records
        | .error _ => [] := by
  rw [bind_run]
  cases (x w).result <;> simp [Run.records]

theorem exists_of_bind {x : Action ω α} {f : α → Action ω β} {w : ω} {b : β}
    (h : ((x >>= f) w).result = .ok b) : ∃ a, (x w).result = .ok a := by
  cases ha : (x w).result with
  | ok a => exact ⟨a, rfl⟩
  | error failure =>
    rw [bind_run_error ha] at h
    cases h

theorem bind_run_of_eq {x : Action ω α} {w : ω} {result : Except Failure α} {a : α}
    (hx : x w = ⟨result, [], w⟩) (ha : result = .ok a) (f : α → Action ω β) :
    (x >>= f) w = f a w := by
  rw [bind_run, hx, ha]
  rfl

/-- An action that sends nothing. -/
def Silent (x : Action ω α) : Prop := ∀ w, (x w).requests = []

namespace Silent

theorem pure (a : α) : Silent (Pure.pure a : Action ω α) := fun _ => rfl

theorem log (r : Log.Record) : Silent (Action.log r : Action ω Unit) := fun _ => rfl

theorem ofResult (x : Except Error α) : Silent (Action.ofResult x : Action ω α) := fun _ => rfl

theorem bind {x : Action ω α} {f : α → Action ω β} (hx : Silent x) (hf : ∀ a, Silent (f a)) :
    Silent (x >>= f) := by
  intro w
  rw [requests_bind, hx w]
  cases (x w).result with
  | ok a => exact hf a _
  | error failure => rfl

end Silent

theorem requests_bind_of_silent_left {x : Action ω α} (hx : Silent x) {a : α} {w : ω}
    (ha : (x w).result = .ok a) (f : α → Action ω β) :
    ((x >>= f) w).requests = (f a (x w).world).requests := by
  rw [requests_bind, hx w, ha, List.nil_append]

theorem requests_bind_of_silent {f : α → Action ω β} (hf : ∀ a, Silent (f a)) (x : Action ω α)
    (w : ω) : ((x >>= f) w).requests = (x w).requests := by
  rw [requests_bind]
  cases (x w).result with
  | ok a => simp only [hf a _, List.append_nil]
  | error failure => exact List.append_nil _

/-! ## 2. Results -/

/-- `Settles good bad result`: a result that is returned is good, and a failure is bad. -/
inductive Settles (good : α → Prop) (bad : Failure → Prop) : Except Failure α → Prop
  | ok {a : α} : good a → Settles good bad (.ok a)
  | error {failure : Failure} : bad failure → Settles good bad (.error failure)

section Settles

variable {good : α → Prop} {bad : Failure → Prop}

theorem Settles.imp {good' : α → Prop} {bad' : Failure → Prop} {result : Except Failure α}
    (h : Settles good bad result) (hgood : ∀ a, good a → good' a)
    (hbad : ∀ failure, bad failure → bad' failure) : Settles good' bad' result := by
  cases h with
  | ok h => exact .ok (hgood _ h)
  | error h => exact .error (hbad _ h)

theorem Settles.of_eq_ok {result : Except Failure α} (h : Settles good bad result) {a : α}
    (ha : result = .ok a) : good a := by
  subst ha
  cases h with
  | ok h => exact h

theorem Settles.of_error {result : Except Failure α} (h : ∀ failure, result = .error failure →
    bad failure) : Settles (fun _ => True) bad result := by
  cases result with
  | ok a => exact .ok trivial
  | error failure => exact .error (h failure rfl)

/-- **A composition settles** if the first part returns something on which the second part settles,
in whatever world. -/
theorem settles_bind {next : β → Prop} {x : Action ω β} {f : β → Action ω α} {w : ω}
    (hx : Settles next bad (x w).result)
    (hf : ∀ b w', next b → Settles good bad (f b w').result) :
    Settles good bad ((x >>= f) w).result := by
  cases hb : (x w).result with
  | ok b =>
    rw [hb] at hx
    rw [bind_run_ok hb]
    cases hx with
    | ok hnext => exact hf b _ hnext
  | error failure =>
    rw [hb] at hx
    rw [bind_run_error hb]
    cases hx with
    | error hbad => exact .error hbad

theorem settles_log {r : Log.Record} {f : Unit → Action ω α} {w : ω}
    (hf : Settles good bad (f () w).result) : Settles good bad ((Action.log r >>= f) w).result := hf

theorem settles_ofResult {x : Except Error α} (h : Settles good bad (x.mapError .error)) (w : ω) :
    Settles good bad ((Action.ofResult x : Action ω α) w).result := h

end Settles

/-! ## 3. Walks -/

section Walks

variable {ω' : Type} {R : ∀ {α : Type}, Action ω α → Action ω' α → Prop}
  (hpure : ∀ {α : Type} (a : α), R (pure a) (pure a))
  (hfail : ∀ {α : Type} (failure : Failure), @R α (fail failure) (fail failure))
  (hbind : ∀ {α β : Type} {x : Action ω α} {x' : Action ω' α} {f : α → Action ω β}
    {f' : α → Action ω' β}, R x x' → (∀ a, R (f a) (f' a)) → R (x >>= f) (x' >>= f'))
include hpure hfail hbind

/-- A relation that composition keeps holds of two ways through some entries, if it holds of the
descents into the directories among them. -/
theorem rel_visit {descend : String → List String → Action ω Found}
    {descend' : String → List String → Action ω' Found}
    (hdescend : ∀ directory seen, R (descend directory seen) (descend' directory seen))
    (path : String) (entries : List ObjectStatus) (seen : List String) :
    R (visit descend path entries seen) (visit descend' path entries seen) := by
  -- the two walks branch alike, for the branches depend on the entry and the keys alone
  induction entries generalizing seen with
  | nil => exact hpure ([], seen)
  | cons entry rest ih =>
    simp only [visit]
    cases entry.objectType with
    | notebook => exact hbind (ih seen) fun found => hpure _
    | directory =>
      simp only
      split
      · exact hfail _
      · exact hbind (hdescend _ _) fun below => hbind (ih _) fun found => hpure _
    | _ => exact ih seen

/-- **A relation that composition keeps holds of two walks**, if it holds of their listings. -/
theorem rel_walk {list : String → Action ω (List ObjectStatus)}
    {list' : String → Action ω' (List ObjectStatus)} (hlist : ∀ path, R (list path) (list' path))
    (depth : Nat) (path : String) : R (walk list depth path) (walk list' depth path) := by
  have hcollect (path : String) (seen : List String) :
      R (collect list depth path seen) (collect list' depth path seen) := by
    induction depth generalizing path seen with
    | zero => exact hfail .tooDeep
    | succ depth ih =>
      exact hbind (hlist path) fun entries => rel_visit hpure hfail hbind ih path entries _
  exact hbind (hcollect path _) fun found => hpure found.1

end Walks

/-- What composition keeps of single actions holds of a walk, if it holds of the listings. -/
theorem prop_walk {P : ∀ {α : Type}, Action ω α → Prop} (hpure : ∀ {α : Type} (a : α), P (pure a))
    (hfail : ∀ {α : Type} (failure : Failure), @P α (fail failure))
    (hbind : ∀ {α β : Type} {x : Action ω α} {f : α → Action ω β}, P x → (∀ a, P (f a)) →
      P (x >>= f))
    {list : String → Action ω (List ObjectStatus)} (hlist : ∀ path, P (list path))
    (depth : Nat) (path : String) : P (walk list depth path) :=
  @rel_walk ω ω (fun x _ => P x) hpure hfail hbind list list hlist depth path

end Workspace.Action
