/-
# Building a client

A client keeps the host and the token that it is built for (`Client.eq_of_build`).  A token outside
ASCII is refused, and nothing else is (`Client.build_of_ascii`).

An environment gives a host and a token, or an error that tells what is wrong with it
(`Client.settles_ofEnvironment`).  `Environment.Valid` is what its variables must hold for a client
to be built.
-/
import Workspace.Client
import Workspace.Proofs.Effect
import Workspace.Proofs.Printable
namespace Workspace

/-! ## 1. Settings -/

/-- The text in an optional text that is not empty is the text. -/
theorem eq_some_of_nonEmpty? {s : Option String} {t : String} (h : nonEmpty? s = some t) :
    s = some t := by
  unfold nonEmpty? at h
  split at h
  · split at h
    · cases h
    · exact h
  · cases h

theorem nonEmpty?_ne_empty (s : Option String) : nonEmpty? s ≠ some "" := by
  unfold nonEmpty?
  split
  · split
    · simp
    · next hne => simpa [String.isEmpty_iff] using hne
  · simp

theorem nonEmpty?_some {t : String} (h : t ≠ "") : nonEmpty? (some t) = some t := by
  have hne : t.isEmpty = false := by simpa [Bool.eq_false_iff, String.isEmpty_iff] using h
  simp [nonEmpty?, hne]

/-- To leave out an empty text once is enough. -/
theorem nonEmpty?_nonEmpty? (s : Option String) : nonEmpty? (nonEmpty? s) = nonEmpty? s := by
  cases hs : nonEmpty? s with
  | none => rfl
  | some t =>
    refine nonEmpty?_some ?_
    rintro rfl
    exact nonEmpty?_ne_empty s hs

namespace Settings

/-- What is wrong with a timeout is told by a printable error. -/
theorem printable_of_timeoutOf {setting : Option String} {e : Error}
    (h : timeoutOf setting = .error e) : e.Printable := by
  unfold timeoutOf at h
  split at h
  · cases h
  · split at h
    · split at h
      · cases h
      · cases h
        exact Error.printable_plain _ _
    · cases h
      exact Error.printable_plain _ _

/-- What is wrong with settings is told by a printable error. -/
theorem printable_of_load {env : Environment} {e : Error} (h : load env = .error e) :
    e.Printable := by
  unfold load at h
  simp only at h
  split at h
  · cases h
    exact Error.printable_plain _ _
  · split at h
    · next htimeout =>
      cases h
      exact printable_of_timeoutOf htimeout
    · cases h

theorem host_of_load {env : Environment} {s : Settings} (h : load env = .ok s) :
    s.host = normalizeHost (Text.trim (env.host.getD "")) := by
  unfold load at h
  simp only at h
  split at h
  · cases h
  · split at h
    · cases h
    · rw [← Except.ok.inj h]

theorem token_of_load {env : Environment} {s : Settings} (h : load env = .ok s) :
    s.token = nonEmpty? env.token := by
  unfold load at h
  simp only at h
  split at h
  · cases h
  · split at h
    · cases h
    · rw [← Except.ok.inj h]

end Settings

/-! ## 2. Clients -/

namespace Client

/-- The client that an environment gives. -/
def ofEnvironment (env : Environment) : Except Failure Client :=
  match Settings.load env with
  | .error e => .error (.error e)
  | .ok settings => ofSettings settings

/-- **What a client keeps** of what it is built for: the host without trailing slashes, the token
unless it is empty, and the timeout.  It is open, and has a line of its own. -/
theorem eq_of_build {host : String} {token : Option String} {timeout : Binary64} {c : Client}
    (h : build host token timeout = .ok c) :
    c = ⟨Text.trimEnd '/' host, nonEmpty? token, timeout, false, none⟩ := by
  unfold build at h
  simp only at h
  split at h
  · cases h
  · exact (Except.ok.inj h).symm

theorem exists_settings {env : Environment} {c : Client} (h : ofEnvironment env = .ok c) :
    ∃ s, Settings.load env = .ok s ∧
      c = ⟨Text.trimEnd '/' s.host, nonEmpty? s.token, s.timeout, false, none⟩ := by
  unfold ofEnvironment at h
  split at h
  · cases h
  · next s hs => exact ⟨s, hs, eq_of_build h⟩

theorem closed_of_ofEnvironment {env : Environment} {c : Client}
    (h : ofEnvironment env = .ok c) : c.closed = false := by
  obtain ⟨s, -, rfl⟩ := exists_settings h
  rfl

theorem line_of_ofEnvironment {env : Environment} {c : Client}
    (h : ofEnvironment env = .ok c) : c.line = none := by
  obtain ⟨s, -, rfl⟩ := exists_settings h
  rfl

theorem ascii_of_all {token : Option String}
    (h : token.all (fun t => t.toList.all fun ch => ch.toNat < 128) = true) :
    ∀ t ∈ token, ∀ ch ∈ t.toList, ch.toNat < 128 := by
  rintro t rfl ch hch
  exact of_decide_eq_true (List.all_eq_true.mp h ch hch)

/-- A header value in ASCII has no fault. -/
theorem headerFault?_of_ascii {value : String} (h : ∀ ch ∈ value.toList, ch.toNat < 128) :
    headerFault? value = none := by
  have hnone : value.toList.dropWhile (fun ch => !isForeign ch) = [] := by
    rw [← List.append_nil value.toList, List.dropWhile_append_of_pos]
    · rfl
    · intro ch hch
      have hlt := h ch hch
      simp only [isForeign, Bool.not_eq_true', decide_eq_false_iff_not]
      omega
  simp only [headerFault?, hnone]

/-- With an ASCII token, or none, a client is always built. -/
theorem build_of_ascii {token : Option String} (h : ∀ t ∈ token, ∀ ch ∈ t.toList, ch.toNat < 128)
    (host : String) (timeout : Binary64) :
    build host token timeout = .ok ⟨Text.trimEnd '/' host, nonEmpty? token, timeout, false, none⟩ := by
  have hnone : ((nonEmpty? token).bind fun t => headerFault? (bearer t)) = none := by
    cases ht : nonEmpty? token with
    | none => rfl
    | some t =>
      refine headerFault?_of_ascii fun ch hch => ?_
      have hbearer : "Bearer ".toList.all (fun ch => ch.toNat < 128) = true := by decide
      rw [bearer, String.toList_append] at hch
      rcases List.mem_append.mp hch with hch | hch
      · exact of_decide_eq_true (List.all_eq_true.mp hbearer ch hch)
      · exact h t (eq_some_of_nonEmpty? ht) ch hch
  simp only [build, hnone]

/-- With an ASCII token, or none, the settings decide alone. -/
theorem ofEnvironment_of_ascii {env : Environment}
    (h : ∀ t ∈ env.token, ∀ ch ∈ t.toList, ch.toNat < 128) :
    ofEnvironment env =
      match Settings.load env with
      | .error e => .error (.error e)
      | .ok s => .ok ⟨Text.trimEnd '/' s.host, nonEmpty? env.token, s.timeout, false, none⟩ := by
  unfold ofEnvironment
  cases hs : Settings.load env with
  | error e => rfl
  | ok s =>
    have hascii : ∀ t ∈ s.token, ∀ ch ∈ t.toList, ch.toNat < 128 := by
      intro t ht
      rw [Settings.token_of_load hs] at ht
      exact h t (eq_some_of_nonEmpty? ht)
    simp only [ofSettings]
    rw [build_of_ascii hascii, Settings.token_of_load hs, nonEmpty?_nonEmpty?]

end Client

/-! ## 3. Valid environments -/

/-- An environment from which a client can be built: the host is not blank, the timeout is positive
if there is one, and the token is ASCII if there is one. -/
structure Environment.Valid (env : Environment) : Prop where
  host : Text.trim (env.host.getD "") ≠ ""
  timeout : ∀ text ∈ env.timeout, text = "" ∨
    ∃ x, Binary64.ofText? text = some x ∧ x.isPositive = true
  token : ∀ t ∈ env.token, ∀ ch ∈ t.toList, ch.toNat < 128

/-- A timeout that is positive, or none, is taken. -/
theorem Settings.exists_timeoutOf {setting : Option String}
    (h : ∀ text ∈ setting, text = "" ∨ ∃ x, Binary64.ofText? text = some x ∧ x.isPositive = true) :
    ∃ x, timeoutOf setting = .ok x := by
  unfold timeoutOf
  cases hs : nonEmpty? setting with
  | none => exact ⟨_, rfl⟩
  | some text =>
    rcases h text (eq_some_of_nonEmpty? hs) with rfl | ⟨x, hx, hpositive⟩
    · exact absurd hs (nonEmpty?_ne_empty setting)
    · exact ⟨x, by simp only [hx, if_pos hpositive]⟩

/-- **A valid environment gives a client.** -/
theorem Environment.Valid.exists_client {env : Environment} (h : env.Valid) :
    ∃ c, Client.ofEnvironment env = .ok c := by
  obtain ⟨x, hx⟩ := Settings.exists_timeoutOf h.timeout
  have hhost : (Text.trim (env.host.getD "")).isEmpty = false := by
    rw [Bool.eq_false_iff, ne_eq, String.isEmpty_iff]
    exact h.host
  rw [Client.ofEnvironment_of_ascii h.token, Settings.load]
  simp only [hhost, Bool.false_eq_true, if_false, hx]
  exact ⟨_, rfl⟩

end Workspace
