/-
# The logger over a whole program

A program configures the logger, adds handlers that keep records, and writes records, in any order
and as often as it likes (`Use`).  Wherever it stands (`Logger.sound_fresh_after`):

* at most one handler writes on the error output;
* the handler for the error output is the first one, or never comes;
* a level name that is refused changes nothing;
* a record comes to the error output once or not at all, and comes there exactly if it is severe
  enough and either that handler is there, which writes it as a line, or no handler is there at all
  and it is at least a warning, which is then written bare.

The invariant behind it is `Logger.Orderly`: the handler for the error output is the first one or is
not there, because it is added to an empty list only.  So the first handler decides for good whether
there are lines on the error output (`Logger.attached_after`).

To configure is one effect after the other: the level is looked up before anything is changed, so that
a refused name leaves all as it was (`Logger.configure_run`).
-/
import Mathlib.Tactic.SplitIfs
import Workspace.Effect
import Workspace.Log.Logger
namespace Workspace.Log

/-! ## 1. What a record becomes -/

namespace Record

variable (r : Record) (stamp : String)

theorem bare_ne_empty : r.bare ≠ "" := by
  intro h
  have hlength := congrArg String.length h
  simp [bare] at hlength

theorem length_bare_lt_line : r.bare.length < (r.line stamp).length := by
  simp only [bare, line, String.length_append]
  have hmark : "] dbws: ".length = 8 := by decide
  omega

end Record

namespace Logger

/-- The handler for the error output is the first one, or is not there. -/
def Orderly (l : Logger) : Prop := Handler.errorOutput ∉ l.handlers.tail

/-- The part of a handler in the text on the error output. -/
def share (line : String) (h : Handler) : String := if h = .errorOutput then line else ""

/-- Handlers that keep records write nothing on the error output. -/
theorem join_share_eq_empty {line : String} {handlers : List Handler}
    (h : Handler.errorOutput ∉ handlers) : String.join (handlers.map (share line)) = "" := by
  induction handlers with
  | nil => rfl
  | cons first rest ih =>
    rw [List.mem_cons, not_or] at h
    rw [List.map_cons, String.join_cons, ih h.2, share, if_neg (Ne.symm h.1), String.append_empty]

/-- In an orderly logger the handlers write a line once, or not at all. -/
theorem Orderly.join_share {l : Logger} (h : l.Orderly) (line : String) :
    String.join (l.handlers.map (share line)) = if .errorOutput ∈ l.handlers then line else "" := by
  unfold Orderly at h
  cases hs : l.handlers with
  | nil => rfl
  | cons first rest =>
    rw [hs, List.tail_cons] at h
    rw [List.map_cons, String.join_cons, join_share_eq_empty h, String.append_empty, share]
    by_cases hfirst : first = .errorOutput
    · rw [if_pos hfirst, if_pos (hfirst ▸ List.mem_cons_self)]
    · rw [if_neg hfirst, if_neg]
      rw [List.mem_cons, not_or]
      exact ⟨Ne.symm hfirst, h⟩

/-- **What an orderly logger writes on the error output** for a record. -/
theorem Orderly.errors_emit {l : Logger} (h : l.Orderly) (stamp : String) (r : Record) :
    (l.emit stamp r).errors =
      if l.threshold ≤ r.level.severity then
        if .errorOutput ∈ l.handlers then r.line stamp
        else if l.handlers = [] ∧ Level.warning.severity ≤ r.level.severity then r.bare
        else ""
      else "" := by
  have hjoin := h.join_share (r.line stamp)
  by_cases hpass : l.threshold ≤ r.level.severity
  · simp only [emit, passes, hpass, decide_true, if_true]
    -- without handlers the bare text goes to the error output, if it is a warning at least
    cases hs : l.handlers with
    | nil => simp
    | cons first rest =>
      rw [hs] at hjoin
      simpa only [List.isEmpty_cons, Bool.false_eq_true, if_false, reduceCtorEq, false_and]
        using! hjoin
  · simp [emit, passes, hpass]

/-- What comes to the error output for a record.  It is a line, the bare record or nothing, and
never two of them. -/
structure Shows (l : Logger) (stamp : String) (r : Record) : Prop where
  /-- A line comes out if the record is severe enough and the handler is there. -/
  line : (l.emit stamp r).errors = r.line stamp ↔
    l.threshold ≤ r.level.severity ∧ .errorOutput ∈ l.handlers
  /-- The bare record comes out if it is severe enough, no handler is there at all, and it is at
  least a warning. -/
  bare : (l.emit stamp r).errors = r.bare ↔
    l.threshold ≤ r.level.severity ∧ l.handlers = [] ∧
      Level.warning.severity ≤ r.level.severity
  /-- Nothing comes out otherwise. -/
  nothing : (l.emit stamp r).errors = "" ↔
    ¬ (l.threshold ≤ r.level.severity ∧ (.errorOutput ∈ l.handlers ∨
      l.handlers = [] ∧ Level.warning.severity ≤ r.level.severity))

/-- An orderly logger shows a record as it should. -/
theorem Orderly.shows {l : Logger} (h : l.Orderly) (stamp : String) (r : Record) :
    l.Shows stamp r := by
  have hbare := r.bare_ne_empty
  have hlonger := r.length_bare_lt_line stamp
  have hline : r.line stamp ≠ "" := by
    intro hempty
    rw [hempty] at hlonger
    exact absurd hlonger (Nat.not_lt_zero _)
  have hother : r.line stamp ≠ r.bare := by
    intro hsame
    rw [hsame] at hlonger
    exact absurd hlonger (Nat.lt_irrefl _)
  -- a line, the bare record and nothing are three texts, so what is shown tells the case
  by_cases hpass : l.threshold ≤ r.level.severity
  · by_cases hmem : Handler.errorOutput ∈ l.handlers
    · have htext : (l.emit stamp r).errors = r.line stamp := by
        rw [h.errors_emit, if_pos hpass, if_pos hmem]
      have hsome : l.handlers ≠ [] := List.ne_nil_of_mem hmem
      constructor <;> simp [htext, hpass, hmem, hsome, hline, hother]
    · by_cases hlast : l.handlers = [] ∧ Level.warning.severity ≤ r.level.severity
      · have htext : (l.emit stamp r).errors = r.bare := by
          rw [h.errors_emit, if_pos hpass, if_neg hmem, if_pos hlast]
        constructor <;> simp [htext, hpass, hlast, hbare, hother.symm]
      · have htext : (l.emit stamp r).errors = "" := by
          rw [h.errors_emit, if_pos hpass, if_neg hmem, if_neg hlast]
        constructor <;> simp [htext, hpass, hmem, hlast, hline.symm, hbare.symm]
  · have htext : (l.emit stamp r).errors = "" := by
      rw [h.errors_emit, if_neg hpass]
    constructor <;> simp [htext, hpass, hline.symm, hbare.symm]

/-! ## 2. Uses of a logger -/

/-- **What it is to configure a logger**: a refused level leaves it as it is; any other is set, and the
handler for the error output becomes the first one. -/
theorem configure_run (value : Json) (l : Logger) :
    configure value l =
      match levelOf value with
      | .ok level => ⟨.ok (), [], ⟨level, if l.handlers = [] then [.errorOutput] else l.handlers⟩⟩
      | .error failure => ⟨.error failure, [], l⟩ := by
  obtain ⟨old, handlers⟩ := l
  unfold configure
  cases levelOf value with
  | error failure => rfl
  | ok level =>
    cases handlers with
    | nil => rfl
    | cons first rest => rfl

end Logger

/-- What a program does with the logger. -/
inductive Use
  /-- Set the level that a value stands for. -/
  | configure (value : Json)
  /-- Add the handler that keeps records, unless it is there. -/
  | capture
  /-- Add another handler that keeps records. -/
  | captureToo
  /-- Write a record at the time `stamp`: a call, how it ended, a failed exchange, or any other. -/
  | record (stamp : String) (r : Record)

/-- What a use does to the logger, and what it writes. -/
def Use.perform : Use → Action Logger Written
  | configure value => do
    Logger.configure value
    pure ⟨[], ""⟩
  | capture => do
    Action.modify Logger.capture
    pure ⟨[], ""⟩
  | captureToo => do
    Action.modify fun l => { l with handlers := l.handlers ++ [.capture] }
    pure ⟨[], ""⟩
  | record stamp r => do
    let l ← Action.get
    pure (l.emit stamp r)

namespace Logger

/-- The logger after some uses.  A program goes on after a name that was refused. -/
def after (l : Logger) (uses : List Use) : Logger := uses.foldl (fun l u => (u.perform l).world) l

/-- **What one use can do to the handlers**: nothing, or add one that keeps records, or add the one
for the error output to an empty list. -/
theorem handlers_perform (u : Use) (l : Logger) :
    (u.perform l).world.handlers = l.handlers ∨
      (u.perform l).world.handlers = l.handlers ++ [.capture] ∨
      l.handlers = [] ∧ (u.perform l).world.handlers = [.errorOutput] := by
  cases u with
  | configure value =>
    simp only [Use.perform, Action.bind_run, configure_run]
    cases levelOf value with
    | error failure => exact .inl rfl
    | ok level =>
      simp only [Action.pure_run]
      split
      · next hnil => exact .inr (.inr ⟨hnil, rfl⟩)
      · exact .inl rfl
  | capture =>
    simp only [Use.perform, Action.bind_run, Action.modify_run, Action.pure_run, capture]
    split
    · exact .inl rfl
    · exact .inr (.inl rfl)
  | captureToo => exact .inr (.inl rfl)
  | record stamp r => exact .inl rfl

/-- One use keeps a logger orderly. -/
theorem Orderly.perform {l : Logger} (h : l.Orderly) (u : Use) : (u.perform l).world.Orderly := by
  unfold Orderly at h ⊢
  rcases handlers_perform u l with hsame | hmore | ⟨-, hfirst⟩
  · rwa [hsame]
  · rw [hmore]
    cases hs : l.handlers with
    | nil => simp
    | cons first rest =>
      rw [hs] at h
      simpa using h
  · rw [hfirst]
    simp

theorem Orderly.after {l : Logger} (h : l.Orderly) (uses : List Use) : (l.after uses).Orderly := by
  induction uses generalizing l with
  | nil => exact h
  | cons u rest ih => exact ih (h.perform u)

/-- **The first handler decides**: once there is a handler, the one for the error output is there
for good or will never be. -/
theorem attached_after {l : Logger} (h : l.handlers ≠ []) (uses : List Use) :
    .errorOutput ∈ (l.after uses).handlers ↔ .errorOutput ∈ l.handlers := by
  induction uses generalizing l with
  | nil => exact Iff.rfl
  | cons u rest ih =>
    have hstep : (u.perform l).world.handlers ≠ [] ∧
        (.errorOutput ∈ (u.perform l).world.handlers ↔ .errorOutput ∈ l.handlers) := by
      rcases handlers_perform u l with hsame | hmore | ⟨hnil, -⟩
      · rw [hsame]
        exact ⟨h, Iff.rfl⟩
      · rw [hmore]
        simp
      · exact absurd hnil h
    exact (ih hstep.1).trans hstep.2

/-! ## 3. The logger of a program -/

/-- An orderly logger has at most one handler for the error output. -/
theorem Orderly.count_le_one {l : Logger} (h : l.Orderly) :
    l.handlers.count .errorOutput ≤ 1 := by
  unfold Orderly at h
  cases hs : l.handlers with
  | nil => simp
  | cons first rest =>
    rw [hs, List.tail_cons] at h
    rw [List.count_cons, List.count_eq_zero.mpr h]
    split <;> omega

/-- What holds of a logger wherever a program stands. -/
structure Sound (l : Logger) : Prop where
  /-- At most one handler writes on the error output. -/
  single : l.handlers.count .errorOutput ≤ 1
  /-- Once there is a handler, the one for the error output is there for good or will never be. -/
  decided : l.handlers ≠ [] → ∀ uses,
    .errorOutput ∈ (l.after uses).handlers ↔ .errorOutput ∈ l.handlers
  /-- A level that is refused leaves level and handlers as they are. -/
  refused : ∀ value failure, ((Use.configure value).perform l).result = .error failure →
    ((Use.configure value).perform l).world = l
  /-- A record is shown once or not at all, and as it should. -/
  shown : ∀ stamp r, ((Use.record stamp r).perform l).result = .ok (l.emit stamp r) ∧
    l.Shows stamp r

/-- **The logger of a program**: wherever a program stands that began with a fresh logger, at most
one handler writes on the error output, the first handler has decided whether there is one, a refused
level changes nothing, and a record is shown as it should. -/
theorem sound_fresh_after (uses : List Use) : (fresh.after uses).Sound := by
  have horderly : (fresh.after uses).Orderly := Orderly.after (by simp [Orderly, fresh]) uses
  refine ⟨horderly.count_le_one, attached_after, fun value failure hfailed => ?_,
    fun stamp r => ⟨rfl, horderly.shows stamp r⟩⟩
  simp only [Use.perform, Action.bind_run, configure_run] at hfailed ⊢
  cases hlevel : levelOf value with
  | error refused => rfl
  | ok level =>
    simp only [hlevel, Action.pure_run] at hfailed
    cases hfailed

/-- A program that adds its own handler first gets no line on the error output. -/
example : (fresh.after [.capture, .configure (.string "info"), .configure (.string "loud")]) =
    ⟨20, [.capture]⟩ := by decide +kernel

end Logger

end Workspace.Log
