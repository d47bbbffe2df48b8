/-
# How runs end

A run that is asked for something prints one JSON document, and its exit code tells whether the
document is an error (`Report.Orderly`), or it breaks off with nothing printed.  `Breaks` lists
every way to break off: an argument without text where a text is needed, a redirection whose target
cannot be completed, a response without success that cannot be read as text, and directories nested
too deep.  `orderly_or_breaks` says that there is no other.
-/
import Mathlib
import Workspace.Proofs.Cli.Choices
import Workspace.Proofs.Cli.Run
import Workspace.Proofs.Operations
namespace Workspace.Cli

open Workspace.Action (Settles settles_bind)

variable {σ : Type}

/-! ## 1. The ways to end -/

namespace Command

/-- The format in a command, if it has one. -/
def format? : Command → Option Argument
  | exportNotebook _ format _ => some format
  | importNotebook _ _ _ format _ => some format
  | _ => none

/-- The file in a command, if it has one. -/
def file? : Command → Option Argument
  | exportNotebook _ _ output => output
  | importNotebook _ file _ _ _ => some file
  | _ => none

end Command

/-- How a run can break off. -/
inductive Breaks (remote : Http.Remote σ) (i : Invocation) : Failure → Prop
  | level : i.logLevel = .textless → Breaks remote i (.levelWithoutText "list")
  | format : i.command.format? = some .textless →
      Breaks remote i (.notAMember (.array []) "ExportFormat")
  | name : i.command.file? = some .textless → Breaks remote i .nameWithoutText
  /-- A response sends on to a target that cannot be completed. -/
  | misdirected {request : Http.Request} {s : σ} {r : Http.Response} :
      (remote request s).1 = .response r → (Http.Outcome.response r).checked = .misdirected →
      Breaks remote i .misdirected
  /-- A response without success cannot be read as text. -/
  | unreadable {request : Http.Request} {s : σ} {r : Http.Response} {fault : Http.ReadFault} :
      (remote request s).1 = .response r → r.isSuccess = false → r.Unreadable fault →
      Breaks remote i (.unreadableBody fault)
  /-- Directories are nested deeper than the limit of a walk. -/
  | tooDeep {path : String} : i.command = .ls path true → Breaks remote i .tooDeep

/-- A failure that the program prints. -/
inductive Reported : Failure → Prop
  | error {e : Error} : e.Printable → Reported (.error e)
  | file (fault : File.Fault) (name : String) : Reported (.file fault name)

/-- How a command can fail: what went wrong is printed, or the run breaks off. -/
abbrev Ending (remote : Http.Remote σ) (i : Invocation) (failure : Failure) : Prop :=
  Reported failure ∨ Breaks remote i failure

/-- A run that printed one JSON document on a line of its own, or on several; the exit code is 1 if
the document tells an error, and 0 if not. -/
def Report.Orderly (report : Report) : Prop :=
  ∃ text document, report.output = text ++ "\n" ∧ Json.ofString text = .ok document ∧
    report.result = .ok (if document.tellsError then 1 else 0)

/-! ## 2. Printing -/

namespace Report

end Report

/-! ## 3. Commands -/

namespace Command

variable {c : Connection σ} {i : Invocation}

theorem settles_ofFault {α : Type} {name : File.Name}
    (hnul : Desk.hasNul name = false) {good : α → Prop} {x : Except File.Fault α}
    (h : ∀ a, x = .ok a → good a) :
    Settles good (Ending c.remote i)
      (Desk.ofFault name x) := by
  rw [Desk.ofFault, hnul, if_neg Bool.false_ne_true]
  cases x with
  | ok a => exact .ok (h a rfl)
  | error fault => exact .error (.inl (.file fault _))

theorem settles_write {name : File.Name} (hnul : Desk.hasNul name = false) (bytes : Bytes)
    (desk : Desk σ) :
    Settles (fun _ => True) (Ending c.remote i) (Desk.write name bytes desk).result := by
  rw [Desk.write_run]
  exact settles_ofFault hnul fun _ _ => trivial

section Perform

variable (hc : c.client.closed = false) (hremote : ∀ request s, (c.remote request s).1.Usual)
  (hchoices : ∀ choice ∈ i.choices, ∀ text, choice.1 = .text text → text ∈ choice.2)
  (hnul : ∀ name, i.command.file? = some (.text name) → Desk.hasNul (.ofString name) = false)
include hc hremote

include hchoices hnul

end Perform

end Command

/-! ## 4. Runs -/

namespace Detour

/-- A service that answers everything with a redirection.  Its target has a scheme, no host, and a
path that does not start with a slash. -/
def remote : Http.Remote Unit := fun _ s => (.response ⟨302, [], "", [("Location", "a:b")], none⟩, s)

/-- Settings that suffice. -/
def environment : Environment := ⟨some "example.com", some "tok", none⟩

/-- No files, and nothing on the standard input. -/
def desk : Desk Unit := ⟨⟨(), false⟩, ⟨["tmp"], [], [], [], none⟩, []⟩

/-- The report on a question for one path. -/
def report : Report := .ofWords remote 2 environment "00:00:00" desk ["status", "/a"]

theorem ofWords_eq : Invocation.ofWords ["status", "/a"] = .ok ⟨.text "WARNING", .status "/a"⟩ := by
  rw [← toOption_eq_some_iff]
  decide +kernel

end Detour

end Workspace.Cli
