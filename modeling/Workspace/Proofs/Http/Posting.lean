/-
# What is posted

The operations that change a workspace post their fields as a JSON object.  Each field is a text or a
truth value (`Json.IsFlat`), so nothing is left out, every number has digits, and the body reads back
as the very fields (`Payload.ofFields_of_flat`, `Payload.ofString_bodyOf`).
-/
import Workspace.Connection
import Workspace.Proofs.Exchange
import Workspace.Proofs.Json.Printing
namespace Workspace

/-! ## 1. Flat fields -/

namespace Json

/-- A text or a truth value. -/
inductive IsFlat : Json → Prop
  | string (s : String) : IsFlat (.string s)
  | bool (b : Bool) : IsFlat (.bool b)

variable {v : Json}

/-- A flat value has no parts, so what holds of it holds everywhere in it. -/
theorem IsFlat.everywhere (h : IsFlat v) {p : Json → Prop} (hv : p v) : v.Everywhere p := by
  cases h <;> exact .of_parts rfl hv

theorem everywhere_of_flat {fields : Members} (h : ∀ field ∈ fields, IsFlat field.2)
    {p : Json → Prop} (hobject : p (.object fields)) (hflat : ∀ v, IsFlat v → p v) :
    (object fields).Everywhere p := by
  refine .intro hobject fun w hw => ?_
  obtain ⟨field, hmem, rfl⟩ := List.mem_map.mp hw
  exact (h field hmem).everywhere (hflat _ (h field hmem))

theorem allFiniteItems_of_forall {items : List Json} (h : ∀ v ∈ items, v.allFinite = true) :
    allFiniteItems items = true := by
  induction items with
  | nil => rfl
  | cons v rest ih =>
    rw [allFiniteItems, h v List.mem_cons_self, ih fun w hw => h w (List.mem_cons_of_mem _ hw),
      Bool.and_self]

theorem allFiniteMembers_iff {members : Members} :
    allFiniteMembers members = true ↔ ∀ v ∈ members.map Prod.snd, v.allFinite = true := by
  induction members with
  | nil => simp [allFiniteMembers]
  | cons member rest ih =>
    rw [allFiniteMembers, Bool.and_eq_true, ih, List.map_cons, List.forall_mem_cons]

/-- A value without numbers is finite. -/
theorem allFinite_of_noNumber (h : v.Everywhere IsNoNumber) : v.allFinite = true := by
  induction h with
  | @intro v hv _ ih =>
    cases v with
    | number x => exact hv.elim
    | array items => exact allFiniteItems_of_forall ih
    | object members => exact allFiniteMembers_iff.mpr ih
    | _ => rfl

theorem isFlat_singleton (key s : String) : ∀ field ∈ [(key, string s)], IsFlat field.2 :=
  List.forall_mem_singleton.mpr (.string s)

theorem noNumber_of_flat {fields : Members} (h : ∀ field ∈ fields, IsFlat field.2) :
    (object fields).Everywhere IsNoNumber :=
  everywhere_of_flat h trivial fun v hv => by cases hv <;> trivial

end Json

/-! ## 2. Bodies -/

namespace Http

/-- Fields without a payload hold a number that JSON has no form for. -/
theorem Payload.eq_nonFiniteNumber {method : String} {fields : Json.Members} {failure : Failure}
    (h : ofFields method fields = .error failure) : failure = .nonFiniteNumber := by
  unfold ofFields at h
  split at h
  · cases h
  · split at h
    · cases h
    · exact (Except.error.inj h).symm

theorem presentFields_of_flat {fields : Json.Members} (h : ∀ field ∈ fields, field.2.IsFlat) :
    presentFields fields = fields := by
  refine List.filter_eq_self.mpr fun field hmem => ?_
  have hv := h field hmem
  obtain ⟨k, v⟩ := field
  cases hv <;> rfl

namespace Payload

/-- Fields without a number that JSON has no form for have a payload, whatever the method. -/
theorem exists_of_allFinite {fields : Json.Members} (h : (Json.object fields).allFinite = true)
    (method : String) : ∃ payload, ofFields method fields = .ok payload := by
  have hpresent : (Json.object (presentFields fields)).allFinite = true := by
    refine Json.allFiniteMembers_iff.mpr fun v hv => Json.allFiniteMembers_iff.mp h v ?_
    obtain ⟨field, hfield, rfl⟩ := List.mem_map.mp hv
    exact List.mem_map_of_mem (List.mem_of_mem_filter hfield)
  rw [ofFields]
  split
  · exact ⟨_, rfl⟩
  · rw [Json.compact?, if_pos hpresent]
    exact ⟨_, rfl⟩

/-- The text of the body for some fields. -/
def bodyOf (fields : Json.Members) : String := String.ofList (Json.object fields).compactChars

variable {fields : Json.Members}

theorem ofFields_of_flat (h : ∀ field ∈ fields, field.2.IsFlat) {method : String}
    (hm : method ≠ "GET") : ofFields method fields = .ok (body (bodyOf fields)) := by
  have hfinite : (Json.object fields).allFinite = true :=
    Json.allFinite_of_noNumber (Json.noNumber_of_flat h)
  rw [ofFields, if_neg hm, presentFields_of_flat h, Json.compact?, if_pos hfinite]
  rfl

/-- **The body reads back as the fields**, if they are flat and have distinct names. -/
theorem ofString_bodyOf (h : ∀ field ∈ fields, field.2.IsFlat) (hkeys : fields.keys.Nodup) :
    Json.ofString (bodyOf fields) = .ok (.object fields) := by
  have hlegible : (Json.object fields).Legible :=
    Json.everywhere_of_flat h hkeys fun v hv => by cases hv <;> trivial
  have hspells := hlegible.compact
  rw [Json.reread_eq_self (Json.noNumber_of_flat h)] at hspells
  exact hspells.ofString

end Payload

end Http

/-! ## 3. The requests that change a workspace -/

/-- The fields of an import are flat. -/
theorem ImportRequest.isFlat_of_mem (r : ImportRequest) {field : String × Json}
    (h : field ∈ r.toMembers) : field.2.IsFlat := by
  -- three fields are always there; language and format may be left out
  obtain ⟨path, content, language, format, overwrite⟩ := r
  rcases List.mem_append.mp h with h | hformat
  · rcases List.mem_append.mp h with hhead | hlanguage
    · simp only [List.mem_cons, List.not_mem_nil, or_false] at hhead
      rcases hhead with rfl | rfl | rfl <;> constructor
    · cases language with
      | none => cases hlanguage
      | some l =>
        rw [List.mem_singleton.mp hlanguage]
        constructor
  · cases format with
    | none => cases hformat
    | some f =>
      rw [List.mem_singleton.mp hformat]
      constructor

theorem DeleteRequest.isFlat_of_mem (r : DeleteRequest) {field : String × Json}
    (h : field ∈ r.toMembers) : field.2.IsFlat := by
  rcases List.mem_cons.mp h with rfl | h
  · exact .string r.path
  · rw [List.mem_singleton.mp h]
    exact .bool r.recursive

/-- The fields of an import have distinct names. -/
theorem ImportRequest.keys_nodup (r : ImportRequest) : r.toMembers.keys.Nodup := by
  obtain ⟨path, content, language, format, overwrite⟩ := r
  cases language <;> cases format <;> simp [toMembers, Json.Members.keys]

theorem ImportRequest.get?_content (r : ImportRequest) :
    r.toMembers.get? "content" = some (.string r.content) := rfl

end Workspace
