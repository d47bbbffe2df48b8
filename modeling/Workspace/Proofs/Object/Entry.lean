/-
# The values that are read as a status

A status is read from an object with a path and a type, both texts that are not empty, and with a
language and an id, if it has any, of their kinds.  `WellFormed isId` says so, for a given notion of
what is an id, and `Screened isId` says that a value is read if and only if it is well formed, and is
refused as a malformed body otherwise.

* Every value is screened with integers and truth values as ids (`ofJson_screened`).
* With integers alone as ids this is not so: a truth value is read (`not_forall_screened`).

What an entry must hold for there to be a status that says the same (`exists_describes_iff`) is found
field by field.
-/
import Workspace.Proofs.Object.Status
import Workspace.Proofs.Operations
namespace Workspace

namespace ObjectId

/-- The values that are integers. -/
inductive IsInteger : Json → Prop
  | int (n : Int) : IsInteger (.int n)

/-- The values that are integers or truth values. -/
inductive IsIntegerOrFlag : Json → Prop
  | int (n : Int) : IsIntegerOrFlag (.int n)
  | bool (b : Bool) : IsIntegerOrFlag (.bool b)

end ObjectId

namespace ObjectStatus

/-! ## 1. Well-formed values -/

/-- What an entry holds in the fields of a status, if `isId` tells the ids: a path and a type that are
texts and not empty, a language that is a text, and an id.  The last two may be missing or null. -/
structure Fields (isId : Json → Prop) (entry : Json.Members) : Prop where
  path : ∃ s, entry.get? "path" = some (.string s) ∧ s ≠ ""
  objectType : ∃ s, entry.get? "object_type" = some (.string s) ∧ s ≠ ""
  language : ∀ v, entry.get? "language" = some v → v = .null ∨ ∃ s, v = .string s
  objectId : ∀ v, entry.get? "object_id" = some v → v = .null ∨ isId v

/-- An object with the fields of a status. -/
def WellFormed (isId : Json → Prop) (v : Json) : Prop :=
  ∃ entry, v = .object entry ∧ Fields isId entry

/-- `Screened isId v`: the value is read as a status if and only if it is well formed; otherwise it is
a malformed body, and the error holds the value and nothing else besides its message. -/
structure Screened (isId : Json → Prop) (v : Json) : Prop where
  accepted : (∃ s, ofJson v = .ok s) ↔ WellFormed isId v
  refused : ¬ WellFormed isId v → ∃ message, ofJson v = .error (.malformed message v)

/-! ## 2. Field by field -/

variable {entry : Json.Members}

/-- What an entry says about its language is a text, if that field is a text or null. -/
theorem said?_language_iff :
    (∃ name : Option String, said? entry "language" = name.map Json.string) ↔
      ∀ v, entry.get? "language" = some v → v = .null ∨ ∃ s, v = .string s := by
  unfold said?
  cases entry.get? "language" with
  | none =>
    constructor
    · intro _ v hv
      cases hv
    · intro _
      exact ⟨none, rfl⟩
  | some v =>
    simp only [Option.some.injEq, forall_eq']
    constructor
    · rintro ⟨name, hname⟩
      cases v with
      | null => exact .inl rfl
      | string s => exact .inr ⟨s, rfl⟩
      | _ => cases name <;> simp [isSilent] at hname
    · rintro (rfl | ⟨s, rfl⟩)
      · exact ⟨none, rfl⟩
      · by_cases hs : s = ""
        · subst hs
          exact ⟨none, rfl⟩
        · exact ⟨some s, by simp [isSilent, hs]⟩

/-- What an entry says about its id is an id, if that field is an integer, a truth value or null. -/
theorem said?_objectId_iff :
    (∃ id : Option ObjectId, said? entry "object_id" = id.map ObjectId.toJson) ↔
      ∀ v, entry.get? "object_id" = some v → v = .null ∨ ObjectId.IsIntegerOrFlag v := by
  unfold said?
  cases entry.get? "object_id" with
  | none =>
    constructor
    · intro _ v hv
      cases hv
    · intro _
      exact ⟨none, rfl⟩
  | some v =>
    simp only [Option.some.injEq, forall_eq']
    constructor
    · rintro ⟨id, hid⟩
      cases v with
      | null => exact .inl rfl
      | int n => exact .inr (.int n)
      | bool b => exact .inr (.bool b)
      | _ => rcases id with _ | (n | b) <;> simp [isSilent, ObjectId.toJson] at hid
    · rintro (rfl | (n | b))
      · exact ⟨none, rfl⟩
      · exact ⟨some (.number n), rfl⟩
      · exact ⟨some (.flag b), rfl⟩

/-- **There is a status that says what an entry says** if and only if the entry has the fields of one. -/
theorem exists_describes_iff :
    (∃ s : ObjectStatus, s.Describes entry) ↔ Fields ObjectId.IsIntegerOrFlag entry := by
  -- path and type are required, so they say what they hold
  have hpath : said? entry "path" = entry.get? "path" := said?_eq_get? (by decide)
  have htype : said? entry "object_type" = entry.get? "object_type" := said?_eq_get? (by decide)
  constructor
  · rintro ⟨s, h⟩
    obtain ⟨name, hname, -, hof⟩ := h.objectType
    exact {
      path := ⟨s.path, hpath ▸ h.path.1, h.path.2⟩
      objectType := ⟨name, htype ▸ hname, ne_empty_of_objectType hof⟩
      language := said?_language_iff.mp ⟨_, h.rawLanguage⟩
      objectId := said?_objectId_iff.mp ⟨_, h.objectId⟩ }
  · rintro ⟨⟨path, hp, hne⟩, ⟨name, hname, hnamed⟩, hlanguage, hid⟩
    obtain ⟨t, ht⟩ := exists_objectType hnamed
    obtain ⟨rawLanguage, hraw⟩ := said?_language_iff.mpr hlanguage
    obtain ⟨id, hid⟩ := said?_objectId_iff.mpr hid
    exact ⟨⟨path, t, id, rawLanguage.bind Language.ofName?, some name, rawLanguage⟩,
      ⟨hpath ▸ hp, hne⟩, ⟨name, htype ▸ hname, rfl, ht⟩, hid, hraw, rfl⟩

/-! ## 3. The screening -/

/-- **Every value is read as a status or refused as a malformed body**, by whether it is an object with
the fields of a status; as its id an integer will do, or a truth value. -/
theorem ofJson_screened (v : Json) : Screened ObjectId.IsIntegerOrFlag v := by
  have haccepted : (∃ s, ofJson v = .ok s) ↔ WellFormed ObjectId.IsIntegerOrFlag v := by
    constructor
    · rintro ⟨s, hs⟩
      obtain ⟨entry, hv, hentry⟩ := ofJson_eq_ok_iff.mp hs
      exact ⟨entry, hv, exists_describes_iff.mp ⟨s, hentry⟩⟩
    · rintro ⟨entry, hv, hfields⟩
      obtain ⟨s, hs⟩ := exists_describes_iff.mpr hfields
      exact ⟨s, ofJson_eq_ok_iff.mpr ⟨entry, hv, hs⟩⟩
  refine ⟨haccepted, fun hnot => ?_⟩
  cases h : ofJson v with
  | ok s => exact absurd (haccepted.mp ⟨s, h⟩) hnot
  | error e =>
    obtain ⟨message, rfl⟩ := exists_malformed h
    exact ⟨message, rfl⟩

/-- Integers are not all that is read as an id: a truth value is read as well. -/
theorem not_forall_screened : ¬ ∀ v : Json, Screened ObjectId.IsInteger v := by
  intro h
  let entry : Json.Members :=
    [("path", .string "/a"), ("object_type", .string "NOTEBOOK"), ("object_id", .bool true)]
  obtain ⟨_, heq, hfields⟩ := (h (.object entry)).accepted.mp ⟨_, rfl⟩
  cases heq
  rcases hfields.objectId (.bool true) rfl with hnull | hinteger
  · cases hnull
  · cases hinteger

end ObjectStatus

end Workspace
