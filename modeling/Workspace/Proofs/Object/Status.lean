/-
# A status and its entry

A status is read from an entry of the service and written as an object again.  Nothing is lost on
the way but what an entry says in fields of its own: a status is written as the entry restricted to
the four fields of a status (`Describes.toMembers_eq`), with the names that the entry used, be they
listed or not, and the restriction is read as the same status (`Describes.restricted`).  A status that
was built from listed names alone is read back as well, up to the names it now knows
(`describes_built`).

* `restricted` is the restriction.  It leaves out an id that is null and a language that is null or
  empty, for these say nothing.
* `Describes` says what a status takes from an entry, and `ofJson_eq_ok_iff` that exactly the entries
  from which all of this can be taken are accepted.
-/
import Workspace.Object.Status
namespace Workspace

namespace ObjectStatus

/-! ## 1. What an entry says -/

/-- The fields of a status, in the order in which they are written. -/
def fields : List String := ["path", "object_type", "object_id", "language"]

/-- Does a value say nothing about its field?  A null id does not, and neither does a language that is
null or empty. -/
def isSilent (key : String) : Json → Bool
  | .null => key = "object_id" || key = "language"
  | .string s => key = "language" && s.isEmpty
  | _ => false

/-- What an entry says about a field, if it says anything. -/
def said? (entry : Json.Members) (key : String) : Option Json :=
  (entry.get? key).filter fun v => !isSilent key v

/-- What an entry says in the fields of a status, in their order. -/
def restricted (entry : Json.Members) : Json.Members :=
  fields.filterMap fun key => (said? entry key).map fun v => (key, v)

variable {entry : Json.Members}

/-- A lookup among values that stand under keys of a list. -/
theorem lookup_filterMap (value? : String → Option Json) (keys : List String) (key : String) :
    (keys.filterMap fun key => (value? key).map fun v => (key, v)).lookup key =
      if key ∈ keys then value? key else none := by
  induction keys with
  | nil => rfl
  | cons k rest ih =>
    by_cases hk : key = k
    · subst hk
      cases hv : value? key with
      | some v => simp [hv]
      | none => simp [hv, ih]
    · have hne : (key == k) = false := beq_false_of_ne hk
      cases hv : value? k with
      | some v => simp [hv, List.lookup_cons, hne, ih, hk]
      | none => simp [hv, ih, hk]

/-- **The restriction of an entry** gives for each field of a status what the entry says about it, and
nothing else. -/
theorem get?_restricted (entry : Json.Members) (key : String) :
    (restricted entry).get? key = if key ∈ fields then said? entry key else none :=
  lookup_filterMap (said? entry) fields key

theorem said?_restricted {key : String} (h : key ∈ fields) :
    said? (restricted entry) key = said? entry key := by
  unfold said?
  rw [get?_restricted, if_pos h, said?, Option.filter_filter]
  simp only [Bool.and_self]

/-- A text in a field other than the language says something. -/
theorem said?_eq_get? {key : String} (h : key ≠ "object_id" ∧ key ≠ "language") :
    said? entry key = entry.get? key := by
  have hall (v : Json) : isSilent key v = false := by
    cases v <;> simp [isSilent, h.1, h.2]
  unfold said?
  cases entry.get? key with
  | none => rfl
  | some v => simp [hall v]

/-! ## 2. What is read -/

/-- `s.Describes entry`: the status says what the entry says. -/
structure Describes (s : ObjectStatus) (entry : Json.Members) : Prop where
  path : said? entry "path" = some (.string s.path) ∧ s.path ≠ ""
  objectType : ∃ name, said? entry "object_type" = some (.string name) ∧ s.rawType = some name ∧
    ObjectType.ofName? name = some s.objectType
  objectId : said? entry "object_id" = s.objectId.map ObjectId.toJson
  rawLanguage : said? entry "language" = s.rawLanguage.map Json.string
  language : s.language = s.rawLanguage.bind Language.ofName?

/-- The text in a field is what the entry says there, unless it is empty. -/
theorem nonEmptyText?_eq_some_iff {key s : String} (h : key ≠ "object_id" ∧ key ≠ "language") :
    nonEmptyText? entry key = some s ↔ said? entry key = some (.string s) ∧ s ≠ "" := by
  rw [said?_eq_get? h, nonEmptyText?]
  cases entry.get? key with
  | none => simp
  | some v =>
    cases v with
    | string t =>
      by_cases ht : t = ""
      · subst ht
        simp
      · simp only [String.isEmpty_eq_false_iff.mpr ht, Bool.false_eq_true, if_false, Option.some.injEq,
          Json.string.injEq]
        exact ⟨fun hs => ⟨hs, hs ▸ ht⟩, And.left⟩
    | _ => simp

/-- The language of an entry is what the entry says about it, if that is a text. -/
theorem languageName?_eq_ok_iff {name : Option String} :
    languageName? entry = .ok name ↔ said? entry "language" = name.map Json.string := by
  unfold languageName? said?
  -- null and the empty name count as absent; nothing else but a name is accepted
  cases entry.get? "language" with
  | none => cases name <;> simp
  | some v =>
    cases v with
    | null => cases name <;> simp [isSilent]
    | string t =>
      by_cases ht : t = ""
      · subst ht
        cases name with
        | none => simp [isSilent]
        | some name => simp [isSilent]
      · have hsaid : isSilent "language" (.string t) = false := by
          simp [isSilent, String.isEmpty_eq_false_iff.mpr ht]
        simp only [String.isEmpty_eq_false_iff.mpr ht, Option.filter_some, hsaid]
        cases name <;> simp
    | _ => cases name <;> simp [isSilent]

/-- The id of an entry is what the entry says about it, if that is an id. -/
theorem idOf?_eq_ok_iff {id : Option ObjectId} :
    idOf? entry = .ok id ↔ said? entry "object_id" = id.map ObjectId.toJson := by
  unfold idOf? said?
  cases entry.get? "object_id" with
  | none => cases id <;> simp
  | some v =>
    rcases id with _ | (n | b) <;>
      cases v <;> simp [isSilent, ObjectId.ofJson?, ObjectId.toJson]

theorem exists_objectType {name : String} (h : name ≠ "") :
    ∃ t, ObjectType.ofName? name = some t := by
  simp [ObjectType.ofName?, String.isEmpty_eq_false_iff.mpr h]

/-- The empty name names no type. -/
theorem ne_empty_of_objectType {name : String} {t : ObjectType}
    (h : ObjectType.ofName? name = some t) : name ≠ "" := by
  rintro rfl
  simp [ObjectType.ofName?] at h

/-- **An entry is read as a status** exactly if it is an object and the status says what it says. -/
theorem ofJson_eq_ok_iff {v : Json} {s : ObjectStatus} :
    ofJson v = .ok s ↔ ∃ entry, v = .object entry ∧ s.Describes entry := by
  have hpath : "path" ≠ "object_id" ∧ "path" ≠ "language" := by decide
  have htype : "object_type" ≠ "object_id" ∧ "object_type" ≠ "language" := by decide
  constructor
  -- each check that passes gives one field of the status; the first that fails ends the reading
  · intro h
    unfold ofJson at h
    split at h
    · next entry =>
      split at h
      · cases h
      · next path hp =>
        split at h
        · cases h
        · next name ht =>
          split at h
          · cases h
          · next rawLanguage hl =>
            split at h
            · cases h
            · next objectId hid =>
              cases h
              obtain ⟨hname, hne⟩ := (nonEmptyText?_eq_some_iff htype).mp ht
              obtain ⟨t, hof⟩ := exists_objectType hne
              refine ⟨entry, rfl, (nonEmptyText?_eq_some_iff hpath).mp hp, ⟨name, hname, rfl, ?_⟩,
                idOf?_eq_ok_iff.mp hid, languageName?_eq_ok_iff.mp hl, rfl⟩
              rw [hof, Option.getD_some]
    · cases h
  · obtain ⟨path, objectType, objectId, language, rawType, rawLanguage⟩ := s
    rintro ⟨entry, rfl, hp, ⟨name, hname, rfl, hof⟩, hid, hl, hlanguage⟩
    simp only at hp hid hl hlanguage hof
    subst hlanguage
    have ht := (nonEmptyText?_eq_some_iff htype).mpr ⟨hname, ne_empty_of_objectType hof⟩
    unfold ofJson
    simp only [(nonEmptyText?_eq_some_iff hpath).mpr hp, ht, languageName?_eq_ok_iff.mpr hl,
      idOf?_eq_ok_iff.mpr hid, hof, Option.getD_some]

/-! ## 3. What is written -/

theorem nameOr_some {name : String} (h : name ≠ "") (listed : String) :
    nameOr (some name) listed = name := by
  simp [nameOr, String.isEmpty_eq_false_iff.mpr h]

namespace Describes

variable {s : ObjectStatus}

/-- A status has a language and a name of it that is not empty, or neither of them. -/
theorem language_cases (h : s.Describes entry) : s.language = none ∧ s.rawLanguage = none ∨
    ∃ l name, s.language = some l ∧ s.rawLanguage = some name ∧ name ≠ "" := by
  have hlanguage := h.language
  cases hname : s.rawLanguage with
  | none =>
    rw [hname] at hlanguage
    exact .inl ⟨hlanguage, rfl⟩
  | some name =>
    have hne : name ≠ "" := by
      rintro rfl
      have hsaid := h.rawLanguage
      rw [hname, said?, Option.map_some, Option.filter_eq_some_iff] at hsaid
      exact absurd hsaid.2 (by decide)
    rw [hname, Option.bind_some, Language.ofName?, String.isEmpty_eq_false_iff.mpr hne] at hlanguage
    exact .inr ⟨_, name, hlanguage, rfl, hne⟩

/-- **A status is written as the entry restricted to the fields of a status.** -/
theorem toMembers_eq (h : s.Describes entry) : s.toMembers = ObjectStatus.restricted entry := by
  obtain ⟨name, hname, hraw, hof⟩ := h.objectType
  have htype : nameOr s.rawType s.objectType.name = name := by
    rw [hraw, nameOr_some (ne_empty_of_objectType hof)]
  have hid := h.objectId
  have hl := h.rawLanguage
  unfold toMembers ObjectStatus.restricted fields
  rcases h.language_cases with ⟨hlanguage, hnone⟩ | ⟨l, raw, hlanguage, hsome, hne⟩
  · rw [hnone] at hl
    cases hobject : s.objectId <;> rw [hobject] at hid <;>
      simp [h.path.1, hname, htype, hid, hl, hlanguage]
  · rw [hsome] at hl
    cases hobject : s.objectId <;> rw [hobject] at hid <;>
      simp [h.path.1, hname, htype, hid, hl, hlanguage, hsome, nameOr_some hne]

/-- **The restriction of an entry is described by the same status.** -/
theorem restricted (h : s.Describes entry) : s.Describes (restricted entry) where
  path := by rw [said?_restricted (by decide)]; exact h.path
  objectType := by rw [said?_restricted (by decide)]; exact h.objectType
  objectId := by rw [said?_restricted (by decide)]; exact h.objectId
  rawLanguage := by rw [said?_restricted (by decide)]; exact h.rawLanguage
  language := h.language

end Describes

/-- **A status that was built without names** is described by what is written of it, once it knows the
names of its type and its language. -/
theorem describes_built {path : String} (hpath : path ≠ "") (objectType : ObjectType)
    (objectId : Option ObjectId) (language : Option Language) :
    Describes ⟨path, objectType, objectId, language, some objectType.name, language.map Language.name⟩
      (toMembers ⟨path, objectType, objectId, language, none, none⟩) where
  path := ⟨rfl, hpath⟩
  objectType := ⟨objectType.name, rfl, rfl, objectType.ofName?_name⟩
  objectId := by
    rcases objectId with _ | (n | b) <;> cases language <;> rfl
  rawLanguage := by
    rcases objectId with _ | id <;> rcases language with _ | l
    · rfl
    · cases l <;> rfl
    · rfl
    · cases l <;> rfl
  language := by
    cases language with
    | none => rfl
    | some l => exact l.ofName?_name.symm

/-! ## 4. There and back -/

theorem ofJson_toJson {v : Json} {s : ObjectStatus} (h : ofJson v = .ok s) :
    ofJson s.toJson = .ok s := by
  obtain ⟨entry, rfl, hentry⟩ := ofJson_eq_ok_iff.mp h
  refine ofJson_eq_ok_iff.mpr ⟨s.toMembers, rfl, ?_⟩
  rw [hentry.toMembers_eq]
  exact hentry.restricted

/-- **A status and its entry say the same.**

* A status that was read from an entry is written as the entry restricted to the fields of a status,
  and what is written is read as the very status, with the names that the entry used.
* A status that was built from a path and listed names is written and read as the same status. -/
theorem round_trip :
    (∀ (v : Json) (s : ObjectStatus), ofJson v = .ok s →
      ∃ entry, v = .object entry ∧ s.toMembers = restricted entry ∧ ofJson s.toJson = .ok s) ∧
    ∀ (path : String) (objectType : ObjectType) (objectId : Option ObjectId)
      (language : Option Language), path ≠ "" →
      ∃ s, ofJson (toJson ⟨path, objectType, objectId, language, none, none⟩) = .ok s ∧
        s.same ⟨path, objectType, objectId, language, none, none⟩ = true := by
  constructor
  · intro v s hs
    obtain ⟨entry, rfl, hentry⟩ := ofJson_eq_ok_iff.mp hs
    exact ⟨entry, rfl, hentry.toMembers_eq, ofJson_toJson hs⟩
  · intro path objectType objectId language hpath
    refine ⟨_, ofJson_eq_ok_iff.mpr ⟨_, rfl, describes_built hpath objectType objectId language⟩, ?_⟩
    simp [same]

/-- A dashboard in COBOL, whose entry has its fields in another order, a null id and a field of its
own; and a directory with a truth value for its id. -/
theorem round_trip_dashboard :
    let entry : Json.Members := [("language", .string "COBOL"), ("owner", .array []),
      ("object_type", .string "DASHBOARD"), ("object_id", .null), ("path", .string "/d")]
    ∃ s, ofJson (.object entry) = .ok s ∧ s.objectType = .unknown ∧ s.language = some .unknown ∧
      s.toMembers = [("path", .string "/d"), ("object_type", .string "DASHBOARD"),
        ("language", .string "COBOL")] ∧
      ofJson s.toJson = .ok s ∧
      ∃ s', ofJson (toJson ⟨"/e", .directory, some (.flag true), none, none, none⟩) = .ok s' ∧
        s'.same ⟨"/e", .directory, some (.flag true), none, none, none⟩ = true := by
  intro entry
  obtain ⟨s, hs⟩ : ∃ s, ofJson (.object entry) = .ok s := ⟨_, rfl⟩
  obtain ⟨_, heq, hmembers, hback⟩ := round_trip.1 _ _ hs
  cases heq
  cases hs
  exact ⟨_, rfl, rfl, rfl, hmembers, hback, round_trip.2 "/e" .directory _ none (by decide)⟩

end ObjectStatus

end Workspace
