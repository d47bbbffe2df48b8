/-
# JSON values

The remote service speaks JSON, and the values of a body are passed on without a fixed schema,
so they are a data type of their own.  Three points set it apart from a plain tree.

* An integer and a number with a fraction are different values: `1` is `int 1`, and `1.0` is a
  binary64 number.
* The members of an object have an order, which every output keeps.
* An object holds a key at most once: `put` replaces the value of a key in its place and appends
  a new key (`put_keys`).
-/
import Workspace.Number.Binary64
namespace Workspace

/-- A JSON value. -/
inductive Json
  | null
  | bool (b : Bool)
  | int (n : Int)
  | number (x : Binary64)
  | string (s : String)
  | array (items : List Json)
  | object (members : List (String × Json))
  deriving BEq, Repr, Inhabited

namespace Json

/-- The members of an object, in order. -/
abbrev Members := List (String × Json)

/-- The value of a key, if it is there. -/
def Members.get? (members : Members) (key : String) : Option Json := members.lookup key

/-- The members with the value of a key replaced in its place, or with the key appended. -/
def Members.put (members : Members) (key : String) (value : Json) : Members :=
  match members with
  | [] => [(key, value)]
  | (k, v) :: rest => if k = key then (key, value) :: rest else (k, v) :: put rest key value

/-- The members with each of `updates` put in turn. -/
def Members.putAll (members updates : Members) : Members :=
  updates.foldl (fun members entry => members.put entry.1 entry.2) members

/-- The keys, in order. -/
def Members.keys (members : Members) : List String := members.map Prod.fst

/-- The word for the type of a value in messages. -/
def typeName : Json → String
  | null => "NoneType"
  | bool _ => "bool"
  | int _ => "int"
  | number _ => "float"
  | string _ => "str"
  | array _ => "list"
  | object _ => "dict"

/-- A value counts as absent if it is null, false, a zero, or an empty text, array or object. -/
def isEmptyValue : Json → Bool
  | null => true
  | bool b => !b
  | int n => n == 0
  | number x => x.isZero
  | string s => s.isEmpty
  | array items => items.isEmpty
  | object members => members.isEmpty

/-- Putting a key keeps the keys that are there and appends a new one. -/
theorem put_keys (members : Members) (key : String) (value : Json) :
    (members.put key value).keys = if key ∈ members.keys then members.keys else
      members.keys ++ [key] := by
  induction members with
  | nil => simp [Members.put, Members.keys]
  | cons entry rest ih =>
    obtain ⟨k, v⟩ := entry
    by_cases h : k = key
    · simp [Members.put, Members.keys, h]
    · have h' : ¬key = k := fun e => h e.symm
      simp only [Members.keys] at ih
      simp only [Members.put, h, if_false, Members.keys, List.map_cons, List.mem_cons, h', false_or]
      rw [ih]
      split <;> simp [*]

end Json

end Workspace
