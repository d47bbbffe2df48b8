/-
# A tree of files

The command line reads one file and writes one file, so a small model of a file system is enough:
the directories and the files below the root, each under the list of the parts that lead to it,
and the working directory.

* `resolve` follows a name part by part and finds a file, a directory, a device or a place where a
  file can be made, or tells why the name leads nowhere; the first part that is wrong decides.
* `write` changes the file at a place and nothing else (`read?_write_of_ne`).
* `writeFile` opens the file that a name leads to, which empties it, and then fills it.  Filling may
  break off, if there is a `Barrier`; what was written by then stays (`writeFile_cases`).
-/
import Workspace.Bytes.Utf8
import Workspace.File.Fault
import Workspace.File.Name
namespace Workspace.File

/-- The parts that lead from the root to a file or a directory. -/
abbrev Place := List String

/-- What stands in the way of a write: it gets so many bytes far, and then breaks off. -/
structure Barrier where
  bytes : Nat
  fault : WriteFault
  deriving DecidableEq, Repr

/-- A tree of files. -/
structure Tree where
  workingDirectory : Place
  /-- The directories, apart from the root and the working directory. -/
  directories : List Place
  files : List (Place × Bytes)
  /-- The devices, which take every byte and keep none. -/
  devices : List Place
  /-- The barrier for writing to a file, if there is one. -/
  barrier : Option Barrier
  deriving DecidableEq, Repr

/-- What a name leads to. -/
inductive Target
  | directory (place : Place)
  | file (place : Place)
  | device (place : Place)
  /-- A place in a directory where there is nothing yet. -/
  | vacant (place : Place)
  deriving DecidableEq, Repr

/-- The longest part of a name, in bytes. -/
def maxPartLength : Nat := 255

/-- The longest name, in bytes. -/
def maxNameLength : Nat := 4095

namespace Tree

/-- Is there a directory at a place? -/
def hasDirectory (t : Tree) (place : Place) : Bool :=
  place.isEmpty || place.isPrefixOf t.workingDirectory || t.directories.contains place

/-- The bytes of the file at a place. -/
def read? (t : Tree) (place : Place) : Option Bytes := t.files.lookup place

/-- Follow the parts of a name from the directory `here`. -/
def follow (t : Tree) (here : Place) : List String → Except Fault Target
  | [] => .ok (.directory here)
  | part :: rest =>
    if part = ".." then follow t here.dropLast rest
    else if maxPartLength < part.utf8ByteSize then .error .nameTooLong
    else
      let next := here ++ [part]
      if t.hasDirectory next then follow t next rest
      else if t.devices.contains next then
        if rest.isEmpty then .ok (.device next) else .error .notDirectory
      else if (t.read? next).isSome then
        if rest.isEmpty then .ok (.file next) else .error .notDirectory
      else if rest.isEmpty then .ok (.vacant next)
      else .error .missing

/-- What a name leads to. -/
def resolve (t : Tree) (n : Name) : Except Fault Target :=
  if maxNameLength < n.spelling.utf8ByteSize then .error .nameTooLong
  else t.follow (if n.isAbsolute then [] else t.workingDirectory) n.parts

/-- The bytes of the file that a name leads to. -/
def readFile (t : Tree) (n : Name) : Except Fault Bytes :=
  match t.resolve n with
  | .error fault => .error fault
  | .ok (.directory _) => .error .isDirectory
  | .ok (.vacant _) => .error .missing
  | .ok (.device _) => .ok []
  | .ok (.file place) => (t.read? place).elim (.error .missing) .ok

/-- The files with the bytes of the file at a place replaced, or with a new file. -/
def put (files : List (Place × Bytes)) (place : Place) (bytes : Bytes) : List (Place × Bytes) :=
  match files with
  | [] => [(place, bytes)]
  | (p, b) :: rest => if p = place then (place, bytes) :: rest else (p, b) :: put rest place bytes

/-- The tree with the bytes of the file at a place replaced, or with a new file. -/
def write (t : Tree) (place : Place) (bytes : Bytes) : Tree :=
  { t with files := put t.files place bytes }

/-- Fill the file at a place, which is empty or new, up to the barrier if there is one. -/
def fill (t : Tree) (place : Place) (bytes : Bytes) : Except Fault Unit × Tree :=
  match t.barrier with
  | none => (.ok (), t.write place bytes)
  | some barrier =>
    if barrier.bytes < bytes.length then
      (.error (.interrupted barrier.fault), t.write place (bytes.take barrier.bytes))
    else (.ok (), t.write place bytes)

/-- Write bytes to the file that a name leads to. -/
def writeFile (t : Tree) (n : Name) (bytes : Bytes) : Except Fault Unit × Tree :=
  match t.resolve n with
  | .error fault => (.error fault, t)
  | .ok (.directory _) => (.error .isDirectory, t)
  | .ok (.device _) => (.ok (), t)
  | .ok (.file place) | .ok (.vacant place) => t.fill place bytes

/-! ## Trees from names -/

/-- The directories on the way to a place, the place itself included. -/
def ancestors (place : Place) : List Place :=
  (List.range place.length).map fun n => place.take (n + 1)

/-- The device that is always there. -/
def nullDevice : Place := ["dev", "null"]

/-- A tree with the given directories and files, named from the working directory. -/
def ofNames (workingDirectory : Place) (directories : List String)
    (files : List (String × Bytes)) : Tree :=
  let place (name : String) : Place := workingDirectory ++ (Name.ofString name).parts
  let files := files.map fun (name, bytes) => (place name, bytes)
  let parents := files.map fun entry => List.dropLast entry.1
  { workingDirectory
    directories :=
      ((nullDevice.dropLast :: directories.map place ++ parents).flatMap ancestors).eraseDups
    files
    devices := [nullDevice]
    barrier := none }

/-- The files below the working directory, named from there. -/
def localFiles (t : Tree) : List (String × Bytes) :=
  t.files.filterMap fun (place, bytes) =>
    if t.workingDirectory.isPrefixOf place then
      some ("/".intercalate (place.drop t.workingDirectory.length), bytes)
    else none

/-! ## What reading finds -/

/-- A file that was written holds the bytes. -/
theorem read?_write (t : Tree) (place : Place) (bytes : Bytes) :
    (t.write place bytes).read? place = some bytes := by
  simp only [read?, write]
  induction t.files with
  | nil => simp [put]
  | cons entry rest ih =>
    obtain ⟨p, b⟩ := entry
    by_cases h : p = place
    · simp [put, h]
    · have hb : (place == p) = false := beq_false_of_ne fun e => h e.symm
      simp [put, h, List.lookup_cons, hb, ih]

/-- Every other file is as before. -/
theorem read?_write_of_ne (t : Tree) {place other : Place} (bytes : Bytes) (h : other ≠ place) :
    (t.write place bytes).read? other = t.read? other := by
  have hb : (other == place) = false := beq_false_of_ne h
  simp only [read?, write]
  induction t.files with
  | nil => simp [put, List.lookup_cons, hb]
  | cons entry rest ih =>
    obtain ⟨p, b⟩ := entry
    by_cases hp : p = place
    · subst hp
      simp [put, List.lookup_cons, hb]
    · simp [put, hp, List.lookup_cons, ih]

/-- A name that leads to a file or a vacant place leads to the file that was written there. -/
theorem follow_write (t : Tree) {place : Place} (bytes : Bytes) {here : Place}
    {parts : List String}
    (h : t.follow here parts = .ok (.file place) ∨ t.follow here parts = .ok (.vacant place)) :
    (t.write place bytes).follow here parts = .ok (.file place) := by
  have hdirectory (p : Place) : (t.write place bytes).hasDirectory p = t.hasDirectory p := rfl
  have hdevices : (t.write place bytes).devices = t.devices := rfl
  induction parts generalizing here with
  | nil => simp [follow] at h
  | cons part rest ih =>
    rw [follow] at h ⊢
    by_cases hup : part = ".."
    · rw [if_pos hup] at h ⊢
      exact ih h
    · simp only [if_neg hup] at h ⊢
      by_cases hlong : maxPartLength < part.utf8ByteSize
      · simp [hlong] at h
      · simp only [if_neg hlong, hdirectory, hdevices] at h ⊢
        by_cases hnext : t.hasDirectory (here ++ [part]) = true
        · rw [if_pos hnext] at h ⊢
          exact ih h
        · rw [if_neg hnext] at h ⊢
          have hdevice : ¬ t.devices.contains (here ++ [part]) = true := by
            intro hdevice
            rw [if_pos hdevice] at h
            split at h <;> simp at h
          rw [if_neg hdevice] at h ⊢
          -- the name ends here, and the place is the one that was written
          have hend : rest.isEmpty = true ∧ here ++ [part] = place := by
            split at h
            · split at h
              · next hrest => simpa [hrest] using h
              · simp at h
            · split at h
              · next hrest => simpa [hrest] using h
              · simp at h
          obtain ⟨hrest, rfl⟩ := hend
          rw [read?_write]
          simp [hrest]

theorem resolve_write (t : Tree) {place : Place} (bytes : Bytes) {n : Name}
    (h : t.resolve n = .ok (.file place) ∨ t.resolve n = .ok (.vacant place)) :
    (t.write place bytes).resolve n = .ok (.file place) := by
  unfold resolve at h ⊢
  by_cases hlong : maxNameLength < n.spelling.utf8ByteSize
  · simp [hlong] at h
  · simp only [if_neg hlong] at h ⊢
    exact t.follow_write bytes h

/-- What was written to the place of a name is read under the name. -/
theorem readFile_write (t : Tree) {place : Place} (bytes : Bytes) {n : Name}
    (h : t.resolve n = .ok (.file place) ∨ t.resolve n = .ok (.vacant place)) :
    (t.write place bytes).readFile n = .ok bytes := by
  rw [readFile, t.resolve_write bytes h]
  simp [read?_write]

/-! ## How writing ends -/

/-- `t.Takes bytes`: no barrier stands in the way of the bytes. -/
def Takes (t : Tree) (bytes : Bytes) : Prop := ∀ barrier ∈ t.barrier, bytes.length ≤ barrier.bytes

theorem fill_of_takes {t : Tree} {bytes : Bytes} (h : t.Takes bytes) (place : Place) :
    t.fill place bytes = (.ok (), t.write place bytes) := by
  unfold fill
  split
  · rfl
  · next barrier hbarrier => rw [if_neg (Nat.not_lt.mpr (h barrier hbarrier))]

/-- **How a write can end.**  It does not begin, and the tree stays as it was; the bytes go to a
device, and the tree stays as it was; they go to a file as a whole; or they get as far as a
barrier. -/
theorem writeFile_cases (t : Tree) (n : Name) (bytes : Bytes) :
    (∃ fault, t.writeFile n bytes = (.error fault, t)) ∨
      (∃ place, t.resolve n = .ok (.device place) ∧ t.writeFile n bytes = (.ok (), t)) ∨
      ∃ place, (t.resolve n = .ok (.file place) ∨ t.resolve n = .ok (.vacant place)) ∧
        (t.writeFile n bytes = (.ok (), t.write place bytes) ∨
          ∃ barrier, t.barrier = some barrier ∧ barrier.bytes < bytes.length ∧
            t.writeFile n bytes =
              (.error (.interrupted barrier.fault), t.write place (bytes.take barrier.bytes))) := by
  -- a barrier cuts only what is longer than the space that is left
  have hfill (place : Place) : t.fill place bytes = (.ok (), t.write place bytes) ∨
      ∃ barrier, t.barrier = some barrier ∧ barrier.bytes < bytes.length ∧ t.fill place bytes =
        (.error (.interrupted barrier.fault), t.write place (bytes.take barrier.bytes)) := by
    unfold fill
    split
    · exact .inl rfl
    · next barrier hbarrier =>
      by_cases hshort : barrier.bytes < bytes.length
      · exact .inr ⟨barrier, hbarrier, hshort, if_pos hshort⟩
      · exact .inl (if_neg hshort)
  unfold writeFile
  split
  · exact .inl ⟨_, rfl⟩
  · exact .inl ⟨_, rfl⟩
  · next place hplace => exact .inr (.inl ⟨place, hplace, rfl⟩)
  · next place hplace => exact .inr (.inr ⟨place, .inl hplace, hfill place⟩)
  · next place hplace => exact .inr (.inr ⟨place, .inr hplace, hfill place⟩)

end Tree

end Workspace.File
