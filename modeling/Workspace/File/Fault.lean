/-
# Faults of file access

What can go wrong when a file is opened or written, and the words for it.  A name that cannot be
opened is told along with the fault; a write that breaks off does not know the name any more.
-/
namespace Workspace.File

/-- Why a write breaks off, with the number and the words that the system has for it. -/
structure WriteFault where
  number : Nat
  words : String
  deriving DecidableEq, Repr

/-- The text of a write that breaks off. -/
def WriteFault.text (fault : WriteFault) : String :=
  "[Errno " ++ toString fault.number ++ "] " ++ fault.words

/-- A disk that is full. -/
def WriteFault.noSpace : WriteFault := ⟨28, "No space left on device"⟩

/-- Why a file cannot be opened, or not be written as a whole. -/
inductive Fault
  /-- No file or directory has the name. -/
  | missing
  /-- The name leads through something that is no directory. -/
  | notDirectory
  /-- The name is that of a directory. -/
  | isDirectory
  /-- The name, or a part of it, is longer than a file system allows. -/
  | nameTooLong
  /-- The file was opened, and writing it broke off. -/
  | interrupted (fault : WriteFault)
  deriving DecidableEq, Repr

/-- The message about a fault of the file with the given name. -/
def Fault.message (name : String) : Fault → String
  | missing => "No such file or directory: " ++ name
  | notDirectory => "Not a directory: " ++ name
  | isDirectory => "Is a directory: " ++ name
  | nameTooLong => "File name too long: " ++ name
  | interrupted fault => fault.text

end Workspace.File
