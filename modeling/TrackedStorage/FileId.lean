import TrackedStorage.Fault

set_option autoImplicit false

namespace TrackedStorage

/-- The group of storage nodes that keeps a file, and the file's name there. -/
structure FileId where
  group : Bytes
  filename : Bytes
  deriving DecidableEq

namespace FileId

def slash : UInt8 := 47

/-- How many bytes the name of a group may have. -/
def groupWidth : Nat := 16

def toBytes (id : FileId) : Bytes := id.group ++ slash :: id.filename

/-- Splits an identifier at its first slash, so that slashes may occur in the filename. -/
def parse (text : Bytes) : Except Fault FileId :=
  match text.splitFirst slash with
  | none => .error (.setting (.idWithoutSlash text))
  | some (group, filename) =>
      if group = [] ∨ filename = [] then .error (.setting (.idWithEmptyPart text))
      else if groupWidth < group.length then .error (.setting (.groupTooLong group))
      else .ok ⟨group, filename⟩

end FileId

end TrackedStorage
