import TrackedStorage.FileTree
import TrackedStorage.Upload

set_option autoImplicit false

namespace TrackedStorage

/-- The extension that a path gives to an upload: what follows the last dot of its last component,
cut to the width of the field. -/
def extensionOf (path : Bytes) : Bytes :=
  let name := match path.splitLast 47 with
    | some (_, name) => name
    | none => path
  match name.splitLast 46 with
  | some (_, extension) => extension.take Upload.extensionWidth
  | none => []

structure StagedFile where
  size : UInt64
  extension : Bytes
  source : Source
  deriving DecidableEq

inductive Accessor where
  /-- The local file system. -/
  | disk
  /-- A fixed set of files by their paths. -/
  | catalogue (files : List (Bytes × StagedFile))
  deriving DecidableEq

/-- Opens a regular file that is not empty. -/
def FileTree.stage (tree : FileTree) (path : Bytes) : Except Fault StagedFile :=
  match tree.find path with
  | .found _ (.file []) => .error (.transfer (.emptyFile path))
  | .found _ (.file content) =>
      .ok ⟨UInt64.ofNat content.length, extensionOf path, .ofContent content⟩
  | _ => .error (.transfer (.noSuchFile path))

def Accessor.stage (accessor : Accessor) (tree : FileTree) (path : Bytes) :
    Except Fault StagedFile :=
  match accessor with
  | disk => tree.stage path
  | catalogue files =>
      match files.lookup path with
      | some file => .ok file
      | none => .error (.transfer (.noSuchFile path))

end TrackedStorage
