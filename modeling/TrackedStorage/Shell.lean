import TrackedStorage.World

set_option autoImplicit false

namespace TrackedStorage.Shell

open Bytes (ofText)

def prompt : Bytes := ofText "FDFS_Shell> "

def newline : Bytes := [10]

def help : Bytes :=
  ofText "Available commands:\n" ++
  ofText "  help                           Display this help message\n" ++
  ofText "  upload <local_file>            Upload <local_file> and print its file id\n" ++
  ofText "  download <file_id> <local>     Download <file_id> into <local>\n" ++
  ofText "  quit                           Exit the FDFS shell\n\n"

def unknown : Bytes := ofText "Unknown command or invalid arguments\n"

/-- Whether a command succeeded, and what it put out. -/
structure Reply where
  isOk : Bool
  output : Bytes
  deriving DecidableEq

inductive Command where
  | upload (path : Bytes)
  | download (id path : Bytes)
  | help
  /-- No word at all. -/
  | empty
  | unknown
  deriving DecidableEq

def Command.ofWords : List Bytes → Command
  | [] => empty
  | [word] => if word = ofText "help" then help else unknown
  | [word, path] => if word = ofText "upload" then upload path else unknown
  | [word, id, path] => if word = ofText "download" then download id path else unknown
  | _ => unknown

def complaint (subject : Bytes) (fault : Fault) : Bytes :=
  subject ++ ofText ": " ++ fault.shown ++ newline

/-- Runs one command. A failed operation is reported, and never ends the shell. -/
def runCommand (command : Command) (world : World) : Reply × World :=
  match command with
  | .upload path =>
      match World.upload path world with
      | .ok id world => (⟨true, id.toBytes ++ newline⟩, world)
      | .error fault world => (⟨false, complaint (ofText "Error uploading file") fault⟩, world)
  | .download id path =>
      match World.download id path 0 0 world with
      | .ok () world =>
          (⟨true, ofText "Downloaded " ++ id ++ ofText " to " ++ path ++ newline⟩, world)
      | .error fault world => (⟨false, complaint (ofText "Error downloading file") fault⟩, world)
  | .help => (⟨true, help⟩, world)
  | .empty => (⟨false, help⟩, world)
  | .unknown => (⟨false, unknown⟩, world)

def execute (words : List Bytes) (world : World) : Reply × World :=
  runCommand (.ofWords words) world

/-- Runs lines of words until one begins with `quit`, and gives what is put out after the first
prompt. -/
def runLines : List (List Bytes) → World → Bytes × World
  | [], world => ([], world)
  | [] :: rest, world =>
      let (output, world) := runLines rest world
      (prompt ++ output, world)
  | words@(word :: _) :: rest, world =>
      if word = ofText "quit" then ([], world)
      else
        let (reply, world) := execute words world
        let (output, world) := runLines rest world
        (reply.output ++ prompt ++ output, world)

def run (input : Bytes) (world : World) : Bytes × World :=
  let (output, world) := runLines (input.lines.map Bytes.words) world
  (prompt ++ output, world)

end TrackedStorage.Shell
