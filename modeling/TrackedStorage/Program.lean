import TrackedStorage.Logging
import TrackedStorage.Shell

set_option autoImplicit false

namespace TrackedStorage.Program

open Bytes (ofText)

def usage : Bytes :=
  ofText "Usage: fdfs_client -c <client.conf> [command]\n" ++
  ofText "Required arguments:\n" ++
  ofText "  -c, --config  Client configuration file\n" ++
  ofText "Commands (interactive shell when omitted):\n" ++
  ofText "  upload <local_file>\n" ++
  ofText "  download <file_id> <local_file>\n" ++
  ofText "Example: fdfs_client -c /etc/fdfs/client.conf upload photo.jpg\n"

structure Options where
  settingsPath : Bytes
  command : List Bytes
  deriving DecidableEq

inductive UsageFault where
  | missingValue (flag : Bytes)
  | noSettings
  deriving DecidableEq

def UsageFault.message : UsageFault → Bytes
  | missingValue flag => ofText "Error: Missing value for " ++ flag ++ ofText "\n"
  | noSettings => ofText "Error: A config file is required\n"

/-- Whether an argument announces the path of the settings. -/
def isSettingsFlag (argument : Bytes) : Bool :=
  argument == ofText "-c" || argument == ofText "--config"

/-- Reads flags with their values, the last of which counts. The command begins with the first
argument that is no flag. -/
def readFlags (path : Bytes) : List Bytes → Except UsageFault Options
  | [] => .ok ⟨path, []⟩
  | [argument] =>
      if isSettingsFlag argument then .error (.missingValue argument) else .ok ⟨path, [argument]⟩
  | argument :: value :: rest =>
      if isSettingsFlag argument then readFlags value rest
      else .ok ⟨path, argument :: value :: rest⟩

/-- Reads a command line, which must name a file of settings. -/
def Options.ofArguments (arguments : List Bytes) : Except UsageFault Options :=
  match readFlags [] arguments with
  | .error fault => .error fault
  | .ok options => if options.settingsPath = [] then .error .noSettings else .ok options

structure Scene where
  files : FileTree
  /-- The peers that are still to be met. -/
  network : Network
  /-- The links to all peers that were met, in order. -/
  links : List Link
  deriving DecidableEq

/-- What a client leaves behind when it is gone. -/
def Scene.ofWorld (world : World) : Scene :=
  let world := world.destroy
  let network := match world.board.dialer with
    | .script _ => []
    | .network _ network => network
  ⟨world.files, network, world.board.links⟩

/-- How the program ends, and what it leaves behind. -/
structure Outcome where
  exitCode : UInt8
  output : Bytes
  errors : Bytes
  scene : Scene
  deriving DecidableEq

def milliseconds (seconds : Nat) : Nat := seconds * 1000

def timeouts (settings : Settings) : Timeouts :=
  ⟨milliseconds settings.connectTimeout, milliseconds settings.networkTimeout⟩

def complaint (fault : Fault) : Bytes := ofText "Error: " ++ fault.shown ++ ofText "\n"

/-- A step before there is a client. When it fails it gives what is said of that. -/
abbrev Startup (α : Type) := EStateM Bytes Scene α

def insist {α : Type} (result : Except Fault α) : Startup α := fun scene =>
  match result with
  | .ok value => .ok value scene
  | .error fault => .error (complaint fault) scene

/-- Opens the log. Where that fails it is said twice. -/
def openLog (logging : Logging) (settings : Settings) (severity : Severity) : Startup Unit :=
  fun scene =>
    match logging.openFile settings.logFile severity with
    | .ok () => .ok () scene
    | .error fault =>
        .error (ofText "Failed to initialize logging: " ++ fault.shown ++ ofText "\n" ++
          complaint fault) scene

def start (logging : Logging) (options : Options) : Startup World := do
  let scene ← get
  let settings ← insist (Settings.load scene.files options.settingsPath)
  let severity ← insist (logging.severity settings.logLevel)
  openLog logging settings severity
  let scene ← get
  let dialer : Dialer := .network (timeouts settings) scene.network
  insist (World.create settings dialer (some .disk) scene.files)

/-- Serves one command, or the commands of its input if it is given none. -/
def serve (input : Bytes) (world : World) : List Bytes → Outcome
  | [] =>
      let (output, world) := Shell.run input world
      ⟨0, output, [], .ofWorld world⟩
  | command =>
      let (reply, world) := Shell.execute command world
      ⟨if reply.isOk then 0 else 1, reply.output, [], .ofWorld world⟩

/-- The course of the program, as if every wait had an end. An argument ends at its first NUL. -/
def course (logging : Logging) (arguments : List Bytes) (input : Bytes) (scene : Scene) : Outcome :=
  match Options.ofArguments (arguments.map Bytes.beforeNul) with
  | .error fault => ⟨1, [], fault.message ++ usage, scene⟩
  | .ok options =>
      match start logging options scene with
      | .error text scene => ⟨1, [], text, scene⟩
      | .ok world _ => serve input world options.command

/-- Runs the program. It has no end if something waits for ever in its course. -/
def run (logging : Logging) (arguments : List Bytes) (input : Bytes) (files : FileTree)
    (network : Network) : Option Outcome :=
  let outcome := course logging arguments input ⟨files, network, []⟩
  if outcome.scene.links.any Link.isStuck then none else some outcome

end TrackedStorage.Program
