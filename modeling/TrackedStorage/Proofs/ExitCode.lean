import TrackedStorage.Program
import TrackedStorage.Proofs.Endings

set_option autoImplicit false

namespace TrackedStorage.Program

open Bytes (ofText)

/-- Arguments that are flags, each followed by its value, and then a command, which begins with
another word than a flag. -/
structure Spelled (arguments : List Bytes) (flags : List (Bytes × Bytes)) (command : List Bytes) :
    Prop where
  whole : arguments = flags.flatMap (fun pair => [pair.1, pair.2]) ++ command
  announced : ∀ pair ∈ flags, isSettingsFlag pair.1 = true
  begins : ∀ word ∈ command.head?, isSettingsFlag word = false

section
variable {path : Bytes} {arguments command : List Bytes} {flags : List (Bytes × Bytes)}
variable {options : Options}

theorem Spelled.cons {flag : Bytes} (isFlag : isSettingsFlag flag = true)
    (spelled : Spelled arguments flags command) (value : Bytes) :
    Spelled (flag :: value :: arguments) ((flag, value) :: flags) command := by
  refine ⟨?_, ?_, spelled.begins⟩
  · rw [spelled.whole]
    rfl
  · exact List.forall_mem_cons.mpr ⟨isFlag, spelled.announced⟩

theorem readFlags_of_begins (begins : ∀ word ∈ command.head?, isSettingsFlag word = false) :
    readFlags path command = .ok ⟨path, command⟩ := by
  match command with
  | [] => rfl
  | [word] => simp [readFlags, begins word rfl]
  | word :: next :: rest => simp [readFlags, begins word rfl]

/-- Of several flags the last one counts. -/
theorem readFlags_of_spelled (spelled : Spelled arguments flags command) (path : Bytes) :
    readFlags path arguments = .ok ⟨(flags.map Prod.snd).getLastD path, command⟩ := by
  induction flags generalizing arguments path with
  | nil =>
      rw [spelled.whole]
      exact readFlags_of_begins spelled.begins
  | cons pair rest ih =>
      obtain ⟨isFlag, others⟩ := List.forall_mem_cons.mp spelled.announced
      have later := ih ⟨rfl, others, spelled.begins⟩ pair.2
      rw [spelled.whole]
      simp only [List.flatMap_cons, List.cons_append, List.nil_append, readFlags, isFlag,
        ↓reduceIte, later, List.map_cons, List.getLastD_cons]

theorem spelled_of_readFlags (read : readFlags path arguments = .ok options) :
    ∃ flags, Spelled arguments flags options.command ∧
      options.settingsPath = (flags.map Prod.snd).getLastD path := by
  induction path, arguments using readFlags.induct with
  | case1 path =>
      cases read
      exact ⟨[], ⟨rfl, by simp, by simp⟩, rfl⟩
  | case2 path argument isFlag =>
      rw [readFlags, if_pos isFlag] at read
      cases read
  | case3 path argument isWord =>
      rw [readFlags, if_neg isWord] at read
      cases read
      exact ⟨[], ⟨rfl, by simp, by simpa using isWord⟩, rfl⟩
  | case4 path argument value rest isFlag ih =>
      rw [readFlags, if_pos isFlag] at read
      obtain ⟨flags, spelled, last⟩ := ih read
      refine ⟨(argument, value) :: flags, spelled.cons isFlag value, ?_⟩
      rw [last, List.map_cons, List.getLastD_cons]
  | case5 path argument value rest isWord =>
      rw [readFlags, if_neg isWord] at read
      cases read
      exact ⟨[], ⟨rfl, by simp, by simpa using isWord⟩, rfl⟩

/-- A command line is read if it is spelled as it should be, and names a file. -/
theorem ofArguments_eq_ok_iff :
    Options.ofArguments arguments = .ok options ↔
      ∃ flags, Spelled arguments flags options.command ∧
        (flags.map Prod.snd).getLast? = some options.settingsPath ∧ options.settingsPath ≠ [] := by
  have last (values : List Bytes) (named : options.settingsPath ≠ []) :
      options.settingsPath = values.getLastD [] ↔ values.getLast? = some options.settingsPath := by
    rw [List.getLastD_eq_getLast?]
    cases values.getLast? with
    | none => simpa using named
    | some value => simp [eq_comm]
  unfold Options.ofArguments
  constructor
  · intro accepted
    cases read : readFlags [] arguments with
    | error fault =>
        rw [read] at accepted
        cases accepted
    | ok other =>
        simp only [read] at accepted
        split at accepted
        · cases accepted
        · rename_i named
          cases accepted
          obtain ⟨flags, spelled, path⟩ := spelled_of_readFlags read
          exact ⟨flags, spelled, (last _ named).mp path, named⟩
  · rintro ⟨flags, spelled, path, named⟩
    rw [readFlags_of_spelled spelled, ← (last _ named).mpr path]
    exact if_neg named

end

/-- The file at a path holds settings with which a client can work and a log be kept. -/
structure Configured (logging : Logging) (files : FileTree) (path : Bytes) (settings : Settings) :
    Prop where
  readable : ∃ text, files.read? path = some text ∧ Settings.parse text = .ok settings
  valid : settings.validate = .ok ()
  logged : ∃ severity : Severity, settings.logLevel = severity.name ∧
    logging.openFile settings.logFile severity = .ok ()

theorem load_eq_ok_iff {files : FileTree} {path : Bytes} {settings : Settings} :
    Settings.load files path = .ok settings ↔
      (∃ text, files.read? path = some text ∧ Settings.parse text = .ok settings) ∧
        settings.validate = .ok () := by
  unfold Settings.load
  cases files.read? path with
  | none => simp
  | some text =>
      cases parsed : Settings.parse text with
      | error fault => simp [parsed, bind, Except.bind]
      | ok other =>
          cases valid : other.validate <;>
            simp only [bind, Except.bind, pure, Except.pure, parsed, valid] <;> grind

theorem insist_eq_ok_iff {α : Type} {result : Except Fault α} {value : α} {scene after : Scene} :
    insist result scene = .ok value after ↔ result = .ok value ∧ after = scene := by
  cases result <;> simp [insist, eq_comm]

theorem openLog_eq_ok_iff {logging : Logging} {settings : Settings} {severity : Severity}
    {scene after : Scene} :
    openLog logging settings severity scene = .ok () after ↔
      logging.openFile settings.logFile severity = .ok () ∧ after = scene := by
  unfold openLog
  cases logging.openFile settings.logFile severity <;> simp [eq_comm]

theorem bind_eq_ok_iff {α β : Type} {first : Startup α} {next : α → Startup β}
    {scene after : Scene} {value : β} :
    (first >>= next) scene = .ok value after ↔
      ∃ inner middle, first scene = .ok inner middle ∧ next inner middle = .ok value after := by
  simp only [bind, EStateM.bind]
  cases first scene with
  | ok inner middle =>
      refine ⟨fun done => ⟨inner, middle, rfl, done⟩, ?_⟩
      rintro ⟨_, _, ⟨⟩, done⟩
      exact done
  | error text middle => simp

theorem severity_eq_ok_iff {logging : Logging} (documented : logging.IsDocumented) {text : Bytes}
    {severity : Severity} :
    logging.severity text = .ok severity ↔ text = severity.name := by
  rw [← documented.named, Logging.severity]
  cases logging.level? text <;> simp

/-- There is a client if the settings are in order and a client can be made from them. -/
theorem start_eq_ok_iff {logging : Logging} (documented : logging.IsDocumented) {options : Options}
    {scene after : Scene} {world : World} :
    start logging options scene = .ok world after ↔
      after = scene ∧ ∃ settings, Configured logging scene.files options.settingsPath settings ∧
        World.create settings (.network (timeouts settings) scene.network) (some .disk)
          scene.files = .ok world := by
  constructor
  · intro started
    obtain ⟨_, _, ⟨⟩, loading⟩ := bind_eq_ok_iff.mp started
    obtain ⟨settings, _, loaded, naming⟩ := bind_eq_ok_iff.mp loading
    obtain ⟨parsed, rfl⟩ := insist_eq_ok_iff.mp loaded
    obtain ⟨severity, _, named, opening⟩ := bind_eq_ok_iff.mp naming
    obtain ⟨levelled, rfl⟩ := insist_eq_ok_iff.mp named
    obtain ⟨_, _, opened, making⟩ := bind_eq_ok_iff.mp opening
    obtain ⟨logged, rfl⟩ := openLog_eq_ok_iff.mp opened
    obtain ⟨_, _, ⟨⟩, made⟩ := bind_eq_ok_iff.mp making
    obtain ⟨created, rfl⟩ := insist_eq_ok_iff.mp made
    obtain ⟨readable, valid⟩ := load_eq_ok_iff.mp parsed
    exact ⟨rfl, settings, ⟨readable, valid, severity, (severity_eq_ok_iff documented).mp levelled,
      logged⟩, created⟩
  · rintro ⟨rfl, settings, ⟨readable, valid, severity, levelled, logged⟩, created⟩
    have loaded := load_eq_ok_iff.mpr ⟨readable, valid⟩
    have named := (severity_eq_ok_iff documented).mpr levelled
    refine bind_eq_ok_iff.mpr ⟨_, _, rfl, bind_eq_ok_iff.mpr ⟨settings, _,
      insist_eq_ok_iff.mpr ⟨loaded, rfl⟩, bind_eq_ok_iff.mpr ⟨severity, _,
      insist_eq_ok_iff.mpr ⟨named, rfl⟩, bind_eq_ok_iff.mpr ⟨(), _,
      openLog_eq_ok_iff.mpr ⟨logged, rfl⟩, bind_eq_ok_iff.mpr ⟨_, _, rfl,
      insist_eq_ok_iff.mpr ⟨created, rfl⟩⟩⟩⟩⟩⟩

/-- A step that leaves the scene as it is, and says why when it fails. -/
def Quiet {α : Type} (step : Startup α) : Prop :=
  ∀ scene, (∃ value, step scene = .ok value scene) ∨
    ∃ text, text ≠ [] ∧ step scene = .error text scene

theorem complaint_ne_nil (fault : Fault) : complaint fault ≠ [] := by
  rw [complaint, List.append_assoc]
  exact List.append_ne_nil_of_left_ne_nil (by decide) _

theorem quiet_get : Quiet (get : Startup Scene) := fun scene => .inl ⟨scene, rfl⟩

theorem quiet_insist {α : Type} (result : Except Fault α) : Quiet (insist result) := by
  intro scene
  cases result with
  | ok value => exact .inl ⟨value, rfl⟩
  | error fault => exact .inr ⟨_, complaint_ne_nil fault, rfl⟩

theorem quiet_openLog (logging : Logging) (settings : Settings) (severity : Severity) :
    Quiet (openLog logging settings severity) := by
  intro scene
  unfold openLog
  cases logging.openFile settings.logFile severity with
  | ok done => exact .inl ⟨(), rfl⟩
  | error fault => exact .inr ⟨_, List.append_ne_nil_of_right_ne_nil _ (complaint_ne_nil fault), rfl⟩

theorem quiet_bind {α β : Type} {first : Startup α} {next : α → Startup β} (earlier : Quiet first)
    (later : ∀ value, Quiet (next value)) : Quiet (first >>= next) := by
  intro scene
  rcases earlier scene with ⟨value, done⟩ | ⟨text, told, failed⟩
  · simp only [bind, EStateM.bind, done]
    exact later value scene
  · simp only [bind, EStateM.bind, failed]
    exact .inr ⟨text, told, rfl⟩

/-- Whether or not it gets to a client, a start changes no file, meets no peer and makes no link. -/
theorem quiet_start (logging : Logging) (options : Options) : Quiet (start logging options) := by
  refine quiet_bind quiet_get fun scene => ?_
  refine quiet_bind (quiet_insist _) fun settings => ?_
  refine quiet_bind (quiet_insist _) fun severity => ?_
  refine quiet_bind (quiet_openLog logging settings severity) fun _ => ?_
  exact quiet_bind quiet_get fun _ => quiet_insist _

/-- The program gets as far as a client, `world`, and is given a command, which may be empty. -/
def Launches (logging : Logging) (arguments : List Bytes) (scene : Scene) (command : List Bytes)
    (world : World) : Prop :=
  ∃ flags path settings, Spelled arguments flags command ∧
    (flags.map Prod.snd).getLast? = some path ∧ path ≠ [] ∧
    Configured logging scene.files path settings ∧
    World.create settings (.network (timeouts settings) scene.network) (some .disk) scene.files =
      .ok world

def asked (input : Bytes) (command : List Bytes) : List (List Bytes) :=
  if command = [] then Shell.commands (Shell.heeded input) else [command]

section
variable {logging : Logging} {arguments command : List Bytes} {scene : Scene} {world : World}

theorem launches_iff (documented : logging.IsDocumented) :
    Launches logging arguments scene command world ↔
      ∃ options, Options.ofArguments arguments = .ok options ∧ options.command = command ∧
        start logging options scene = .ok world scene := by
  constructor
  · rintro ⟨flags, path, settings, spelled, last, named, configured, created⟩
    exact ⟨⟨path, command⟩, ofArguments_eq_ok_iff.mpr ⟨flags, spelled, last, named⟩, rfl,
      (start_eq_ok_iff documented).mpr ⟨rfl, settings, configured, created⟩⟩
  · rintro ⟨options, accepted, rfl, started⟩
    obtain ⟨flags, spelled, last, named⟩ := ofArguments_eq_ok_iff.mp accepted
    obtain ⟨-, settings, configured, created⟩ := (start_eq_ok_iff documented).mp started
    exact ⟨flags, options.settingsPath, settings, spelled, last, named, configured, created⟩

/-- Up to there nothing is dialed, and no file is written. -/
theorem Launches.untouched (launches : Launches logging arguments scene command world) :
    (∃ timeouts, world.board = .ofDialer (.network timeouts scene.network)) ∧
      world.files = scene.files := by
  obtain ⟨flags, path, settings, -, -, -, -, created⟩ := launches
  unfold World.create at created
  cases made : Client.create settings (some (.network (timeouts settings) scene.network))
      (some .disk) with
  | error fault =>
      rw [made] at created
      cases created
  | ok client =>
      rw [made] at created
      cases created
      exact ⟨⟨timeouts settings, rfl⟩, rfl⟩

theorem UsageFault.message_ne_nil (fault : UsageFault) : fault.message ≠ [] := by
  cases fault with
  | missingValue flag =>
      rw [UsageFault.message, List.append_assoc]
      exact List.append_ne_nil_of_left_ne_nil (by decide) _
  | noSettings => decide

theorem any_isStuck_iff (board : Switchboard) :
    board.links.any Link.isStuck = true ↔ board.IsStuck := by
  rw [List.any_eq_true]
  constructor
  · rintro ⟨link, isIn, stuck⟩
    obtain ⟨id, isThere, rfl⟩ := List.getElem_of_mem isIn
    exact ⟨id, by rwa [Switchboard.link, List.getD_eq_getElem _ _ isThere]⟩
  · rintro ⟨id, stuck⟩
    rw [Switchboard.link, List.getD_eq_getElem?_getD] at stuck
    cases found : board.links[id]? with
    | none =>
        rw [found] at stuck
        cases stuck
    | some link =>
        rw [found] at stuck
        exact ⟨link, List.mem_of_getElem? found, stuck⟩

theorem scene_serve (input : Bytes) (world : World) (command : List Bytes) :
    (serve input world command).scene =
      .ofWorld (Shell.executeAll (asked input command) world) := by
  cases command with
  | nil =>
      have session := Shell.run_eq_runLines input world
      rw [Shell.runLines_eq fun words isIn => Shell.quits_of_mem_heeded isIn] at session
      simp only [serve, session, asked, ↓reduceIte]
  | cons word rest => rfl

theorem exitCode_serve (input : Bytes) (world : World) (command : List Bytes) :
    (serve input world command).exitCode =
      if command = [] ∨ (Shell.execute command world).1.isOk = true then 0 else 1 := by
  cases command with
  | nil => rfl
  | cons word rest => simp [serve]

/-- With a client the program serves its command. -/
theorem course_of_launches (documented : logging.IsDocumented)
    (launches : Launches logging (arguments.map Bytes.beforeNul) scene command world)
    (input : Bytes) : course logging arguments input scene = serve input world command := by
  obtain ⟨options, accepted, rfl, started⟩ := (launches_iff documented).mp launches
  simp only [course, accepted, started]

/-- Without a client it ends with a report, and with nothing done. -/
theorem course_of_not_launches (documented : logging.IsDocumented)
    (none : ∀ command world,
      ¬ Launches logging (arguments.map Bytes.beforeNul) scene command world) (input : Bytes) :
    ∃ errors, errors ≠ [] ∧ course logging arguments input scene = ⟨1, [], errors, scene⟩ := by
  unfold course
  cases accepted : Options.ofArguments (arguments.map Bytes.beforeNul) with
  | error fault =>
      exact ⟨_, List.append_ne_nil_of_left_ne_nil fault.message_ne_nil usage, rfl⟩
  | ok options =>
      rcases quiet_start logging options scene with ⟨world, started⟩ | ⟨text, told, failed⟩
      · exact absurd ((launches_iff documented).mpr ⟨options, accepted, rfl, started⟩) (none _ _)
      · exact ⟨text, told, by simp only [failed]⟩

/-- Whatever waits for ever does so for a peer that falls silent where no deadline is set. -/
theorem Launches.blocks {commands : List (List Bytes)}
    (launches : Launches logging arguments scene command world)
    (stuck : (Shell.executeAll commands world).board.IsStuck) :
    ∃ timeouts, world.board.dialer = .network timeouts scene.network ∧
      ∃ peer ∈ scene.network.peers, peer.Blocks timeouts := by
  obtain ⟨⟨timeouts, board⟩, -⟩ := launches.untouched
  refine ⟨timeouts, by rw [board]; rfl, ?_⟩
  by_contra none
  have prompt : world.board.IsPrompt timeouts := by
    rw [board]
    exact Switchboard.isPrompt_ofDialer fun peer isIn blocks => none ⟨peer, isIn, blocks⟩
  exact (Shell.isPrompt_executeAll prompt commands).not_isStuck stuck

end

section
variable {logging : Logging} {arguments command : List Bytes} {files : FileTree}
variable {network : Network} {world : World}

theorem launches_or_refused (documented : logging.IsDocumented) (input : Bytes) :
    (∃ command world,
      Launches logging (arguments.map Bytes.beforeNul) ⟨files, network, []⟩ command world) ∨
    ∃ errors, errors ≠ [] ∧ run logging arguments input files network =
      some ⟨1, [], errors, ⟨files, network, []⟩⟩ := by
  by_cases launched : ∃ command world,
      Launches logging (arguments.map Bytes.beforeNul) ⟨files, network, []⟩ command world
  · exact .inl launched
  · obtain ⟨errors, told, refused⟩ := course_of_not_launches documented
      (fun command world launches => launched ⟨command, world, launches⟩) input
    refine .inr ⟨errors, told, ?_⟩
    rw [run, refused]
    rfl

variable (documented : logging.IsDocumented)
variable (launches : Launches logging (arguments.map Bytes.beforeNul) ⟨files, network, []⟩ command
  world)
include documented launches

/-- With a client the program has an end if nothing waits for ever once all was executed. -/
theorem run_eq_none_iff (input : Bytes) : run logging arguments input files network = none ↔
    (Shell.executeAll (asked input command) world).board.IsStuck := by
  have links : (course logging arguments input ⟨files, network, []⟩).scene.links =
      (Shell.executeAll (asked input command) world).destroy.board.links := by
    rw [course_of_launches documented launches, scene_serve]
    rfl
  rw [run, links, ← World.isStuck_destroy_iff, ← any_isStuck_iff]
  simp

theorem outcome_eq_serve {input : Bytes} {outcome : Outcome}
    (ended : run logging arguments input files network = some outcome) :
    outcome = serve input world command := by
  rw [run, course_of_launches documented launches] at ended
  split at ended
  · cases ended
  · exact (Option.some.inj ended).symm

end

end TrackedStorage.Program
