/-
# Where client and daemon meet

The client and the daemon look for the sessions directory each on its own, by what its command line
says and by the variables. Told the same, they come to the same directory, except where the
subdirectory is said to be empty. To the client that says nothing, and neither does it to the daemon
while it reads the environment. But the daemon then lays what is said over what it read, the empty
name as well, and works in the mount itself.
-/

import FileChat.CommandLine.Client
import FileChat.Proofs.CommandLine.Precedence
import FileChat.Proofs.Files.Path

namespace FileChat.CommandLine

variable {fs : FileSystem} {env : Environment} {arguments daemonArguments : List String}
variable {invocation : Invocation} {config base : Config}

/-- The options on the client's command line. Those after the command come first. -/
def clientOptions (arguments : List String) : Except Refusal Given := do
  let (outer, rest) ← outerLevel.read .empty arguments
  let (inner, _) ← innerLevel.read .empty rest.arguments.tail
  return (← inner.settle) ++ (← outer.settle)

/-- What the client's command line gives for an option. -/
def clientOption? (arguments : List String) (flag : Flag) : Option String :=
  (clientOptions arguments).toOption.bind fun given => given.lookup flag.name

/-- What the daemon's command line gives for an option. -/
def daemonOption? (arguments : List String) (flag : Flag) : Option String :=
  (daemonOptions arguments).toOption.bind fun given => given.lookup flag.name

/-- Both command lines give the same for the mount and for the subdirectory, and the client's does
not give the sessions directory outright. -/
structure Alike (arguments daemonArguments : List String) : Prop where
  mount : clientOption? arguments mountFlag = daemonOption? daemonArguments mountFlag
  subdirectory :
    clientOption? arguments subdirectoryFlag = daemonOption? daemonArguments subdirectoryFlag
  unnamed : clientOption? arguments directoryFlag = none

/-- What is said of the mount, by the option or else by the variable. -/
def saidMount (env : Environment) (arguments : List String) : Option String :=
  (daemonOption? arguments mountFlag).or (env Setting.mount.key)

/-- What is said of the subdirectory, by the option or else by the variable. -/
def saidSubdirectory (env : Environment) (arguments : List String) : Option String :=
  (daemonOption? arguments subdirectoryFlag).or (env Setting.subdirectory.key)

/-- What a command line that was understood has made of its options. -/
theorem exists_options_of_ofArguments
    (hclient : Invocation.ofArguments env arguments = .ok invocation) :
    ∃ inner before more, clientOptions arguments = .ok (inner ++ before) ∧
      innerLevel.standIns env inner = .ok more ∧
      invocation.directory = directoryOf fun flag =>
        inner.lookup flag.name <|> before.lookup flag.name <|> more.lookup flag.name := by
  simp only [Invocation.ofArguments, bind_eq_ok] at hclient
  obtain ⟨⟨outer, ⟨_ | ⟨name, later⟩, separated⟩⟩, houter, hcommand⟩ := hclient
  · cases hcommand
  cases separated with
  | true => cases hcommand
  | false =>
      dsimp only at hcommand
      split at hcommand
      · cases hcommand
      · split at hcommand
        · cases hcommand
        · simp only [readCommand, bind_eq_ok, pure_eq_ok] at hcommand
          obtain ⟨⟨reading, words⟩, hreading, inner, hinner, more, hmore, errand, -, before,
            hbefore, -, -, rfl⟩ := hcommand
          refine ⟨inner, before, more, ?_, hmore, rfl⟩
          simp only [clientOptions, houter, List.tail_cons, hreading, ok_bind, hinner, hbefore]
          rfl

/-- The client goes by the options, wherever they stand, and then by the variables. The variables
stand in for what is not given behind the command, which is as good as for what is not given at all,
since they come last. -/
theorem directory_of_ofArguments
    (hclient : Invocation.ofArguments env arguments = .ok invocation)
    (hunnamed : clientOption? arguments directoryFlag = none) :
    invocation.directory = Client.resolveDirectory
      ((clientOption? arguments mountFlag).or (env Setting.mount.key))
      ((clientOption? arguments subdirectoryFlag).or (env Setting.subdirectory.key)) := by
  obtain ⟨inner, before, more, hoptions, hmore, hdirectory⟩ := exists_options_of_ofArguments hclient
  have hvalue (flag : Flag) (hflag : flag ∈ innerLevel.flags) :
      (inner.lookup flag.name <|> before.lookup flag.name <|> more.lookup flag.name) =
        (clientOption? arguments flag).or (flag.key.bind env) := by
    have hstood := Level.lookup_append_standIns (by decide) hmore hflag
    rw [List.lookup_append] at hstood
    rw [clientOption?, hoptions, Except.toOption, Option.bind_some, List.lookup_append]
    cases hinner : inner.lookup flag.name with
    | some value => rfl
    | none =>
        rw [hinner, Option.none_or, Option.none_or] at hstood
        rw [hstood]
        cases before.lookup flag.name <;> rfl
  have hnamed := hvalue directoryFlag (by simp [innerLevel, sharedFlags])
  rw [hunnamed] at hnamed
  rw [hdirectory, directoryOf, hnamed, hvalue mountFlag (by simp [innerLevel, sharedFlags]),
    hvalue subdirectoryFlag (by simp [innerLevel, sharedFlags])]
  rfl

/-- What comes of laying options over a configuration, as far as the place and the limits go. -/
theorem overlay_eq_ok {said : Setting → Option String} (hoverlay : overlay said base = .ok config) :
    config.mount = (said .mount).getD base.mount ∧
      config.subdirectory = (said .subdirectory).getD base.subdirectory ∧
      config.queueCapacity = base.queueCapacity ∧ config.mountWait = base.mountWait := by
  unfold overlay at hoverlay
  split at hoverlay <;>
    (simp only [bind_eq_ok, pure_eq_ok] at hoverlay
     obtain ⟨backend, -, rfl⟩ := hoverlay
     exact ⟨rfl, rfl, rfl, rfl⟩)

theorem loadConfig_eq_ok (hdaemon : loadConfig fs env daemonArguments = .ok config) :
    ∃ given more, daemonOptions daemonArguments = .ok given ∧
      daemonLevel.standIns env given = .ok more ∧
      overlay (given ++ more).value? (Config.asSaid env) = .ok config ∧
      config.check fs = .ok () := by
  simp only [loadConfig, configure, bind_eq_ok, mapError_eq_ok, pure_eq_ok, Given.ofArguments_eq]
    at hdaemon
  obtain ⟨_, ⟨said, ⟨given, hgiven, more, hmore, rfl⟩, held, hheld, hoverlay⟩, ⟨⟩, hcheck, rfl⟩ :=
    hdaemon
  refine ⟨given, more, hgiven, hmore, ?_, hcheck⟩
  rw [Config.ofEnvironment_eq] at hheld
  cases hfault : Config.firstFault? env with
  | some cause =>
      rw [hfault] at hheld
      cases hheld
  | none =>
      rw [hfault] at hheld
      rwa [Except.ok.inj hheld]

/-- The daemon goes by the options and then by the variables, too, and leaves nothing out that is
said. Where nothing is said there is no variable either, and the standard was read. It has checked
that the mount is not empty. -/
theorem place_of_loadConfig (hdaemon : loadConfig fs env daemonArguments = .ok config) :
    config.mount = (saidMount env daemonArguments).getD Client.defaultMount ∧
      config.subdirectory =
        (saidSubdirectory env daemonArguments).getD Client.defaultSubdirectory ∧
      config.mount ≠ "" := by
  obtain ⟨given, more, hgiven, hmore, hoverlay, hcheck⟩ := loadConfig_eq_ok hdaemon
  have hsaid (option : Setting × String) (hoption : option ∈ settingOptions) :
      Given.value? (given ++ more) option.1 =
        (daemonOption? daemonArguments (settingFlag option)).or (env option.1.key) := by
    have hflag : settingFlag option ∈ daemonLevel.flags := List.mem_map_of_mem hoption
    rw [Given.value?, lookup_of_mem_settingOptions option hoption, Option.bind_some, daemonOption?,
      hgiven]
    exact Level.lookup_append_standIns (by decide) hmore hflag
  have hheld {said : Option String} (setting : Setting) (otherwise : String) :
      (said.or (env setting.key)).getD ((env.value? setting).getD otherwise) =
        (said.or (env setting.key)).getD otherwise := by
    cases said with
    | some value => rfl
    | none => cases hkey : env setting.key <;> simp [Environment.value?, hkey]
  obtain ⟨hmount, hsubdirectory, -, -⟩ := overlay_eq_ok hoverlay
  refine ⟨?_, ?_, ?_⟩
  · rw [hmount, hsaid (.mount, "mount") (by decide)]
    exact hheld .mount Client.defaultMount
  · rw [hsubdirectory, hsaid (.subdirectory, "sessions-subdir") (by decide)]
    exact hheld .subdirectory Client.defaultSubdirectory
  · rintro hempty
    rw [Config.check, hempty, if_pos (by decide)] at hcheck
    cases hcheck

theorem isName_defaultSubdirectory : Path.IsName Client.defaultSubdirectory :=
  ⟨⟨by decide, by decide⟩, by decide, by decide⟩

/-- Leaving out an empty text matters only where the text is empty. -/
theorem getD_filter_isEmpty {said : Option String} (hsaid : said ≠ some "") (otherwise : String) :
    (said.filter fun text => !text.isEmpty).getD otherwise = said.getD otherwise := by
  cases said with
  | none => rfl
  | some text =>
      have htext : text ≠ "" := fun h => hsaid (congrArg some h)
      simp [Option.filter, htext]

/-- Told the same, client and daemon use the same directory unless the subdirectory is said to be
empty. Then the client uses the standard subdirectory of the directory that the daemon watches. -/
theorem directory_eq_iff (halike : Alike arguments daemonArguments)
    (hclient : Invocation.ofArguments env arguments = .ok invocation)
    (hdaemon : loadConfig fs env daemonArguments = .ok config) :
    (invocation.directory = config.directory ↔
      saidSubdirectory env daemonArguments ≠ some "") ∧
    (saidSubdirectory env daemonArguments = some "" →
      Path.components invocation.directory =
        Path.components config.directory ++ [Client.defaultSubdirectory]) := by
  obtain ⟨hmount, hsubdirectory, hne⟩ := place_of_loadConfig hdaemon
  have hsaid : saidMount env daemonArguments ≠ some "" := by
    intro hempty
    rw [hempty] at hmount
    exact hne hmount
  have hdirectory : invocation.directory = Path.join config.mount
      (((saidSubdirectory env daemonArguments).filter fun text => !text.isEmpty).getD
        Client.defaultSubdirectory) := by
    rw [directory_of_ofArguments hclient halike.unnamed, halike.mount, halike.subdirectory, hmount,
      ← getD_filter_isEmpty hsaid]
    rfl
  have hcomponents (hempty : saidSubdirectory env daemonArguments = some "") :
      Path.components invocation.directory =
        Path.components config.directory ++ [Client.defaultSubdirectory] := by
    rw [hdirectory, Config.directory, hsubdirectory, hempty, Option.getD_some,
      Path.components_join_empty, Option.filter_some_neg (by decide), Option.getD_none]
    exact Path.components_join isName_defaultSubdirectory
  refine ⟨⟨fun hsame hempty => ?_, fun hfull => ?_⟩, hcomponents⟩
  · have hlonger := congrArg List.length (hcomponents hempty)
    rw [hsame] at hlonger
    simp at hlonger
  · rw [hdirectory, Config.directory, hsubdirectory, getD_filter_isEmpty hfull]

/-- A daemon for a chat service, which is told nothing about the place. -/
def chatServiceArguments : List String :=
  ["--backend=openai", "--api-key", "k", "--api-base", "http://x/", "--api-model", "m"]

/-- Only the variable for the subdirectory is set. -/
def subdirectoryHeld (value : String) : Environment := fun key =>
  if key = Setting.subdirectory.key then some value else none

theorem alike_chatServiceArguments : Alike ["send", "hi"] chatServiceArguments :=
  ⟨rfl, rfl, rfl⟩

/-- A name in the variable leads both to the same directory, and an empty variable does not. -/
theorem directory_eq_iff_of_subdirectoryHeld :
    (∃ invocation config,
      Invocation.ofArguments (subdirectoryHeld "chat") ["send", "hi"] = .ok invocation ∧
        loadConfig .empty (subdirectoryHeld "chat") chatServiceArguments = .ok config ∧
        invocation.directory = config.directory) ∧
    ∃ invocation config,
      Invocation.ofArguments (subdirectoryHeld "") ["send", "hi"] = .ok invocation ∧
        loadConfig .empty (subdirectoryHeld "") chatServiceArguments = .ok config ∧
        Path.components invocation.directory =
          Path.components config.directory ++ [Client.defaultSubdirectory] := by
  have hboth (value : String) {invocation : Invocation} {config : Config}
      (hclient : Invocation.ofArguments (subdirectoryHeld value) ["send", "hi"] = .ok invocation)
      (hdaemon : loadConfig .empty (subdirectoryHeld value) chatServiceArguments = .ok config) :=
    directory_eq_iff alike_chatServiceArguments hclient hdaemon
  exact ⟨⟨_, _, rfl, rfl, (hboth "chat" rfl rfl).1.mpr (by decide +kernel)⟩,
    _, _, rfl, rfl, (hboth "" rfl rfl).2 (by decide +kernel)⟩

/-- Client and daemon do not always meet. -/
theorem not_forall_directory_eq :
    ¬ ∀ (fs : FileSystem) (env : Environment) (arguments daemonArguments : List String)
      (invocation : Invocation) (config : Config), Alike arguments daemonArguments →
        Invocation.ofArguments env arguments = .ok invocation →
        loadConfig fs env daemonArguments = .ok config →
          invocation.directory = config.directory := by
  intro hall
  have hsame := hall .empty (subdirectoryHeld "") ["send", "hi"] chatServiceArguments _ _
    alike_chatServiceArguments rfl rfl
  exact absurd hsame (by decide +kernel)

end FileChat.CommandLine
