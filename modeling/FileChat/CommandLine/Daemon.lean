/-
# The daemon's command line

Most settings have an option of their own, whose value goes before the variable. The
environment is read as a whole first and then overlaid, so that a variable that cannot be
read refuses the configuration even if an option says better.
-/
import FileChat.CommandLine.Options
import FileChat.Url.Basic

namespace FileChat.CommandLine

/-- The settings that have an option, with its name. -/
def settingOptions : List (Setting × String) :=
  [(.mount, "mount"), (.subdirectory, "sessions-subdir"), (.backend, "backend"),
    (.contextTokens, "n-ctx"), (.maxTokens, "max-tokens"), (.temperature, "temperature"),
    (.workers, "workers"), (.modelPath, "model-path"), (.gpuLayers, "n-gpu-layers"),
    (.apiKey, "api-key"), (.apiBase, "api-base"), (.apiModel, "api-model")]

/-- Which values the option of a setting can have. -/
def acceptsValue (setting : Setting) (value : String) : Bool :=
  match setting with
  | .mount | .modelPath => isPath value
  | .contextTokens | .workers => (Number.readUnsigned 64 value).isSome
  | .maxTokens | .gpuLayers => (Number.readSignedRange 32 value).isSome
  | .temperature => (Number.Binary32.read value).isSome
  | _ => true

/-- The option of a setting. -/
def settingFlag (option : Setting × String) : Flag :=
  ⟨option.2, acceptsValue option.1, some option.1.key⟩

/-- The options of the daemon. -/
def daemonLevel : Level := ⟨settingOptions.map settingFlag, true⟩

/-- What is said about a setting that has an option. -/
def Given.value? (given : Given) (setting : Setting) : Option String :=
  (settingOptions.lookup setting).bind fun name => given.lookup name

/-- What is said about the settings by options and, where there is none, by variables. -/
def Given.ofArguments (env : Environment) (arguments : List String) : Except Refusal Given := do
  let (reading, rest) ← daemonLevel.read .empty arguments
  let given ← reading.settle
  if !rest.arguments.isEmpty then throw .usage
  return given ++ (← daemonLevel.standIns env given)

/-- Lay what is said over a configuration. -/
def overlay (said : Setting → Option String) (config : Config) : Except ConfigError Config := do
  let backend ← match said .backend with
    | some name => BackendKind.ofName name
    | none => .ok config.backend
  let number (setting : Setting) (read : String → Option Nat) (otherwise : Nat) : Nat :=
    ((said setting).bind read).getD otherwise
  return { config with
    mount := (said .mount).getD config.mount
    subdirectory := (said .subdirectory).getD config.subdirectory
    backend
    contextTokens := number .contextTokens (Number.readUnsigned 64) config.contextTokens
    maxTokens := number .maxTokens (Number.readSignedRange 32) config.maxTokens
    temperature :=
      ((said .temperature).bind Number.Binary32.read).getD config.temperature
    workers := number .workers (Number.readUnsigned 64) config.workers
    localModel := { config.localModel with
      path := said .modelPath <|> config.localModel.path
      gpuLayers :=
        number .gpuLayers (Number.readSignedRange 32) config.localModel.gpuLayers }
    chatService := {
      key := (said .apiKey).getD config.chatService.key
      base := ((said .apiBase).map Url.withoutFinalSlashes).getD config.chatService.base
      model := (said .apiModel).getD config.chatService.model } }

/-- Why the daemon does not start. -/
inductive DaemonRefusal
  | commandLine (refusal : Refusal)
  | config (cause : ConfigError)
  deriving Repr, DecidableEq

/-- The configuration that a command line and an environment ask for, not checked. -/
def configure (env : Environment) (arguments : List String) : Except DaemonRefusal Config := do
  let given ← (Given.ofArguments env arguments).mapError .commandLine
  let config ← (Config.ofEnvironment env).mapError .config
  (overlay given.value? config).mapError .config

/-- The configuration of a daemon that can start. -/
def loadConfig (fs : FileSystem) (env : Environment) (arguments : List String) :
    Except DaemonRefusal Config := do
  let config ← configure env arguments
  (config.check fs).mapError .config
  return config

end FileChat.CommandLine
