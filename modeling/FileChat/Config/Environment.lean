/-
# Configuration from the environment

The variables are read one after the other, and the first that cannot be read refuses the
configuration. A variable that holds nothing but blanks counts as unset, except for the
list of stop words, where it means that there are none.
-/
import FileChat.Config.Basic

namespace FileChat

/-- The variables that are set. -/
abbrev Environment := String → Option String

namespace Environment

/-- The value of a setting, if it is more than blanks. -/
def value? (env : Environment) (setting : Setting) : Option String :=
  (env setting.key).filter fun value => !Text.isBlankString value

/-- Read a setting, with blanks around it left out. The refusal shows them. -/
def read {α : Type} (env : Environment) (setting : Setting) (parse : String → Option α)
    (otherwise : α) : Except ConfigError α :=
  match env.value? setting with
  | none => .ok otherwise
  | some value =>
    match parse (Text.trimString value) with
    | some x => .ok x
    | none => .error (.invalid setting value)

/-- Read the kind of backend, which may not have blanks around it. -/
def readBackend (env : Environment) : Except ConfigError BackendKind :=
  match env.value? .backend with
  | none => .ok Config.standard.backend
  | some name => BackendKind.ofName name

end Environment

namespace Config

/-- The words of a list with commas between them, without blanks around them and without
empty ones. -/
def stopWords (value : String) : List String :=
  ((value.toList.splitOn ',').map fun word => Text.trim word).filterMap fun word =>
    if word.isEmpty then none else some (String.ofList word)

/-- The configuration that the environment asks for. -/
def ofEnvironment (env : Environment) : Except ConfigError Config := do
  let backend ← env.readBackend
  let contextTokens ← env.read .contextTokens (Number.readUnsigned 64) standard.contextTokens
  let maxTokens ← env.read .maxTokens (Number.readUnsigned 32) standard.maxTokens
  let temperature ← env.read .temperature Number.Binary32.read standard.temperature
  let workers ← env.read .workers (Number.readUnsigned 64) standard.workers
  let queueCapacity ← env.read .queueCapacity (Number.readUnsigned 64) standard.queueCapacity
  let mountSeconds ← env.read .mountWait (Number.readUnsigned 64) standard.mountWait.seconds
  let gpuLayers ← env.read .gpuLayers (Number.readUnsigned 32) standard.localModel.gpuLayers
  let port ← env.read .serverPort (Number.readUnsigned 16) standard.localModel.port
  return {
    mount := (env.value? .mount).getD standard.mount
    subdirectory := (env.value? .subdirectory).getD standard.subdirectory
    backend, contextTokens, maxTokens, temperature
    stop := ((env Setting.stop.key).map stopWords).getD standard.stop
    workers, queueCapacity
    mountWait := .ofSeconds mountSeconds
    localModel := {
      path := env.value? .modelPath
      gpuLayers
      program := (env.value? .serverProgram).getD standard.localModel.program
      port }
    chatService := {
      key := (env.value? .apiKey).getD ""
      base := (env.value? .apiBase).getD ""
      model := (env.value? .apiModel).getD "" } }

/-- Refuse a configuration in which a setting has no text. -/
def needText (config : Config) (setting : Setting) (value : String) : Except ConfigError Unit :=
  if value.isEmpty then .error (.missingForBackend setting config.backend) else .ok ()

/-- Check that a configuration has what its backend needs. The model must be there. -/
def checkBackend (fs : FileSystem) (config : Config) : Except ConfigError Unit :=
  match config.backend with
  | .localModel =>
    match config.localModel.path with
    | none => .error (.missingForBackend .modelPath config.backend)
    | some path => if fs.isRegularFile path then .ok () else .error (.modelNotFound path)
  | .chatService => do
    config.needText .apiKey config.chatService.key
    config.needText .apiBase config.chatService.base
    config.needText .apiModel config.chatService.model

/-- Check a configuration. -/
def check (fs : FileSystem) (config : Config) : Except ConfigError Unit :=
  if config.mount.isEmpty then .error (.missing .mount)
  else if config.workers = 0 then .error (.invalid .workers "0")
  else if config.queueCapacity = 0 then .error (.invalid .queueCapacity "0")
  else config.checkBackend fs

end Config

end FileChat
