/-
# Configuration

What the daemon can be told, what holds if nothing is said, and why a configuration is
refused. Every setting has a variable of the environment, by whose name messages refer to
it.
-/
import FileChat.Client.Session
import FileChat.Number.Binary
import FileChat.Number.Natural

namespace FileChat

/-- Where the replies come from. -/
inductive BackendKind
  /-- A model on this machine, behind a server of its own. -/
  | localModel
  /-- A chat service elsewhere. -/
  | chatService
  deriving Repr, DecidableEq, Inhabited

namespace BackendKind

/-- The name of a kind of backend. -/
def name : BackendKind → String
  | .localModel => "llamacpp"
  | .chatService => "openai"

end BackendKind

/-- What can be configured. -/
inductive Setting
  | mount
  | subdirectory
  | backend
  | contextTokens
  | maxTokens
  | temperature
  | stop
  | workers
  | queueCapacity
  | mountWait
  | modelPath
  | gpuLayers
  | serverProgram
  | serverPort
  | apiKey
  | apiBase
  | apiModel
  deriving Repr, DecidableEq

namespace Setting

/-- The variable of a setting. -/
def key : Setting → String
  | .mount => "CFS_MOUNT"
  | .subdirectory => "CFS_SESSIONS_SUBDIR"
  | .backend => "CFS_BACKEND"
  | .contextTokens => "CFS_N_CTX"
  | .maxTokens => "CFS_MAX_TOKENS"
  | .temperature => "CFS_TEMPERATURE"
  | .stop => "CFS_STOP"
  | .workers => "CFS_WORKERS"
  | .queueCapacity => "CFS_QUEUE_CAPACITY"
  | .mountWait => "CFS_MOUNT_WAIT_SECS"
  | .modelPath => "CFS_MODEL_PATH"
  | .gpuLayers => "CFS_N_GPU_LAYERS"
  | .serverProgram => "CFS_LLAMA_SERVER"
  | .serverPort => "CFS_LLAMA_PORT"
  | .apiKey => "CFS_API_KEY"
  | .apiBase => "CFS_API_BASE"
  | .apiModel => "CFS_API_MODEL"

end Setting

/-- Why a configuration is refused. -/
inductive ConfigError
  | missing (setting : Setting)
  | missingForBackend (setting : Setting) (kind : BackendKind)
  | unknownBackend (name : String)
  | modelNotFound (path : Path)
  | invalid (setting : Setting) (value : String)
  deriving Repr, DecidableEq

namespace ConfigError

/-- The wording of a refusal. -/
def message : ConfigError → String
  | .missing setting => setting.key ++ " must be set"
  | .missingForBackend setting kind =>
    setting.key ++ " must be set for the " ++ kind.name ++ " backend"
  | .unknownBackend name =>
    "unknown backend: " ++ Text.quoted name ++ " (expected \"llamacpp\" or \"openai\")"
  | .modelNotFound path => "model not found: " ++ path
  | .invalid setting value =>
    "invalid value for " ++ setting.key ++ ": " ++ Text.quoted value

end ConfigError

/-- The kind of backend with a given name. -/
def BackendKind.ofName (name : String) : Except ConfigError BackendKind :=
  if name = BackendKind.localModel.name then .ok .localModel
  else if name = BackendKind.chatService.name then .ok .chatService
  else .error (.unknownBackend name)

/-- How a model on this machine is served. -/
structure LocalModel where
  path : Option Path
  gpuLayers : Nat
  program : Path
  port : Nat
  deriving Repr, DecidableEq

/-- How a chat service is reached. -/
structure ChatService where
  key : String
  base : String
  model : String
  deriving Repr, DecidableEq

/-- Everything the daemon is told. -/
structure Config where
  mount : Path
  subdirectory : String
  backend : BackendKind
  /-- How many tokens the model can take in. -/
  contextTokens : Nat
  maxTokens : Nat
  temperature : Number.Binary32
  stop : List String
  workers : Nat
  queueCapacity : Nat
  mountWait : Duration
  localModel : LocalModel
  chatService : ChatService
  deriving Repr, DecidableEq

namespace Config

/-- Seven tenths, as near as a single-precision number comes. -/
def standardTemperature : Number.Binary32 := ⟨0x3F333333⟩

/-- What holds if nothing is said. -/
def standard : Config where
  mount := Client.defaultMount
  subdirectory := Client.defaultSubdirectory
  backend := .localModel
  contextTokens := 4096
  maxTokens := 512
  temperature := standardTemperature
  stop := ["User:"]
  workers := 1
  queueCapacity := 64
  mountWait := .ofSeconds 30
  localModel := ⟨none, 0, "llama-server", 8088⟩
  chatService := ⟨"", "", ""⟩

/-- The sessions directory. -/
def directory (config : Config) : Path := Path.join config.mount config.subdirectory

/-- How many characters are counted for a token. -/
def charsPerToken : Nat := 3

/-- The largest number that fits a machine word. -/
def maxWord : Nat := 0xFFFFFFFFFFFFFFFF

/-- How many characters of a conversation go into a prompt. -/
def contextChars (config : Config) : Nat := min (config.contextTokens * charsPerToken) maxWord

end Config

end FileChat
