/-
# What the environment refuses

A variable that has to be a number or the name of a backend can hold a text that is neither. Such a
fault depends on its own variable alone, and the configuration is refused for the first fault in the
order in which the variables are read. Where there is none, each part of the configuration comes
from the variable of its own setting.
-/

import FileChat.Config.Environment
import FileChat.Proofs.Steps

namespace FileChat

namespace Setting

/-- Which texts the variable of a setting can hold. -/
def reads (setting : Setting) (value : String) : Bool :=
  match setting with
  | .backend => (BackendKind.ofName value).toBool
  | .contextTokens | .workers | .queueCapacity | .mountWait =>
    (Number.readUnsigned 64 (Text.trimString value)).isSome
  | .maxTokens | .gpuLayers => (Number.readUnsigned 32 (Text.trimString value)).isSome
  | .serverPort => (Number.readUnsigned 16 (Text.trimString value)).isSome
  | .temperature => (Number.Binary32.read (Text.trimString value)).isSome
  | _ => true

/-- What is said of a text that the variable of a setting cannot hold. -/
def refusal (setting : Setting) (value : String) : ConfigError :=
  match setting with
  | .backend => .unknownBackend value
  | _ => .invalid setting value

theorem refusal_cases (setting : Setting) (value : String) :
    (setting = .backend ∧ setting.refusal value = .unknownBackend value) ∨
      setting.refusal value = .invalid setting value := by
  cases setting with
  | backend => exact .inl ⟨rfl, rfl⟩
  | _ => exact .inr rfl

/-- The settings whose variables can be refused, in the order in which these are read. -/
def refusable : List Setting :=
  [.backend, .contextTokens, .maxTokens, .temperature, .workers, .queueCapacity, .mountWait,
    .gpuLayers, .serverPort]

/-- A text is refused as the name of a backend exactly where it is not read as one. -/
theorem ofName_cases (name : String) :
    (∃ kind, BackendKind.ofName name = .ok kind ∧ Setting.backend.reads name = true) ∨
      BackendKind.ofName name = .error (Setting.backend.refusal name) ∧
        Setting.backend.reads name = false := by
  cases hname : BackendKind.ofName name with
  | ok kind => exact .inl ⟨kind, rfl, by simp [reads, hname, Except.toBool]⟩
  | error cause =>
      refine .inr ⟨?_, by simp [reads, hname, Except.toBool]⟩
      unfold BackendKind.ofName at hname
      split at hname
      · cases hname
      · split at hname
        · cases hname
        · exact hname.symm

end Setting

namespace Environment

variable {α : Type}

/-- What is wrong with the variable of a setting. -/
def fault? (env : Environment) (setting : Setting) : Option ConfigError :=
  (env.value? setting).bind fun value =>
    if setting.reads value then none else some (setting.refusal value)

theorem fault?_eq_some {env : Environment} {setting : Setting} {cause : ConfigError}
    (hfault : env.fault? setting = some cause) :
    ∃ value, env.value? setting = some value ∧ setting.reads value = false ∧
      setting.refusal value = cause := by
  obtain ⟨value, hvalue, hcause⟩ := Option.bind_eq_some_iff.mp hfault
  by_cases hreads : setting.reads value = true
  · rw [if_pos hreads] at hcause
    cases hcause
  · rw [if_neg hreads] at hcause
    exact ⟨value, hvalue, Bool.eq_false_iff.mpr hreads, Option.some.inj hcause⟩

theorem value?_congr {env other : Environment} {setting : Setting}
    (hsame : env setting.key = other setting.key) :
    env.value? setting = other.value? setting := by
  rw [value?, value?, hsame]

theorem fault?_congr {env other : Environment} {setting : Setting}
    (hsame : env setting.key = other setting.key) :
    env.fault? setting = other.fault? setting := by
  rw [fault?, fault?, value?_congr hsame]

/-- What a variable says where it can be read. -/
def get (env : Environment) (setting : Setting) (parse : String → Option α) (otherwise : α) : α :=
  ((env.value? setting).bind fun value => parse (Text.trimString value)).getD otherwise

theorem get_congr {env other : Environment} {setting : Setting} (parse : String → Option α)
    (otherwise : α) (hsame : env setting.key = other setting.key) :
    env.get setting parse otherwise = other.get setting parse otherwise := by
  rw [get, get, value?_congr hsame]

/-- The kind of backend that its variable says where it can be read. -/
def getBackend (env : Environment) : BackendKind :=
  ((env.value? .backend).bind fun name => (BackendKind.ofName name).toOption).getD
    Config.standard.backend

theorem getBackend_congr {env other : Environment}
    (hsame : env Setting.backend.key = other Setting.backend.key) :
    env.getBackend = other.getBackend := by
  rw [getBackend, getBackend, value?_congr hsame]

/-- Reading a variable finds its fault or what it says. -/
theorem read_eq (env : Environment) (setting : Setting) (parse : String → Option α)
    (otherwise : α)
    (hreads : ∀ value, setting.reads value = (parse (Text.trimString value)).isSome)
    (hrefusal : ∀ value, setting.refusal value = .invalid setting value) :
    env.read setting parse otherwise =
      (env.fault? setting).elim (.ok (env.get setting parse otherwise)) .error := by
  cases hvalue : env.value? setting with
  | none => simp [read, fault?, get, hvalue]
  | some value =>
      cases hparse : parse (Text.trimString value) with
      | none => simp [read, fault?, hvalue, hparse, hreads, hrefusal]
      | some x => simp [read, fault?, get, hvalue, hparse, hreads]

theorem readBackend_eq (env : Environment) :
    env.readBackend = (env.fault? .backend).elim (.ok env.getBackend) .error := by
  cases hvalue : env.value? .backend with
  | none => simp [readBackend, fault?, getBackend, hvalue]
  | some name =>
      obtain ⟨kind, hname, hreads⟩ | ⟨hname, hreads⟩ := Setting.ofName_cases name
      · simp [readBackend, fault?, getBackend, hvalue, hname, hreads, Except.toOption]
      · simp [readBackend, fault?, hvalue, hname, hreads]

end Environment

theorem elim_findSome?_cons {α β γ : Type} (f : α → Option β) (a : α) (l : List α) (x : γ)
    (g : β → γ) :
    ((a :: l).findSome? f).elim x g = (f a).elim ((l.findSome? f).elim x g) g := by
  rw [List.findSome?_cons]
  cases f a <;> rfl

namespace Config

/-- The configuration that the variables say where they can be read. -/
def asSaid (env : Environment) : Config where
  mount := (env.value? .mount).getD standard.mount
  subdirectory := (env.value? .subdirectory).getD standard.subdirectory
  backend := env.getBackend
  contextTokens := env.get .contextTokens (Number.readUnsigned 64) standard.contextTokens
  maxTokens := env.get .maxTokens (Number.readUnsigned 32) standard.maxTokens
  temperature := env.get .temperature Number.Binary32.read standard.temperature
  stop := ((env Setting.stop.key).map stopWords).getD standard.stop
  workers := env.get .workers (Number.readUnsigned 64) standard.workers
  queueCapacity := env.get .queueCapacity (Number.readUnsigned 64) standard.queueCapacity
  mountWait := .ofSeconds (env.get .mountWait (Number.readUnsigned 64) standard.mountWait.seconds)
  localModel := {
    path := env.value? .modelPath
    gpuLayers := env.get .gpuLayers (Number.readUnsigned 32) standard.localModel.gpuLayers
    program := (env.value? .serverProgram).getD standard.localModel.program
    port := env.get .serverPort (Number.readUnsigned 16) standard.localModel.port }
  chatService := {
    key := (env.value? .apiKey).getD ""
    base := (env.value? .apiBase).getD ""
    model := (env.value? .apiModel).getD "" }

/-- The first fault, if there is one. -/
def firstFault? (env : Environment) : Option ConfigError :=
  Setting.refusable.findSome? env.fault?

/-- The environment is refused for its first fault. -/
theorem ofEnvironment_eq (env : Environment) :
    ofEnvironment env = (firstFault? env).elim (.ok (asSaid env)) .error := by
  unfold ofEnvironment
  rw [env.readBackend_eq,
    env.read_eq .contextTokens (Number.readUnsigned 64) _ (fun _ => rfl) (fun _ => rfl),
    env.read_eq .maxTokens (Number.readUnsigned 32) _ (fun _ => rfl) (fun _ => rfl),
    env.read_eq .temperature Number.Binary32.read _ (fun _ => rfl) (fun _ => rfl),
    env.read_eq .workers (Number.readUnsigned 64) _ (fun _ => rfl) (fun _ => rfl),
    env.read_eq .queueCapacity (Number.readUnsigned 64) _ (fun _ => rfl) (fun _ => rfl),
    env.read_eq .mountWait (Number.readUnsigned 64) _ (fun _ => rfl) (fun _ => rfl),
    env.read_eq .gpuLayers (Number.readUnsigned 32) _ (fun _ => rfl) (fun _ => rfl),
    env.read_eq .serverPort (Number.readUnsigned 16) _ (fun _ => rfl) (fun _ => rfl)]
  simp only [elim_error_bind, firstFault?, Setting.refusable, elim_findSome?_cons]
  rfl

theorem eq_of_needText_eq_error {config : Config} {setting : Setting} {value : String}
    {cause : ConfigError} (hneed : config.needText setting value = .error cause) :
    cause = .missingForBackend setting config.backend := by
  unfold needText at hneed
  split at hneed
  · exact (Except.error.inj hneed).symm
  · cases hneed

/-- What a backend lacks is something that it needs, or the model itself. -/
theorem checkBackend_eq_error {fs : FileSystem} {config : Config} {cause : ConfigError}
    (hcheck : config.checkBackend fs = .error cause) :
    (∃ setting, cause = .missingForBackend setting config.backend) ∨
      ∃ path, cause = .modelNotFound path := by
  unfold checkBackend at hcheck
  split at hcheck
  · split at hcheck
    · exact .inl ⟨_, (Except.error.inj hcheck).symm⟩
    · split at hcheck
      · cases hcheck
      · exact .inr ⟨_, (Except.error.inj hcheck).symm⟩
  · rw [bind_eq_error] at hcheck
    obtain hkey | ⟨_, -, hlater⟩ := hcheck
    · exact .inl ⟨_, eq_of_needText_eq_error hkey⟩
    · rw [bind_eq_error] at hlater
      obtain hbase | ⟨_, -, hmodel⟩ := hlater
      · exact .inl ⟨_, eq_of_needText_eq_error hbase⟩
      · exact .inl ⟨_, eq_of_needText_eq_error hmodel⟩

/-- What a configuration lacks is told apart from a text that cannot be read. -/
theorem check_ne_refusal {fs : FileSystem} {config : Config} {setting : Setting} {value : String}
    (hreads : setting.reads value = false) :
    config.check fs ≠ .error (setting.refusal value) := by
  have hzero {other : Setting} (hzero : other.reads "0" = true) :
      ConfigError.invalid other "0" ≠ setting.refusal value := by
    intro hsame
    obtain ⟨rfl, hrefusal⟩ | hrefusal := Setting.refusal_cases setting value
    · exact nomatch hsame.trans hrefusal
    · obtain ⟨rfl, rfl⟩ := ConfigError.invalid.inj (hsame.trans hrefusal)
      exact nomatch hzero.symm.trans hreads
  intro hcheck
  unfold check at hcheck
  split at hcheck
  · obtain ⟨-, hrefusal⟩ | hrefusal := Setting.refusal_cases setting value <;>
      exact nomatch (Except.error.inj hcheck).trans hrefusal
  · split at hcheck
    · exact hzero (by decide +kernel) (Except.error.inj hcheck)
    · split at hcheck
      · exact hzero (by decide +kernel) (Except.error.inj hcheck)
      · obtain ⟨_, hlack⟩ | ⟨_, hlack⟩ := checkBackend_eq_error hcheck <;>
          obtain ⟨-, hrefusal⟩ | hrefusal := Setting.refusal_cases setting value <;>
          exact nomatch hlack.symm.trans hrefusal

end Config

end FileChat
