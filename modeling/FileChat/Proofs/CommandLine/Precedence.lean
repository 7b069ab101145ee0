/-
# Options before variables

What an option says goes before its variable, whatever the variable holds, as long as the variable
can be read: two environments that differ only in variables whose options are given make the same
of a command line. The environment is read as a whole before the options are laid over it, though.
A variable that cannot be read refuses the configuration even where its option is given, and this
is the only way in which such a variable can show.
-/

import FileChat.CommandLine.Daemon
import FileChat.Proofs.CommandLine.Options
import FileChat.Proofs.Config.Environment

namespace FileChat.CommandLine

/-- The option of a setting is among the arguments. -/
def Gives (arguments : List String) (setting : Setting) : Prop :=
  ∃ name, settingOptions.lookup setting = some name ∧ Mentions arguments name

/-- Two environments that differ at most in variables whose options are given. -/
def AgreeBeyond (arguments : List String) (env other : Environment) : Prop :=
  ∀ key, (∀ setting, Gives arguments setting → setting.key ≠ key) → env key = other key

theorem key_injective {setting other : Setting} (hkey : setting.key = other.key) :
    setting = other := by
  cases setting <;> cases other <;> first | rfl | exact absurd hkey (by decide)

theorem AgreeBeyond.eq_of_not_gives {arguments : List String} {env other : Environment}
    (hagree : AgreeBeyond arguments env other) {setting : Setting}
    (hgives : ¬ Gives arguments setting) : env setting.key = other setting.key := by
  apply hagree
  intro given hgiven hkey
  exact hgives (key_injective hkey ▸ hgiven)

/-- The options of a command line with nothing else on it. -/
def daemonOptions (arguments : List String) : Except Refusal Given := do
  let (reading, rest) ← daemonLevel.read .empty arguments
  let given ← reading.settle
  if rest.arguments.isEmpty then return given else throw .usage

/-- The options are read without the environment, which then stands in for what is not given. -/
theorem Given.ofArguments_eq (env : Environment) (arguments : List String) :
    Given.ofArguments env arguments = do
      let given ← daemonOptions arguments
      return given ++ (← daemonLevel.standIns env given) := by
  unfold Given.ofArguments daemonOptions
  cases daemonLevel.read .empty arguments with
  | error refusal => rfl
  | ok result =>
      obtain ⟨reading, rest⟩ := result
      simp only [ok_bind]
      cases reading.settle with
      | error refusal => rfl
      | ok given => cases rest.arguments.isEmpty <;> rfl

theorem takes_and_mem_of_daemonOptions {arguments : List String} {given : Given}
    (hoptions : daemonOptions arguments = .ok given) :
    (∀ option ∈ given, daemonLevel.Takes option) ∧
      ∀ name, Mentions arguments name → name ∈ given.map Prod.fst := by
  simp only [daemonOptions, bind_eq_ok] at hoptions
  obtain ⟨⟨reading, rest⟩, hread, noted, hsettle, hrest⟩ := hoptions
  split at hrest
  · cases hrest
    exact Level.takes_and_mem_of_read hread (List.isEmpty_iff.mp ‹_›) hsettle
  · cases hrest

theorem lookup_of_mem_settingOptions :
    ∀ option ∈ settingOptions, settingOptions.lookup option.1 = some option.2 := by
  decide

theorem eq_of_mem_settingOptions : ∀ option ∈ settingOptions, ∀ other ∈ settingOptions,
    option.2 = other.2 → option = other := by
  decide

theorem mem_settingOptions_of_lookup {setting : Setting} {name : String}
    (hname : settingOptions.lookup setting = some name) : (setting, name) ∈ settingOptions := by
  obtain ⟨before, after, hsplit, -⟩ := List.lookup_eq_some_iff.mp hname
  rw [hsplit]
  exact List.mem_append_right _ List.mem_cons_self

/-- What was read for the option of a setting is a value that it can have. -/
theorem exists_value?_of_gives {arguments : List String} {given : Given} {setting : Setting}
    (hoptions : daemonOptions arguments = .ok given) (hgives : Gives arguments setting) :
    ∃ value, given.value? setting = some value ∧ acceptsValue setting value = true := by
  obtain ⟨htakes, hmem⟩ := takes_and_mem_of_daemonOptions hoptions
  obtain ⟨name, hname, hmentions⟩ := hgives
  obtain ⟨⟨_, _⟩, hoption, rfl⟩ := List.mem_map.mp (hmem name hmentions)
  obtain ⟨value, hvalue⟩ := Option.isSome_iff_exists.mp
    (List.lookup_isSome_iff.mpr ⟨_, hoption, BEq.rfl⟩)
  refine ⟨value, by rw [Given.value?, hname]; exact hvalue, ?_⟩
  obtain ⟨before, after, hsplit, -⟩ := List.lookup_eq_some_iff.mp hvalue
  obtain ⟨flag, hflag, hflagName, haccepts⟩ :=
    htakes (_, value) (hsplit ▸ List.mem_append_right _ List.mem_cons_self)
  obtain ⟨option, hlisted, rfl⟩ := List.mem_map.mp hflag
  have hsame : option = (setting, _) :=
    eq_of_mem_settingOptions _ hlisted _ (mem_settingOptions_of_lookup hname) hflagName
  rw [hsame] at haccepts
  exact haccepts

theorem value?_append {given : Given} {setting : Setting} {value : String}
    (hvalue : given.value? setting = some value) (more : Given) :
    Given.value? (given ++ more) setting = some value := by
  obtain ⟨name, hname, hlookup⟩ := Option.bind_eq_some_iff.mp hvalue
  rw [Given.value?, hname, Option.bind_some, List.lookup_append, hlookup, Option.some_or]

/-- Where the environments differ, there is something better to go by. -/
def Decided (given : Given) (env other : Environment) (setting : Setting) : Prop :=
  (∃ value, given.value? setting = some value ∧ acceptsValue setting value = true) ∨
    env setting.key = other setting.key

namespace AgreeBeyond

variable {arguments : List String} {env other : Environment} {given : Given}

theorem decided (hagree : AgreeBeyond arguments env other)
    (hoptions : daemonOptions arguments = .ok given) (setting : Setting) :
    Decided given env other setting := by
  by_cases hgives : Gives arguments setting
  · exact .inl (exists_value?_of_gives hoptions hgives)
  · exact .inr (hagree.eq_of_not_gives hgives)

/-- The environments stand in alike for what is not given. -/
theorem standIns_eq (hagree : AgreeBeyond arguments env other)
    (hoptions : daemonOptions arguments = .ok given) :
    daemonLevel.standIns env given = daemonLevel.standIns other given := by
  apply Level.standIns_congr
  intro flag hflag hnone
  obtain ⟨option, hoption, rfl⟩ := List.mem_map.mp hflag
  obtain ⟨value, hvalue, -⟩ | hsame := hagree.decided hoptions option.1
  · rw [Given.value?, lookup_of_mem_settingOptions option hoption] at hvalue
    exact nomatch hnone.symm.trans hvalue
  · exact hsame

theorem ofArguments_eq (hagree : AgreeBeyond arguments env other) :
    Given.ofArguments env arguments = Given.ofArguments other arguments := by
  rw [Given.ofArguments_eq, Given.ofArguments_eq]
  cases hoptions : daemonOptions arguments with
  | error refusal => rfl
  | ok given => rw [ok_bind, ok_bind, hagree.standIns_eq hoptions]

end AgreeBeyond

namespace Decided

variable {given : Given} {env other : Environment} {setting : Setting} {α : Type}

theorem append (hdecided : Decided given env other setting) (more : Given) :
    Decided (given ++ more) env other setting := by
  obtain ⟨value, hvalue, haccepts⟩ | hkey := hdecided
  · exact .inl ⟨value, value?_append hvalue more, haccepts⟩
  · exact .inr hkey

/-- What comes of an option and a variable, if the option goes before the variable. -/
theorem combine_eq (hdecided : Decided given env other setting)
    (combine : Option String → Option String → α)
    (hfirst : ∀ value, acceptsValue setting value = true →
      ∀ x y, combine (some value) x = combine (some value) y) :
    combine (given.value? setting) (env.value? setting) =
      combine (given.value? setting) (other.value? setting) := by
  obtain ⟨value, hvalue, haccepts⟩ | hkey := hdecided
  · rw [hvalue]
    exact hfirst value haccepts _ _
  · rw [Environment.value?_congr hkey]

theorem text_eq (hdecided : Decided given env other setting) (otherwise : String) :
    (given.value? setting).getD ((env.value? setting).getD otherwise) =
      (given.value? setting).getD ((other.value? setting).getD otherwise) :=
  hdecided.combine_eq (fun said held => said.getD (held.getD otherwise)) fun _ _ _ _ => rfl

/-- The option need not be read as the variable is. -/
theorem parsed_eq (hdecided : Decided given env other setting) (parse : String → Option α)
    (haccepts : ∀ value, acceptsValue setting value = true → (parse value).isSome)
    (parseVariable : String → Option α) (otherwise : α) :
    ((given.value? setting).bind parse).getD (env.get setting parseVariable otherwise) =
      ((given.value? setting).bind parse).getD (other.get setting parseVariable otherwise) := by
  apply hdecided.combine_eq fun said held => (said.bind parse).getD
    ((held.bind fun value => parseVariable (Text.trimString value)).getD otherwise)
  intro value hvalue x y
  obtain ⟨parsed, hparsed⟩ := Option.isSome_iff_exists.mp (haccepts value hvalue)
  simp only [Option.bind_some, hparsed, Option.getD_some]

/-- Without an option there is nothing better than the variable. -/
theorem key_eq (hdecided : Decided given env other setting)
    (hnone : settingOptions.lookup setting = none) : env setting.key = other setting.key := by
  obtain ⟨value, hvalue, -⟩ | hkey := hdecided
  · rw [Given.value?, hnone] at hvalue
    cases hvalue
  · exact hkey

end Decided

theorem AgreeBeyond.decided_of_ofArguments {arguments : List String} {env other : Environment}
    {given : Given} (hagree : AgreeBeyond arguments env other)
    (hgiven : Given.ofArguments env arguments = .ok given) (setting : Setting) :
    Decided given env other setting := by
  simp only [Given.ofArguments_eq, bind_eq_ok, pure_eq_ok] at hgiven
  obtain ⟨options, hoptions, more, -, rfl⟩ := hgiven
  exact (hagree.decided hoptions setting).append more

/-- Nothing of a variable whose option is given is left in the configuration. Some variables have no
option, and they count as they are. -/
theorem overlay_asSaid_eq {given : Given} {env other : Environment}
    (hdecided : ∀ setting, Decided given env other setting) :
    overlay given.value? (Config.asSaid env) = overlay given.value? (Config.asSaid other) := by
  have hpath := (hdecided .modelPath).combine_eq (· <|> ·) fun _ _ _ _ => rfl
  have hbase := (hdecided .apiBase).combine_eq
    (fun said held => (said.map Url.withoutFinalSlashes).getD (held.getD "")) fun _ _ _ _ => rfl
  have hparsed {α : Type} (setting : Setting) (parse parseVariable : String → Option α)
      (otherwise : α) (haccepts : ∀ value,
        acceptsValue setting value = true → (parse value).isSome) :=
    (hdecided setting).parsed_eq parse haccepts parseVariable otherwise
  have hstop := (hdecided .stop).key_eq rfl
  have hprogram := Environment.value?_congr ((hdecided .serverProgram).key_eq rfl)
  have hunsaid (setting : Setting) (bits otherwise : Nat)
      (hnone : settingOptions.lookup setting = none) :=
    Environment.get_congr (Number.readUnsigned bits) otherwise ((hdecided setting).key_eq hnone)
  unfold overlay Config.asSaid
  simp only [(hdecided .mount).text_eq, (hdecided .subdirectory).text_eq,
    hparsed .contextTokens (Number.readUnsigned 64) (Number.readUnsigned 64) _ (fun _ h => h),
    hparsed .maxTokens (Number.readSignedRange 32) (Number.readUnsigned 32) _ (fun _ h => h),
    hparsed .temperature Number.Binary32.read Number.Binary32.read _ (fun _ h => h), hstop,
    hparsed .workers (Number.readUnsigned 64) (Number.readUnsigned 64) _ (fun _ h => h),
    hunsaid .queueCapacity 64 _ rfl, hunsaid .mountWait 64 _ rfl, hpath,
    hparsed .gpuLayers (Number.readSignedRange 32) (Number.readUnsigned 32) _ (fun _ h => h),
    hprogram, hunsaid .serverPort 16 _ rfl, (hdecided .apiKey).text_eq, hbase,
    (hdecided .apiModel).text_eq]
  obtain ⟨name, hname, -⟩ | hkey := hdecided .backend
  · simp only [hname]
  · rw [Environment.getBackend_congr hkey]

/-- What is wrong with an option for the backend. -/
def Given.backendFault? (given : Given) : Option ConfigError :=
  (given.value? .backend).bind fun name =>
    if Setting.backend.reads name then none else some (Setting.backend.refusal name)

/-- The first text that the daemon cannot read: that of a variable or, where all variables can be
read, that of the option for the backend. -/
def firstRefusal? (given : Given) (env : Environment) : Option ConfigError :=
  (Config.firstFault? env).or given.backendFault?

theorem exists_refusal_of_firstRefusal? {given : Given} {env : Environment} {cause : ConfigError}
    (hcause : firstRefusal? given env = some cause) :
    ∃ (setting : Setting) (value : String),
      setting.reads value = false ∧ setting.refusal value = cause := by
  obtain hfault | ⟨-, hoption⟩ := Option.or_eq_some_iff.mp hcause
  · obtain ⟨setting, -, hsetting⟩ := List.exists_of_findSome?_eq_some hfault
    obtain ⟨value, -, hreads, hrefusal⟩ := Environment.fault?_eq_some hsetting
    exact ⟨setting, value, hreads, hrefusal⟩
  · obtain ⟨name, -, hname⟩ := Option.bind_eq_some_iff.mp hoption
    split at hname
    · cases hname
    · exact ⟨.backend, name, Bool.eq_false_iff.mpr ‹_›, Option.some.inj hname⟩

/-- Only the option for the backend can keep the options from being laid over the variables. -/
theorem overlay_cases (given : Given) (config : Config) :
    (∃ cause, given.backendFault? = some cause ∧ overlay given.value? config = .error cause) ∨
      given.backendFault? = none ∧ ∃ laid, overlay given.value? config = .ok laid := by
  unfold overlay Given.backendFault?
  cases given.value? .backend with
  | none => exact .inr ⟨rfl, _, rfl⟩
  | some name =>
      obtain ⟨kind, hname, hreads⟩ | ⟨hname, hreads⟩ := Setting.ofName_cases name
      · refine .inr ⟨by rw [Option.bind_some, if_pos hreads], ?_⟩
        simp only [hname]
        exact ⟨_, rfl⟩
      · refine .inl ⟨_, by rw [Option.bind_some, if_neg (by simp [hreads])], ?_⟩
        simp only [hname]
        rfl

/-- Once the command line is understood, the environment is judged before the options. -/
theorem loadConfig_of_given {fs : FileSystem} {env : Environment} {arguments : List String}
    {given : Given} (hgiven : Given.ofArguments env arguments = .ok given) :
    loadConfig fs env arguments = Except.mapError .config do
      let config ← (Config.firstFault? env).elim (.ok (Config.asSaid env)) .error
      let config ← overlay given.value? config
      config.check fs
      return config := by
  rw [loadConfig, configure, hgiven, Config.ofEnvironment_eq]
  cases Config.firstFault? env with
  | some cause => rfl
  | none =>
      show ((overlay given.value? (Config.asSaid env)).mapError _ >>= _) =
        (overlay given.value? (Config.asSaid env) >>= _).mapError _
      cases overlay given.value? (Config.asSaid env) with
      | error cause => rfl
      | ok config =>
          show ((config.check fs).mapError _ >>= _) = (config.check fs >>= _).mapError _
          cases config.check fs <;> rfl

/-- The daemon stops at a text that cannot be read exactly if it is the first. -/
theorem loadConfig_eq_refusal_iff {fs : FileSystem} {env : Environment} {arguments : List String}
    {given : Given} (hgiven : Given.ofArguments env arguments = .ok given) {setting : Setting}
    {value : String} (hreads : setting.reads value = false) :
    loadConfig fs env arguments = .error (.config (setting.refusal value)) ↔
      firstRefusal? given env = some (setting.refusal value) := by
  have hconfig {cause : ConfigError} :
      (Except.error (DaemonRefusal.config cause) : Except DaemonRefusal Config) =
        .error (.config (setting.refusal value)) ↔ some cause = some (setting.refusal value) := by
    simp
  rw [loadConfig_of_given hgiven, firstRefusal?]
  cases Config.firstFault? env with
  | some cause => exact hconfig
  | none =>
      rw [Option.none_or, Option.elim_none, ok_bind]
      obtain ⟨cause, hcause, hoverlay⟩ | ⟨hnone, laid, hoverlay⟩ :=
        overlay_cases given (Config.asSaid env)
      · rw [hcause, hoverlay]
        exact hconfig
      · rw [hnone, hoverlay, ok_bind]
        refine iff_of_false (fun hrefused => ?_) nofun
        cases hcheck : laid.check fs with
        | ok _ => rw [hcheck] at hrefused; cases hrefused
        | error cause =>
            rw [hcheck] at hrefused
            have hcause : cause = setting.refusal value :=
              DaemonRefusal.config.inj (Except.error.inj hrefused)
            exact Config.check_ne_refusal hreads (hcause ▸ hcheck)

/-- Two searches that differ only at marked places agree, or one of them ends at a marked place. -/
theorem findSome?_eq_or {α β : Type} {marked : α → Prop} {f g : α → Option β}
    (hagree : ∀ a, ¬ marked a → f a = g a) (l : List α) :
    l.findSome? f = l.findSome? g ∨ ∃ a, marked a ∧
      ((∃ b, f a = some b ∧ l.findSome? f = some b) ∨
        ∃ b, g a = some b ∧ l.findSome? g = some b) := by
  induction l with
  | nil => exact .inl rfl
  | cons a later ih =>
      rw [List.findSome?_cons, List.findSome?_cons]
      cases hf : f a with
      | none =>
          cases hg : g a with
          | none => exact ih
          | some b =>
              have hmarked : marked a := Classical.byContradiction fun hunmarked =>
                nomatch hf.symm.trans ((hagree a hunmarked).trans hg)
              exact .inr ⟨a, hmarked, .inr ⟨b, hg, rfl⟩⟩
      | some b =>
          by_cases hmarked : marked a
          · exact .inr ⟨a, hmarked, .inl ⟨b, hf, rfl⟩⟩
          · rw [← hagree a hmarked, hf]
            exact .inl rfl

namespace AgreeBeyond

variable {arguments : List String} {env other : Environment} {given : Given}

/-- Once the command line is understood, the first refusal is all that can make a difference: either
environment is refused for a text exactly if its first refusal is for this text. -/
theorem loadConfig_eq_iff_of_given (hagree : AgreeBeyond arguments env other) (fs : FileSystem)
    (hgiven : Given.ofArguments env arguments = .ok given) :
    loadConfig fs env arguments = loadConfig fs other arguments ↔
      firstRefusal? given env = firstRefusal? given other := by
  have hother : Given.ofArguments other arguments = .ok given :=
    hagree.ofArguments_eq.symm.trans hgiven
  have hrefused {cause : ConfigError} {held : Environment}
      (hcause : firstRefusal? given held = some cause) :
      (loadConfig fs env arguments = .error (.config cause) ↔
        firstRefusal? given env = some cause) ∧
      (loadConfig fs other arguments = .error (.config cause) ↔
        firstRefusal? given other = some cause) := by
    obtain ⟨setting, value, hreads, rfl⟩ := exists_refusal_of_firstRefusal? hcause
    exact ⟨loadConfig_eq_refusal_iff hgiven hreads, loadConfig_eq_refusal_iff hother hreads⟩
  constructor
  · intro hsame
    cases hfirst : firstRefusal? given env with
    | some cause =>
        obtain ⟨hleft, hright⟩ := hrefused hfirst
        exact (hright.mp (hsame ▸ hleft.mpr hfirst)).symm
    | none =>
        cases hsecond : firstRefusal? given other with
        | none => rfl
        | some cause =>
            obtain ⟨hleft, hright⟩ := hrefused hsecond
            exact nomatch hfirst.symm.trans (hleft.mp (hsame ▸ hright.mpr hsecond))
  · intro hsame
    cases hfirst : firstRefusal? given env with
    | some cause =>
        obtain ⟨hleft, hright⟩ := hrefused hfirst
        exact (hleft.mpr hfirst).trans (hright.mpr (hsame ▸ hfirst)).symm
    | none =>
        have hnone := (Option.or_eq_none_iff.mp hfirst).1
        have hotherNone := (Option.or_eq_none_iff.mp (hsame ▸ hfirst)).1
        rw [loadConfig_of_given hgiven, loadConfig_of_given hother, hnone, hotherNone]
        simp only [Option.elim_none, ok_bind,
          overlay_asSaid_eq (hagree.decided_of_ofArguments hgiven)]

end AgreeBeyond

/-- The daemon does not start because the variable of a setting cannot be read. -/
def RefusedFor (fs : FileSystem) (arguments : List String) (env : Environment)
    (setting : Setting) : Prop :=
  ∃ value, env.value? setting = some value ∧ setting.reads value = false ∧
    loadConfig fs env arguments = .error (.config (setting.refusal value))

theorem refusedFor_of_firstFault? {fs : FileSystem} {env : Environment} {arguments : List String}
    {given : Given} (hgiven : Given.ofArguments env arguments = .ok given) {setting : Setting}
    {cause : ConfigError} (hfault : env.fault? setting = some cause)
    (hfirst : Config.firstFault? env = some cause) : RefusedFor fs arguments env setting := by
  obtain ⟨value, hvalue, hreads, rfl⟩ := Environment.fault?_eq_some hfault
  refine ⟨value, hvalue, hreads, (loadConfig_eq_refusal_iff hgiven hreads).mpr ?_⟩
  rw [firstRefusal?, hfirst, Option.some_or]

/-- With environments that differ only in variables whose options are given, the same comes of a
command line exactly if it is not understood or the first text that cannot be read is the same, if
there is one. Where the outcomes differ, one is the refusal of a variable whose option is given. -/
theorem loadConfig_eq_iff (fs : FileSystem) {arguments : List String} {env other : Environment}
    (hagree : AgreeBeyond arguments env other) :
    (loadConfig fs env arguments = loadConfig fs other arguments ↔
      ∀ given, Given.ofArguments env arguments = .ok given →
        firstRefusal? given env = firstRefusal? given other) ∧
    (loadConfig fs env arguments ≠ loadConfig fs other arguments →
      ∃ setting, Gives arguments setting ∧
        (RefusedFor fs arguments env setting ∨ RefusedFor fs arguments other setting)) := by
  have hsame := hagree.ofArguments_eq
  cases hgiven : Given.ofArguments env arguments with
  | error refusal =>
      have hequal : loadConfig fs env arguments = loadConfig fs other arguments := by
        rw [loadConfig, loadConfig, configure, configure, ← hsame, hgiven]
        rfl
      exact ⟨iff_of_true hequal nofun, absurd hequal⟩
  | ok given =>
      have hother : Given.ofArguments other arguments = .ok given := hsame.symm.trans hgiven
      have hiff := hagree.loadConfig_eq_iff_of_given fs hgiven
      refine ⟨⟨fun hequal _ hsaid => Except.ok.inj hsaid ▸ hiff.mp hequal,
        fun hall => hiff.mpr (hall given rfl)⟩, fun hdiffer => ?_⟩
      have hfaults (setting : Setting) (hgives : ¬ Gives arguments setting) :
          env.fault? setting = other.fault? setting :=
        Environment.fault?_congr (hagree.eq_of_not_gives hgives)
      obtain hfirst | ⟨setting, hgives, hstops⟩ := findSome?_eq_or hfaults Setting.refusable
      · refine absurd (hiff.mpr ?_) hdiffer
        rw [firstRefusal?, firstRefusal?, Config.firstFault?, Config.firstFault?, hfirst]
      · obtain ⟨cause, hfault, hfirst⟩ | ⟨cause, hfault, hfirst⟩ := hstops
        · exact ⟨setting, hgives, .inl (refusedFor_of_firstFault? hgiven hfault hfirst)⟩
        · exact ⟨setting, hgives, .inr (refusedFor_of_firstFault? hother hfault hfirst)⟩

/-- A command line for a chat service, with an option for the number of workers. -/
def twoWorkers : List String :=
  ["--workers", "2", "--backend=openai", "--api-key", "k", "--api-base", "http://x/",
    "--api-model", "m"]

/-- Only the variable for the number of workers is set. -/
def workersHeld (value : String) : Environment := fun key =>
  if key = Setting.workers.key then some value else none

theorem agreeBeyond_workersHeld (value other : String) :
    AgreeBeyond twoWorkers (workersHeld value) (workersHeld other) := by
  intro key hkey
  have hworkers : key ≠ Setting.workers.key :=
    (hkey .workers ⟨"workers", rfl, none, by decide +kernel⟩).symm
  rw [workersHeld, workersHeld, if_neg hworkers, if_neg hworkers]

theorem loadConfig_workersHeld_ne :
    loadConfig .empty (workersHeld "3") twoWorkers ≠
      loadConfig .empty (workersHeld "abc") twoWorkers := by
  have hthree : (loadConfig .empty (workersHeld "3") twoWorkers).toOption.isSome = true := rfl
  have hletters : (loadConfig .empty (workersHeld "abc") twoWorkers).toOption.isSome = false := rfl
  intro hsame
  rw [hsame, hletters] at hthree
  cases hthree

/-- The option goes before a variable that can be read, and not before one that cannot. -/
theorem loadConfig_eq_iff_of_workersHeld :
    (AgreeBeyond twoWorkers (workersHeld "3") (workersHeld "4") ∧
      loadConfig .empty (workersHeld "3") twoWorkers =
        loadConfig .empty (workersHeld "4") twoWorkers) ∧
    AgreeBeyond twoWorkers (workersHeld "3") (workersHeld "abc") ∧
      ∃ setting, Gives twoWorkers setting ∧
        (RefusedFor .empty twoWorkers (workersHeld "3") setting ∨
          RefusedFor .empty twoWorkers (workersHeld "abc") setting) := by
  have hfour := agreeBeyond_workersHeld "3" "4"
  have hletters := agreeBeyond_workersHeld "3" "abc"
  refine ⟨⟨hfour, (loadConfig_eq_iff .empty hfour).1.mpr fun given _ => ?_⟩, hletters,
    (loadConfig_eq_iff .empty hletters).2 loadConfig_workersHeld_ne⟩
  have hthree : Config.firstFault? (workersHeld "3") = none := rfl
  have hfour : Config.firstFault? (workersHeld "4") = none := rfl
  rw [firstRefusal?, firstRefusal?, hthree, hfour]

/-- Options do not always go before variables. -/
theorem not_forall_loadConfig_eq :
    ¬ ∀ (fs : FileSystem) (arguments : List String) (env other : Environment),
      AgreeBeyond arguments env other →
        loadConfig fs env arguments = loadConfig fs other arguments := by
  intro hall
  exact loadConfig_workersHeld_ne (hall _ _ _ _ (agreeBeyond_workersHeld _ _))

end FileChat.CommandLine
