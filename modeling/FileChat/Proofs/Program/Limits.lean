/-
# Numbers that a machine cannot follow

A number that fits a machine word is accepted wherever a length of time, the capacity of the queue
or the size of the context is to be given, but not each of them can be followed. The budget of
characters is capped, so it is always in range. The clock and the queue have limits that are tested
only when they are reached, and then the program has to give up. It gives up for no other reason.
-/

import FileChat.Program.Client
import FileChat.Program.Daemon
import FileChat.Proofs.Client.Session
import FileChat.Proofs.Files.Presence

namespace FileChat

open Program

theorem Clock.after?_eq_none_iff {now : Nat} {length : Duration} :
    Clock.after? now length = none ↔
      Clock.endSeconds ≤ (now + length.nanoseconds) / Duration.perSecond := by
  unfold Clock.after?
  simp only
  split
  · next hshown => exact iff_of_false nofun (Nat.not_le.mpr hshown)
  · next hbeyond => exact iff_of_true rfl (Nat.not_lt.mp hbeyond)

namespace Config

variable {config : Config} {fs : FileSystem} {start : Nat}

theorem awaitMount_eq_beyondClock_iff {files : Nat → FileSystem} :
    config.awaitMount files start = .error .beyondClock ↔
      Clock.after? start config.mountWait = none := by
  rw [awaitMount]
  cases Clock.after? start config.mountWait with
  | none => simp
  | some moment =>
      refine iff_of_false ?_ nofun
      dsimp only
      split <;> nofun

/-- The directory is made ready without another look at the clock. -/
theorem prepare_eq_beyondClock_iff :
    (config.prepare fs start).2 = .error .beyondClock ↔
      Clock.endSeconds ≤ (start + config.mountWait.nanoseconds) / Duration.perSecond := by
  have hwait : config.awaitMount (fun _ => fs) start = .error .beyondClock ↔ _ :=
    awaitMount_eq_beyondClock_iff
  rw [← Clock.after?_eq_none_iff, ← hwait, prepare]
  cases config.awaitMount (fun _ => fs) start with
  | error e => simp
  | ok _ =>
      refine iff_of_false ?_ nofun
      dsimp only
      split
      · nofun
      · dsimp only
        cases (Session.recoverStale _ config.directory).2 <;> nofun

/-- The directory and the backend of a daemon that starts at some moment can be made ready. -/
def IsReady (config : Config) (search : List Path) (fs : FileSystem) (host : Http.Host)
    (start : Nat) : Prop :=
  ∃ recovered backend, (config.prepare fs start).2 = .ok recovered ∧
    (config.load (config.prepare fs start).1 search host).1 = .ok backend

/-- A queue that was checked can be too large to be made, but not too small. -/
theorem queueCapacity_ne_zero (hcheck : config.check fs = .ok ()) : config.queueCapacity ≠ 0 := by
  intro hzero
  unfold check at hcheck
  rw [if_pos hzero] at hcheck
  split at hcheck
  · cases hcheck
  · split at hcheck <;> cases hcheck

end Config

namespace Program

variable {config : Config} {fs : FileSystem} {search : List Path} {host : Http.Host}
variable {σ : Type} {env : Client.Surroundings σ} {environment : Environment}
variable {arguments : List String} {freshId : String} {s : σ} {start : Nat}
variable {invocation : CommandLine.Invocation}

/-- Once a daemon has its backend it gives up only for the size of its queue. -/
theorem code_serve_eq_abortCode_iff {backend : Backend Http.Host} {world : World Http.Host}
    (hcapacity : config.queueCapacity ≠ 0) :
    (serve config backend world).2.code = abortCode ↔
      Daemon.maxCapacity < config.queueCapacity := by
  unfold serve Daemon.start
  by_cases hlarge : Daemon.maxCapacity < config.queueCapacity
  · refine iff_of_true ?_ hlarge
    rw [if_pos (by simp [hlarge])]
    rfl
  · refine iff_of_false ?_ hlarge
    rw [if_neg (by simp [hcapacity, hlarge])]
    cases (Daemon.subscribed config world).list with
    | error cause => exact nofun
    | ok daemon =>
        dsimp only [Except.mapError]
        split <;> exact nofun

theorem code_runConfigured_eq_abortCode_iff (hcheck : config.check fs = .ok ()) :
    (runConfigured config search fs host start).2.code = abortCode ↔
      Clock.endSeconds ≤ (start + config.mountWait.nanoseconds) / Duration.perSecond ∨
        config.IsReady search fs host start ∧ Daemon.maxCapacity < config.queueCapacity := by
  have hprepare : (config.prepare fs start).2 = .error .beyondClock ↔ _ :=
    Config.prepare_eq_beyondClock_iff
  rw [← hprepare]
  unfold runConfigured Config.IsReady
  obtain ⟨files, prepared⟩ := config.prepare fs start
  cases prepared with
  | error e => cases e <;> simp [failed, aborted, Finish.code, abortCode]
  | ok recovered =>
      dsimp only
      obtain ⟨loaded, later⟩ := config.load files search host
      cases loaded with
      | error e => simp [failed, Finish.code, abortCode]
      | ok backend =>
          simp [code_serve_eq_abortCode_iff (Config.queueCapacity_ne_zero hcheck)]

/-- A client streams a message: it has written the turn, and this is the moment from which it
counts. -/
def StreamsFrom (env : Client.Surroundings σ) (freshId : String)
    (invocation : CommandLine.Invocation) (s : σ) (moment : Nat) : Prop :=
  ∃ id words opened session written offset, invocation.errand = .stream id words ∧
    Client.Session.openIn env (id.getD freshId) invocation.directory invocation.options s =
      (opened, .ok session) ∧
    session.appendTurn (env.files opened) (" ".intercalate words) = .ok (written, offset) ∧
    moment = env.now (env.wrote session.path written opened)

/-- A session that was opened waits as its client was told to. -/
theorem options_of_openIn {id : String} {directory : Path} {options : Client.Options} {opened : σ}
    {session : Client.Session}
    (hopen : Client.Session.openIn env id directory options s = (opened, .ok session)) :
    session.options = options := by
  unfold Client.Session.openIn at hopen
  cases hcreate : Client.Session.openOrCreate (env.files s) id directory options with
  | mk files result =>
      rw [hcreate] at hopen
      cases result with
      | error e => cases hopen
      | ok created =>
          cases hopen
          unfold Client.Session.openOrCreate Client.Session.at? at hcreate
          split at hcreate
          · cases hcreate
          · next hnamed =>
              split at hcreate
              · cases hcreate
              · split at hcreate
                · cases hcreate
                · cases hcreate
                  split at hnamed <;> cases hnamed
                  rfl

/-- A stream whose turn was written has to name its deadline. -/
theorem code_stream_eq_abortCode_iff {message : String} {session : Client.Session} :
    (stream env message session s).2.code = abortCode ↔
      ∃ written offset, session.appendTurn (env.files s) message = .ok (written, offset) ∧
        Clock.endSeconds ≤ (env.now (env.wrote session.path written s) +
          session.options.timeout.nanoseconds) / Duration.perSecond := by
  unfold stream Client.Session.stream
  cases hturn : session.appendTurn (env.files s) message with
  | error e => exact iff_of_false nofun (by simp)
  | ok turn =>
      obtain ⟨written, offset⟩ := turn
      dsimp only [Option.getD_none]
      cases hafter : Clock.after? (env.now (env.wrote session.path written s))
        session.options.timeout with
      | none =>
          exact iff_of_true rfl ⟨written, offset, rfl, Clock.after?_eq_none_iff.mp hafter⟩
      | some deadline =>
          refine iff_of_false ?_ ?_
          · dsimp only
            split <;> exact nofun
          · rintro ⟨_, _, hsame, hbeyond⟩
            cases hsame
            exact nomatch hafter.symm.trans (Clock.after?_eq_none_iff.mpr hbeyond)

/-- The deadline of a stream is the only moment that a client has to name. -/
theorem code_perform_eq_abortCode_iff :
    (perform env freshId invocation s).2.code = abortCode ↔
      ∃ moment, StreamsFrom env freshId invocation s moment ∧
        Clock.endSeconds ≤
          (moment + invocation.options.timeout.nanoseconds) / Duration.perSecond := by
  unfold perform StreamsFrom
  cases herrand : invocation.errand with
  | send id words =>
      refine iff_of_false ?_ (by simp)
      unfold inSession send sendFinish
      dsimp only
      split
      · exact nofun
      · dsimp only
        split
        · dsimp only [Finish.code]
          split <;> exact nofun
        · exact nofun
  | read id =>
      refine iff_of_false ?_ (by simp)
      unfold read
      dsimp only
      split <;> exact nofun
  | delete id =>
      refine iff_of_false ?_ (by simp)
      unfold delete
      dsimp only
      split
      · exact nofun
      · split <;> exact nofun
  | stream id words =>
      dsimp only
      unfold inSession
      cases hopen : Client.Session.openIn env (id.getD freshId) invocation.directory
        invocation.options s with
      | mk opened result =>
          cases result with
          | error e =>
              refine iff_of_false nofun ?_
              rintro ⟨_, ⟨_, _, _, _, _, _, hsame, hopened, -⟩, -⟩
              cases hsame
              exact nomatch hopen.symm.trans hopened
          | ok session =>
              dsimp only
              rw [code_stream_eq_abortCode_iff, options_of_openIn hopen]
              constructor
              · rintro ⟨written, offset, hturn, hbeyond⟩
                exact ⟨_, ⟨id, words, opened, session, written, offset, rfl, hopen, hturn, rfl⟩,
                  hbeyond⟩
              · rintro ⟨_, ⟨_, _, _, _, written, offset, hsame, hopened, hturn, rfl⟩, hbeyond⟩
                cases hsame
                cases hopen.symm.trans hopened
                exact ⟨written, offset, hturn, hbeyond⟩

/-- The steps of a daemon and of a client at which a number that was accepted can be too large, and
what comes of it. Whenever the daemon starts, it gives up exactly if the clock does not show the end
of its wait for the mount, or if everything is ready and no queue of its capacity can be made. The
client gives up exactly if it has written the turn of a stream and the clock does not show the
deadline. The budget of characters is a machine word. -/
theorem code_eq_abortCode_iff (hcheck : config.check fs = .ok ())
    (hclient : CommandLine.Invocation.ofArguments environment arguments = .ok invocation) :
    (∀ now, Clock.after? now config.mountWait = none ↔
      Clock.endSeconds ≤ (now + config.mountWait.nanoseconds) / Duration.perSecond) ∧
    (∀ start, (runConfigured config search fs host start).2.code = abortCode ↔
      Clock.endSeconds ≤ (start + config.mountWait.nanoseconds) / Duration.perSecond ∨
        config.IsReady search fs host start ∧ Daemon.maxCapacity < config.queueCapacity) ∧
    ((runClient env environment arguments freshId s).2.code = abortCode ↔
      ∃ moment, StreamsFrom env freshId invocation s moment ∧
        Clock.endSeconds ≤
          (moment + invocation.options.timeout.nanoseconds) / Duration.perSecond) ∧
    config.contextChars ≤ Config.maxWord := by
  refine ⟨fun _ => Clock.after?_eq_none_iff,
    fun _ => code_runConfigured_eq_abortCode_iff hcheck, ?_, Nat.min_le_right _ _⟩
  rw [runClient, hclient]
  exact code_perform_eq_abortCode_iff

/-- The largest number for a setting, in an environment for a daemon that uses a chat service. -/
def greatest (setting : Setting) : Environment := fun key =>
  [(setting.key, "18446744073709551615"), (Setting.mount.key, "/"),
    (Setting.subdirectory.key, "s"), (Setting.backend.key, "openai"), (Setting.apiKey.key, "k"),
    (Setting.apiBase.key, "http://x"), (Setting.apiModel.key, "m")].lookup key

/-- The configuration of such an environment. -/
def greatestConfig (queueCapacity : Nat) (mountWait : Duration) : Config :=
  { Config.standard with
    mount := "/"
    subdirectory := "s"
    backend := .chatService
    queueCapacity, mountWait
    chatService := ⟨"k", "http://x", "m"⟩ }

/-- A host that nobody has asked yet. -/
def idleHost : Http.Host := ⟨0, [], [], [], none⟩

/-- The daemon finds its directory with nothing to clear in it. -/
theorem isReady_greatestConfig (queueCapacity : Nat) :
    (greatestConfig queueCapacity Config.standard.mountWait).IsReady [] (FileSystem.withFile "a" [])
      idleHost 0 := by
  have hroot : (FileSystem.withFile "a" []).Opens "/" [] :=
    FileSystem.follow_eq_ok.mpr ⟨by decide, by decide, by decide,
      FileSystem.Leads.walk_eq (.stay (.inl rfl) .here)⟩
  have hawait : (greatestConfig queueCapacity Config.standard.mountWait).awaitMount
      (fun _ => FileSystem.withFile "a" []) 0 = .ok () := by
    have hshown : Clock.after? 0 Config.standard.mountWait = some 30000000000 := rfl
    simp only [Config.awaitMount, Config.lookForMount, greatestConfig, hshown,
      hroot.isDirectory_eq]
    rw [Mount.await, if_pos rfl, if_pos rfl]
  have hnames : Session.names (FileSystem.withFile "a" []) "/s" = .ok ["a"] := by
    rw [Session.names, (FileSystem.holds_withFile "a" []).list_eq, FileSystem.names_withFile]
    rfl
  have hdirectory : (greatestConfig queueCapacity Config.standard.mountWait).directory = "/s" := by
    show Path.join "/" "s" = "/s"
    decide
  have hrecover : Session.recoverStale (FileSystem.withFile "a" []) "/s" =
      (FileSystem.withFile "a" [], .ok (Session.sorted [])) := by
    rw [Session.recoverStale, hnames]
    rfl
  have hprepare : (greatestConfig queueCapacity Config.standard.mountWait).prepare
      (FileSystem.withFile "a" []) = (FileSystem.withFile "a" [], .ok (Session.sorted [])) := by
    rw [Config.prepare, hawait, hdirectory,
      (FileSystem.holds_withFile "a" []).opens.createDirectories_eq]
    dsimp only
    rw [hrecover]
    rfl
  exact ⟨_, Chat.backend _, by rw [hprepare], rfl⟩

/-- A client that would wait almost without end. -/
def patientArguments : List String :=
  ["--sessions-dir", "/s", "--timeout-secs", "18446744073709551615", "stream", "--session", "a",
    "hi"]

/-- How such a client waits. -/
def patientOptions : Client.Options := ⟨.ofMilliseconds 100, .ofSeconds 18446744073709551615⟩

/-- Such a client writes its turn. -/
theorem streamsFrom_patientOptions :
    StreamsFrom Client.Scene.surroundings "b" ⟨"/s", patientOptions, .stream (some "a") ["hi"]⟩
      (.still (FileSystem.withFile "a" [])) 0 := by
  have hfinds : Session.Finds "/s" ["s"] "a" (FileSystem.withFile "a" (Utf8.encode "")) "" :=
    .withFile ⟨by decide, by decide⟩ (by decide) ""
  have hopen : Client.Session.openIn Client.Scene.surroundings "a" "/s" patientOptions
      (.still (FileSystem.withFile "a" [])) =
        (.still (FileSystem.withFile "a" []),
          .ok ⟨"a", "/s/a", "/s/.generating.a", patientOptions⟩) := by
    have hat : Client.Session.at? "a" "/s" patientOptions =
        .ok ⟨"a", "/s/a", "/s/.generating.a", patientOptions⟩ := rfl
    have happend : (FileSystem.withFile "a" []).appendOrCreate "/s/a" [] =
        .ok (FileSystem.withFile "a" []) :=
      (hfinds.holds.openOrCreate_join hfinds.session.isName).mpr
        ⟨by decide, .inr ⟨[], false, FileSystem.get?_withFile "a" [] "a", rfl⟩⟩
    have hcreate : Client.Session.openOrCreate (FileSystem.withFile "a" []) "a" "/s"
        patientOptions = (FileSystem.withFile "a" [],
          .ok ⟨"a", "/s/a", "/s/.generating.a", patientOptions⟩) := by
      have hthere := (FileSystem.holds_withFile "a" []).opens.createDirectories_eq
      simp only [Client.Session.openOrCreate, hat, hthere, happend]
    unfold Client.Session.openIn
    simp only [Client.Scene.surroundings, Client.Scene.still, hcreate]
    rfl
  have hmessage : Client.Session.isSingleLine "hi" = true := by decide
  obtain ⟨after, size, hturn⟩ : ∃ after size, Client.Session.appendTurn
      (FileSystem.withFile "a" []) ⟨"a", "/s/a", "/s/.generating.a", patientOptions⟩ "hi" =
        .ok (after, size) := Client.Session.exists_appendTurn hfinds rfl hmessage
  exact ⟨_, _, _, _, _, _, rfl, hopen, hturn, rfl⟩

/-- The largest numbers are too large for the wait, for the queue and for a stream. -/
theorem code_eq_abortCode_of_greatest :
    (∃ config, Config.ofEnvironment (greatest .mountWait) = .ok config ∧
      config.check .empty = .ok () ∧
      (runConfigured config [] .empty idleHost).2.code = abortCode) ∧
    (∃ config, Config.ofEnvironment (greatest .queueCapacity) = .ok config ∧
      config.check (FileSystem.withFile "a" []) = .ok () ∧
      (runConfigured config [] (FileSystem.withFile "a" []) idleHost).2.code = abortCode) ∧
    ∃ invocation,
      CommandLine.Invocation.ofArguments (fun _ => none) patientArguments = .ok invocation ∧
        (runClient Client.Scene.surroundings (fun _ => none) patientArguments "b"
          (.still (FileSystem.withFile "a" []))).2.code = abortCode := by
  have hmount : Config.ofEnvironment (greatest .mountWait) =
      .ok (greatestConfig 64 (.ofSeconds 18446744073709551615)) := rfl
  have hcapacity : Config.ofEnvironment (greatest .queueCapacity) =
      .ok (greatestConfig 18446744073709551615 Config.standard.mountWait) := rfl
  have hclient : CommandLine.Invocation.ofArguments (fun _ => none) patientArguments =
      .ok ⟨"/s", patientOptions, .stream (some "a") ["hi"]⟩ := rfl
  have hboth {config : Config} {fs : FileSystem} (hcheck : config.check fs = .ok ()) :=
    @code_eq_abortCode_iff config fs [] idleHost _ Client.Scene.surroundings _ _ "b"
      (.still (FileSystem.withFile "a" [])) _ hcheck hclient
  refine ⟨⟨_, hmount, rfl, ?_⟩, ⟨_, hcapacity, rfl, ?_⟩, _, hclient, ?_⟩
  · exact ((hboth rfl).2.1 0).mpr (.inl (by decide))
  · exact ((hboth rfl).2.1 0).mpr (.inr ⟨isReady_greatestConfig _, by decide⟩)
  · have hcheck : (greatestConfig 64 Config.standard.mountWait).check .empty = .ok () := rfl
    exact (hboth hcheck).2.2.1.mpr ⟨0, streamsFrom_patientOptions, by decide⟩

/-- Not every number that is accepted can be followed. -/
theorem not_forall_code_ne_abortCode :
    ¬ ∀ (environment : Environment) (config : Config) (search : List Path) (fs : FileSystem)
      (host : Http.Host), Config.ofEnvironment environment = .ok config →
        config.check fs = .ok () → (runConfigured config search fs host).2.code ≠ abortCode := by
  intro hall
  have hmount : Config.ofEnvironment (greatest .mountWait) =
      .ok (greatestConfig 64 (.ofSeconds 18446744073709551615)) := rfl
  exact hall _ _ [] .empty idleHost hmount rfl
    ((code_runConfigured_eq_abortCode_iff rfl).mpr (.inl (by decide)))

end Program

end FileChat
