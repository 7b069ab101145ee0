/-
# Room for a sentinel

A client may choose any visible name for a session, and the file system lets it have every name that
is not too long. The sentinel of the session has a longer name, which nobody has tried when the
session is opened. So there are sessions that can be opened and written to and that no worker can
mark, and a session that cannot be marked is told so, turn after turn, whatever the backend would
say.
-/

import FileChat.Proofs.Client.Session
import FileChat.Proofs.Files.Presence
import FileChat.Proofs.Session.Sentinel
import FileChat.Proofs.Worker.Settled

namespace FileChat

open FileSystem Conversation

/-- The backend has a reply for every call. -/
def Backend.Succeeds {σ : Type} (b : Backend σ) : Prop :=
  ∀ call w, ∃ said, (b.ask call w).1 = .reply said

theorem Backend.Succeeds.isSteady {σ : Type} {b : Backend σ} (h : b.Succeeds) : b.IsSteady := by
  intro call w hcrash
  obtain ⟨said, hsaid⟩ := h call w
  rw [hsaid] at hcrash
  cases hcrash

/-- A rehearsal that always says the same succeeds. -/
theorem DryRun.succeeds_backend (directory : Path) (said : String) :
    (DryRun.backend directory (.fixed said) []).Succeeds := fun _ _ => ⟨said, rfl⟩

namespace Client.Session

open FileChat.Session (Finds IsSessionName sentinelName isSessionName_of_isValidId)

variable {fs ready written : FileSystem} {directory : Path} {place : Location}
variable {id message : String} {options : Options} {session : Session} {size : Nat}

/-- Nothing is in the directory but one session, and nothing in the session. -/
structure IsFresh (directory : Path) (place : Location) (id : String) (fs : FileSystem) :
    Prop where
  holds : fs.Holds directory place
  eq_of_get? {name : String} : fs.get? (place ++ [name]) ≠ none → name = id
  exists_file : ∃ executable, fs.get? (place ++ [id]) = some (.file [] executable)

theorem holds_of_free (hopens : fs.Opens directory place)
    (hfree : ∀ name, fs.get? (place ++ [name]) = none) : fs.Holds directory place where
  opens := hopens
  noLink name target hlink := by
    rw [hfree] at hlink
    cases hlink

/-- To open a session is to make its directory and its file, if they are not there. -/
theorem of_openOrCreate_eq_ok
    (hopen : openOrCreate fs id directory options = (ready, .ok session)) :
    at? id directory options = .ok session ∧ ∃ created,
      fs.createDirectories directory = (created, .ok ()) ∧
        created.appendOrCreate session.path [] = .ok ready := by
  unfold openOrCreate at hopen
  cases hat : at? id directory options with
  | error e =>
      rw [hat] at hopen
      cases hopen
  | ok known =>
      rw [hat] at hopen
      dsimp only at hopen
      split at hopen
      · cases hopen
      · next created hcreated =>
          split at hopen
          · cases hopen
          · next after hdone =>
              cases hopen
              exact ⟨rfl, created, hcreated, hdone⟩

/-- A session that was opened in an empty directory is all that is there. -/
theorem isFresh_of_openOrCreate (hopens : fs.Opens directory place)
    (hfree : ∀ name, fs.get? (place ++ [name]) = none)
    (hopen : openOrCreate fs id directory options = (ready, .ok session)) :
    IsFresh directory place id ready := by
  have hholds := holds_of_free hopens hfree
  obtain ⟨hat, created, hcreated, hdone⟩ := of_openOrCreate_eq_ok hopen
  obtain ⟨hid, hpath⟩ := of_at?_eq_ok hat
  rw [hopens.createDirectories_eq] at hcreated
  obtain ⟨rfl, -⟩ := Prod.mk.inj hcreated
  rw [hpath] at hdone
  obtain ⟨-, ⟨-, hready⟩ | ⟨bytes, executable, hfile, -⟩⟩ :=
    (hholds.openOrCreate_join hid.isName).mp hdone
  · obtain rfl : ready = fs.put (place ++ [id]) (.file [] false) := hready
    have hdiff : DiffersAt (place ++ [id]) fs (fs.put (place ++ [id]) (.file [] false)) :=
      .put (by simp) (fun _ hentry => by simp [hfree] at hentry) [] false
    refine ⟨hdiff.holds hholds, fun {name} hthere => ?_, false, get?_put_self _ (by simp) _⟩
    by_contra hne
    rw [hdiff.get?_of_ne (by simpa using hne), hfree] at hthere
    exact hthere rfl
  · rw [hfree] at hfile
    cases hfile

/-- In an empty directory every name can be opened that is visible and not too long. -/
theorem exists_openOrCreate (hopens : fs.Opens directory place)
    (hfree : ∀ name, fs.get? (place ++ [name]) = none)
    (hvalid : FileChat.Session.isValidId id = true) (herror : nameError? directory id = none) :
    ∃ ready session, openOrCreate fs id directory options = (ready, .ok session) := by
  have hid := isSessionName_of_isValidId hvalid
  have hdone : fs.appendOrCreate (Path.join directory id) [] = .ok _ :=
    ((holds_of_free hopens hfree).openOrCreate_join hid.isName).mpr
      ⟨herror, .inl ⟨hfree id, rfl⟩⟩
  unfold openOrCreate at?
  rw [if_pos hvalid, hopens.createDirectories_eq]
  dsimp only
  rw [hdone]
  exact ⟨_, _, rfl⟩

/-- Nothing is read from a new session. -/
theorem IsFresh.finds (h : IsFresh directory place id ready) (hid : IsSessionName id)
    (herror : nameError? directory id = none) : Finds directory place id ready "" := by
  obtain ⟨executable, hfile⟩ := h.exists_file
  exact ⟨h.holds, hid, (h.holds.readText_join hid.isName).mpr
    ⟨herror, [], executable, hfile, Utf8.decode_encode ""⟩⟩

/-- The first turn of a session is all that is in it, and the session has no sentinel. -/
theorem IsFresh.finds_of_appendTurn (h : IsFresh directory place id ready)
    (hid : IsSessionName id) (hpath : session.path = Path.join directory id)
    (hturn : session.appendTurn ready message = .ok (written, size)) :
    Finds directory place id written (userLine message) ∧
      written.get? (place ++ [sentinelName id]) = none := by
  obtain ⟨herror, -⟩ := length_of_appendTurn_eq_ok h.holds hid hpath hturn
  obtain ⟨-, hgrows⟩ := of_appendTurn_eq_ok h.holds hid hpath hturn
  have hfinds := (h.finds hid herror).of_grows hgrows
  rw [String.empty_append] at hfinds
  refine ⟨hfinds, ?_⟩
  rw [hgrows.get?_of_ne (FileChat.Session.spot_ne_sentinel place hid id).symm]
  by_contra hthere
  exact hid.ne_sentinelName id (h.eq_of_get? hthere).symm

end Client.Session

namespace Worker

open Session
open Client.Session (IsFresh openOrCreate appendTurn)

variable {σ : Type} {g : Generator σ} {place : Location} {id message : String}
variable {fs ready written : FileSystem} {options : Client.Options} {session : Client.Session}
variable {size : Nat} {w : World σ}

/-- Where there is no room for the sentinel the user is told so, and where there is, what the
backend says is written. -/
theorem Writes.of_room {text reply : String} {outcome : Outcome}
    (h : Writes g id text w reply outcome) (hfinds : Finds g.directory place id w.files text)
    (hfree : w.files.get? (place ++ [sentinelName id]) = none) (hsucceeds : g.backend.Succeeds) :
    (outcome = .replied ↔ HasRoom g.directory id) ∧
    (HasRoom g.directory id → ∃ marked,
      createSentinel w.files g.directory id = .ok marked ∧
        (g.backend.ask (g.callFor text)
          (w.written (sentinelPath g.directory id) marked)).1 = .reply reply) ∧
    (¬ HasRoom g.directory id → outcome = .errorReply ∧
      reply = excuse ⟨.createSentinel, sentinelPath g.directory id, .nameTooLong⟩) := by
  obtain ⟨herror, -⟩ := (hfinds.holds.readText_join hfinds.session.isName).mp hfinds.read
  have hcreate := createSentinel_eq hfinds.holds hfinds.session.isName.toIsStep herror hfree
  cases h with
  | @unmarked cause hmark =>
      have hnone : ¬ HasRoom g.directory id := fun hroom => by
        rw [hcreate, if_pos hroom] at hmark
        cases hmark
      rw [hcreate, if_neg hnone] at hmark
      obtain rfl := Except.error.inj hmark
      exact ⟨iff_of_false nofun hnone, fun hroom => absurd hroom hnone, fun _ => ⟨rfl, rfl⟩⟩
  | @asked marked reply outcome hmark hturn =>
      have hroom : HasRoom g.directory id := by
        by_contra hnone
        rw [hcreate, if_neg hnone] at hmark
        cases hmark
      obtain ⟨said, hsaid⟩ := hsucceeds (g.callFor text)
        (w.written (sentinelPath g.directory id) marked)
      rw [hsaid] at hturn
      obtain ⟨rfl, rfl⟩ := Prod.mk.inj (Option.some.inj hturn)
      exact ⟨iff_of_true rfl hroom, fun _ => ⟨marked, hmark, hsaid⟩,
        fun hnone => absurd hroom hnone⟩

/-- A client opens a session in a directory that is empty otherwise and writes a turn, and a worker
takes the session up with a backend that has a reply for everything. The turn is answered with what
the backend says exactly if the name of the session, with the mark of a sentinel before it, is no
longer than a name can be, and its path no longer than a path can be. If it is longer the backend is
not asked, and the user is told that there could be no sentinel. -/
theorem process_opened (hopen : openOrCreate fs id g.directory options = (ready, .ok session))
    (hfresh : IsFresh g.directory place id ready)
    (hturn : session.appendTurn ready message = .ok (written, size))
    (hsilent : g.backend.IsSilent) (hsucceeds : g.backend.Succeeds) (hfiles : w.files = written) :
    ∃ outcome reply after,
      g.process (itemOf g.directory id) w = (some (.ok outcome), after) ∧
      after.files.readText (Path.join g.directory id) =
        .ok (userLine message ++ assistantLine reply) ∧
      (outcome = .replied ↔
        sentinelMark.utf8ByteSize + id.utf8ByteSize ≤ maxNameBytes ∧
          (sentinelPath g.directory id).utf8ByteSize ≤ maxPathBytes) ∧
      (outcome = .replied → ∃ marked,
        createSentinel written g.directory id = .ok marked ∧
          (g.backend.ask (g.callFor (userLine message))
            (w.written (sentinelPath g.directory id) marked)).1 = .reply reply) ∧
      (outcome ≠ .replied → outcome = .errorReply ∧
        reply = excuse ⟨.createSentinel, sentinelPath g.directory id, .nameTooLong⟩) := by
  subst hfiles
  obtain ⟨hid, hpath⟩ :=
    Client.Session.of_at?_eq_ok (Client.Session.of_openOrCreate_eq_ok hopen).1
  obtain ⟨hfinds, hfree⟩ := hfresh.finds_of_appendTurn hid hpath hturn
  have howed := Client.Session.needsResponse_userLine (Client.Session.appendTurn_eq_ok.mp hturn).1
  obtain ⟨reply, outcome, after, hwrites, hprocess, hafter⟩ :=
    exists_process_writes hfinds hsilent hsucceeds.isSteady howed
  obtain ⟨hroom, hasked, hexcused⟩ := hwrites.of_room hfinds hfree hsucceeds
  exact ⟨outcome, reply, after, hprocess, hafter.read, hroom, fun hreplied => hasked
    (hroom.mp hreplied), fun hother => hexcused (mt hroom.mpr hother)⟩

/-- A tree with a directory that has nothing in it. -/
def bare : FileSystem := (withFile "a" []).erase ["s", "a"]

theorem get?_bare (name : String) : bare.get? (["s"] ++ [name]) = none := by
  rw [bare, get?_erase _ (by simp)]
  split
  · rfl
  · next hne =>
      rw [get?_withFile, if_neg (by simpa using hne)]

theorem opens_bare : bare.Opens "/s" ["s"] := by
  have hfile : (withFile "a" []).get? ["s", "a"] = some (.file [] false) :=
    get?_withFile "a" [] "a"
  exact ((DiffersAt.erase (by simp) hfile).holds (holds_withFile "a" [])).opens

/-- A client opens a session there and writes a turn. -/
theorem exists_written (options : Client.Options) (hvalid : isValidId id = true)
    (herror : nameError? "/s" id = none)
    (hmessage : Client.Session.isSingleLine message = true) : ∃ ready session written size,
    openOrCreate bare id "/s" options = (ready, .ok session) ∧ IsFresh "/s" ["s"] id ready ∧
      session.appendTurn ready message = .ok (written, size) := by
  obtain ⟨ready, session, hopen⟩ : ∃ ready session,
      openOrCreate bare id "/s" options = (ready, .ok session) :=
    Client.Session.exists_openOrCreate opens_bare get?_bare hvalid herror
  have hfresh := Client.Session.isFresh_of_openOrCreate opens_bare get?_bare hopen
  obtain ⟨hid, hpath⟩ :=
    Client.Session.of_at?_eq_ok (Client.Session.of_openOrCreate_eq_ok hopen).1
  obtain ⟨written, size, hturn⟩ :=
    Client.Session.exists_appendTurn (hfresh.finds hid herror) hpath hmessage
  exact ⟨ready, session, written, size, hopen, hfresh, hturn⟩

/-- With a short name the turn is answered. -/
theorem process_opened_of_short_name : ∃ ready session written size after,
    openOrCreate bare "a" "/s" .standard = (ready, .ok session) ∧
      session.appendTurn ready "hi" = .ok (written, size) ∧
      (rehearsal (.fixed "Hello.")).process (itemOf "/s" "a") (.start written []) =
        (some (.ok .replied), after) ∧
      after.files.readText (Path.join "/s" "a") = .ok "User: hi\nAssistant: Hello.\n" := by
  obtain ⟨ready, session, written, size, hopen, hfresh, hturn⟩ :=
    exists_written .standard (by decide : isValidId "a" = true) (by decide)
      (by decide : Client.Session.isSingleLine "hi" = true)
  obtain ⟨outcome, reply, after, hprocess, hread, hroom, hasked, -⟩ :=
    process_opened (g := rehearsal (.fixed "Hello.")) (w := .start written []) hopen hfresh hturn
      (DryRun.isSilent_backend _ _) (DryRun.succeeds_backend _ _) rfl
  have hreplied := hroom.mpr (by decide)
  obtain ⟨marked, -, hsaid⟩ := hasked hreplied
  obtain rfl : "Hello." = reply := Answer.reply.inj hsaid
  have hlines : userLine "hi" ++ assistantLine "Hello." = "User: hi\nAssistant: Hello.\n" := by
    decide
  rw [hreplied] at hprocess
  rw [hlines] at hread
  exact ⟨ready, session, written, size, after, hopen, hturn, hprocess, hread⟩

/-- A name of 61 characters and 244 bytes. -/
def longName : String := String.ofList (List.replicate 61 '🙂')

theorem toList_longName : longName.toList = List.replicate 61 '🙂' := String.toList_ofList

theorem utf8ByteSize_replicate (n : Nat) (c : Char) :
    (String.ofList (List.replicate n c)).utf8ByteSize = n * c.utf8Size := by
  induction n with
  | zero => simp
  | succ n ih =>
      rw [List.replicate_succ', String.ofList_append, String.utf8ByteSize_append, ih, Nat.succ_mul]
      simp

theorem utf8ByteSize_longName : longName.utf8ByteSize = 244 :=
  (utf8ByteSize_replicate 61 '🙂').trans (by decide)

/-- A client takes such a name. -/
theorem isValidId_longName : isValidId longName = true := by
  have hsome : longName.isEmpty = false := by
    rw [← Bool.not_eq_true, String.isEmpty_iff]
    intro hempty
    have hlength := congrArg List.length toList_longName
    simp [hempty] at hlength
  have hvisible : isHiddenName longName = false := by
    rw [isHiddenName, hsome, toList_longName, List.head?_replicate, if_neg (by decide)]
    decide
  have hplain : (longName.toList.any fun c => c = '/' || c = '\\') = false := by
    rw [toList_longName, List.any_replicate]
    decide
  rw [isValidId, hvisible, hplain]
  rfl

/-- A file can have such a name. -/
theorem nameError?_longName : nameError? "/s" longName = none := by
  have hjoin : Path.join "/s" longName = "/s/" ++ longName := by
    have hslash : "/s" ++ "/" = "/s/" := by decide
    rw [Path.join, Path.isAbsolute, toList_longName, List.head?_replicate, if_neg (by decide),
      if_neg (by decide), hslash]
  rw [nameError?_eq_none_iff, hjoin, String.utf8ByteSize_append, utf8ByteSize_longName]
  refine ⟨?_, by decide, by decide⟩
  simp [toList_longName]

/-- Not every session that can be opened and written to is answered. -/
theorem not_forall_replied : ¬ ∀ (id message : String) (options : Client.Options)
    (ready written : FileSystem) (session : Client.Session) (size : Nat),
    openOrCreate bare id "/s" options = (ready, .ok session) →
      session.appendTurn ready message = .ok (written, size) →
        ∃ after, (rehearsal (.fixed "Hello.")).process (itemOf "/s" id) (.start written []) =
          (some (.ok .replied), after) := by
  intro hall
  obtain ⟨ready, session, written, size, hopen, hfresh, hturn⟩ :=
    exists_written .standard isValidId_longName nameError?_longName
      (by decide : Client.Session.isSingleLine "hi" = true)
  obtain ⟨after, hreplied⟩ := hall _ _ _ _ _ _ _ hopen hturn
  obtain ⟨hid, hpath⟩ :=
    Client.Session.of_at?_eq_ok (Client.Session.of_openOrCreate_eq_ok hopen).1
  obtain ⟨hfinds, hfree⟩ := hfresh.finds_of_appendTurn hid hpath hturn
  obtain ⟨reply, outcome, other, hwrites, hprocess, -⟩ :=
    exists_process_writes (g := rehearsal (.fixed "Hello.")) (w := .start written []) hfinds
      (DryRun.isSilent_backend _ _) (DryRun.isSteady_backend _ (by decide) _) (by decide)
  have hsame := hprocess.symm.trans hreplied
  obtain rfl : outcome = .replied := by simpa using congrArg Prod.fst hsame
  have hroom := (hwrites.of_room hfinds hfree (DryRun.succeeds_backend _ _)).1.mp rfl
  have hfits : sentinelMark.utf8ByteSize + 244 ≤ maxNameBytes := utf8ByteSize_longName ▸ hroom.1
  exact absurd hfits (by decide)

end Worker

end FileChat
