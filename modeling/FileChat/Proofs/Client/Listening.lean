/-
# What a stream delivers

A client writes a turn and yields what comes after it, look by look. Each look measures the
file first and looks for the sentinel last, and the worker that answers may append its reply and
take the sentinel away in between. A stream that ends by itself ends behind a reply, and it has
yielded that reply as one piece or nothing at all. The looks at which nothing had changed count
also while the sentinel is there, so the last of them may be the one that the reply came behind,
and then the stream ends without it.
-/

import FileChat.Client.Stream
import FileChat.Proofs.Conversation.Response
import FileChat.Proofs.Worker.Course

namespace FileChat.Client

open Conversation FileSystem
open FileChat.Session (Finds IsSessionName isName_sentinelName sentinelName sentinelPath
  spot_ne_sentinel)
open Worker (Generator)
open Worker.Chronicle (Behind IsReplied IsUnderway Kept Meanwhile StepAside)

variable {σ : Type}

/-- One client that streams the reply to a turn, and the workers that answer. -/
structure Listening (σ : Type) where
  chronicle : Worker.Chronicle σ
  look : ReplyStream.Look
  reply : ReplyStream
  /-- What was yielded, in order. -/
  chunks : List String
  /-- The length of the file when it was measured last. -/
  measured : Nat

/-- What a look has found and not yielded yet. -/
def ReplyStream.Look.pending : ReplyStream.Look → List String
  | .checking chunk => chunk.toList
  | .ended (.ok chunk) => chunk.toList
  | _ => []

/-- What is there of a text is taken as a whole. -/
theorem ReplyStream.accept_encode (r : ReplyStream) {s : String} (hs : s ≠ "") :
    r.accept (Utf8.encode s) =
      (some s, { r with
        offset := r.offset + (Utf8.encode s).length
        unchanged := 0
        started := true }) := by
  have hsome : s.isEmpty = false := by simpa using hs
  rw [accept, Utf8.unfinished_encode, Nat.sub_zero, List.take_length, Utf8.decodeLossy_encode,
    hsome]
  rfl

namespace Listening

/-- A client that has just written its turn. -/
def start (begun : Worker.Chronicle σ) (session : Session) (message : String)
    (files : FileSystem) (size : Nat) : Listening σ :=
  ⟨begun.saying session.id message session.path files, .measuring, .ofOffset size, [], size⟩

/-- The client makes the next observation of its look. -/
def observed (l : Listening σ) (session : Session) : Listening σ :=
  let files := l.chronicle.pool.world.files
  let (look, reply) := ReplyStream.observe files session l.look l.reply
  { l with
    look, reply
    measured :=
      match l.look, files.metadata session.path with
      | .measuring, .ok seen => seen.size
      | _, _ => l.measured }

/-- The stream has ended by itself, and not by a failure. -/
def IsOver (l : Listening σ) : Prop := l.look = .measuring ∧ l.reply.done = true

/-- What can happen next. Everything but the client's own observations is up to others. -/
inductive Step (g : Generator σ) (session : Session) (l : Listening σ) : Listening σ → Prop
  | aside {after : Worker.Chronicle σ} (haside : StepAside g session.id l.chronicle after) :
      Step g session l { l with chronicle := after }
  | observed (hgoing : l.look = .measuring → l.reply.done = false) :
      Step g session l (l.observed session)
  /-- A look is over, and what it found is yielded. -/
  | yielded {chunk : Option String} (hlook : l.look = .ended (.ok chunk)) :
      Step g session l { l with look := .measuring, chunks := l.chunks ++ chunk.toList }

/-- What can come of a beginning. -/
inductive Reached (g : Generator σ) (session : Session) (begin : Listening σ) :
    Listening σ → Prop
  | start : Reached g session begin begin
  | step {l after : Listening σ} (h : Reached g session begin l) (hstep : Step g session l after) :
      Reached g session begin after

/-- How much of what stands behind the turn has been taken: nothing, or the one reply. -/
inductive Taken (id : String) (earlier : List Posting) (c : Worker.Chronicle σ)
    (size offset : Nat) : List String → Prop
  | nothing (hoffset : offset = size) : Taken id earlier c size offset []
  | reply {text seen : String} (hlog : c.log id = earlier ++ [.reply text seen])
      (hoffset : offset = size + (Utf8.encode (assistantLine text)).length) :
      Taken id earlier c size offset [assistantLine text]

/-- What the client knows in the course of a look. -/
def Follows (id : String) (earlier : List Posting) (c : Worker.Chronicle σ)
    (size offset measured : Nat) : ReplyStream.Look → Prop
  | .reading seen => measured = seen ∧ offset = size ∧
      ∃ text about, c.log id = earlier ++ [.reply text about] ∧
        seen = size + (Utf8.encode (assistantLine text)).length
  | .ended (.error _) => False
  | .ended (.ok _) | .measuring | .checking _ => measured = offset

/-- How things stand behind the turn. -/
structure Stands (g : Generator σ) (place : Location) (origin : FileSystem) (id : String)
    (size : Nat) (earlier : List Posting) (l : Listening σ) : Prop where
  kept : Kept g place origin l.chronicle
  behind : Behind g.directory place origin id earlier l.chronicle
  extent : size =
    (origin.bytesAt (place ++ [id]) ++ Utf8.encode (textOf earlier)).length
  started : l.reply.started = true → IsUnderway g.directory place id earlier l.chronicle
  done : l.reply.done = true → IsReplied id earlier l.chronicle
  taken : Taken id earlier l.chronicle size l.reply.offset (l.chunks ++ l.look.pending)
  follows : Follows id earlier l.chronicle size l.reply.offset l.measured l.look

variable {g : Generator σ} {place : Location} {origin : FileSystem} {session : Session}
  {options : Options} {message : String} {size : Nat} {earlier : List Posting}
  {begun : Worker.Chronicle σ} {l after : Listening σ}

section Observation

/-- What was taken stays taken as long as nothing more is written behind a reply. -/
theorem Taken.of_log_eq {id : String} {c next : Worker.Chronicle σ} {offset : Nat}
    {chunks : List String} (h : Taken id earlier c size offset chunks)
    (hlog : IsReplied id earlier c → next.log id = c.log id) :
    Taken id earlier next size offset chunks := by
  cases h with
  | nothing hoffset => exact .nothing hoffset
  | reply hreplied hoffset => exact .reply ((hlog ⟨_, _, hreplied⟩).trans hreplied) hoffset

/-- What the client knows it knows as long as nothing more is written behind a reply. -/
theorem Follows.of_log_eq {id : String} {c next : Worker.Chronicle σ} {offset measured : Nat}
    {look : ReplyStream.Look} (h : Follows id earlier c size offset measured look)
    (hlog : IsReplied id earlier c → next.log id = c.log id) :
    Follows id earlier next size offset measured look := by
  cases look with
  | reading seen =>
      obtain ⟨hmeasured, hoffset, text, about, hreplied, hseen⟩ := h
      exact ⟨hmeasured, hoffset, text, about, (hlog ⟨_, _, hreplied⟩).trans hreplied, hseen⟩
  | measuring | checking _ => exact h
  | ended result =>
      cases result with
      | error cause => exact h.elim
      | ok chunk => exact h

/-- A step of somebody else. -/
theorem Stands.aside (h : Stands g place origin session.id size earlier l)
    (hid : IsSessionName session.id) (hsilent : g.backend.IsSilent)
    {next : Worker.Chronicle σ} (haside : StepAside g session.id l.chronicle next) :
    Stands g place origin session.id size earlier { l with chronicle := next } := by
  obtain ⟨hstep, hquiet⟩ := haside
  have heffect := h.kept.effect hsilent hid hstep
  have hlog := h.behind.log_eq_of_effect h.kept heffect hquiet
  refine ⟨h.kept.of_step hsilent hstep, h.behind.of_effect h.kept hid heffect hquiet, h.extent,
    ?_, ?_, h.taken.of_log_eq hlog, ?_⟩
  · exact fun hstarted =>
      h.behind.isUnderway_of_effect h.kept hid heffect hquiet (h.started hstarted)
  · exact fun hdone => h.behind.isReplied_of_effect h.kept heffect hquiet (h.done hdone)
  · exact h.follows.of_log_eq hlog

/-- The file is as long as what was taken, or the reply stands behind the turn and was not taken
yet. -/
theorem Stands.length_bytesAt (h : Stands g place origin session.id size earlier l)
    (hid : IsSessionName session.id) :
    (l.chronicle.pool.world.files.bytesAt (place ++ [session.id])).length = l.reply.offset ∨
      l.reply.offset = size ∧ ∃ text seen,
        l.chronicle.log session.id = earlier ++ [.reply text seen] ∧
        (l.chronicle.pool.world.files.bytesAt (place ++ [session.id])).length =
          size + (Utf8.encode (assistantLine text)).length := by
  have htaken := h.taken
  generalize l.chunks ++ l.look.pending = chunks at htaken
  rcases h.behind.bytesAt_eq h.kept hid with ⟨hsaid, hbytes⟩ | ⟨text, seen, hreplied, hbytes⟩
  · refine .inl ?_
    rw [hbytes, ← h.extent]
    cases htaken with
    | nothing hoffset => exact hoffset.symm
    | reply hreplied => simp [hsaid] at hreplied
  · rw [hbytes, List.length_append, ← h.extent]
    cases htaken with
    | nothing hoffset => exact .inr ⟨hoffset, text, seen, hreplied, rfl⟩
    | @reply other about hagain hoffset =>
        obtain ⟨rfl, -⟩ : text = other ∧ seen = about := by simpa [hreplied] using hagain
        exact .inl hoffset.symm

/-- The client measures the file. What is new can only be the reply, and then it was not taken
before. -/
theorem Stands.measured (h : Stands g place origin session.id size earlier l)
    (hid : IsSessionName session.id)
    (hpath : session.path = Path.join g.directory session.id) (hlook : l.look = .measuring) :
    Stands g place origin session.id size earlier (l.observed session) := by
  have hmeta := h.behind.metadata_eq h.kept hid
  have hlength := h.length_bytesAt hid
  have htaken := h.taken
  obtain ⟨kept, behind, extent, started, done, -, -⟩ := h
  rw [← hpath] at hmeta
  obtain ⟨c, look, reply, chunks, measured⟩ := l
  obtain rfl : look = .measuring := hlook
  dsimp only at *
  rw [observed]
  dsimp only
  rw [ReplyStream.observe, hmeta]
  dsimp only
  generalize (c.pool.world.files.bytesAt (place ++ [session.id])).length = length at hlength ⊢
  split
  · next hgrown =>
      rcases hlength with hsame | ⟨hoffset, text, seen, hreplied, hlength⟩
      · omega
      · exact ⟨kept, behind, extent, started, done, htaken, rfl, hoffset, text, seen, hreplied,
          hlength⟩
  · next hquiet =>
      refine ⟨kept, behind, extent, started, done, htaken, ?_⟩
      show length = reply.offset
      rcases hlength with hsame | ⟨hoffset, text, seen, hreplied, hlength⟩
      · exact hsame
      · omega

/-- The client reads what is new. -/
theorem Stands.read (h : Stands g place origin session.id size earlier l)
    (hid : IsSessionName session.id)
    (hpath : session.path = Path.join g.directory session.id) {seen : Nat}
    (hlook : l.look = .reading seen) :
    Stands g place origin session.id size earlier (l.observed session) := by
  have hbytes := h.behind.bytesAt_eq h.kept hid
  have hread := h.behind.readBytes_eq h.kept hid
  obtain ⟨kept, behind, extent, started, done, taken, follows⟩ := h
  obtain ⟨c, look, reply, chunks, measured⟩ := l
  obtain rfl : look = .reading seen := hlook
  obtain ⟨hmeasured, hoffset, text, about, hreplied, hseen⟩ := follows
  dsimp only at *
  obtain rfl : chunks = [] := by
    have hnone : (ReplyStream.Look.reading seen).pending = [] := rfl
    rw [hnone, List.append_nil] at taken
    cases taken with
    | nothing => rfl
    | @reply other _ _ htaken =>
        have hlength := List.length_pos_iff.mpr
          (Utf8.encode_ne_nil (assistantLine_ne_empty other))
        omega
  rcases hbytes with ⟨hsaid, -⟩ | ⟨other, _, hagain, hbytes⟩
  · simp [hsaid] at hreplied
  obtain ⟨rfl, -⟩ : text = other ∧ about = _ := by simpa [hreplied] using hagain
  have hrange : ReplyStream.readRange c.pool.world.files session.path reply.offset seen =
      .ok (Utf8.encode (assistantLine text)) := by
    rw [ReplyStream.readRange, hpath, hread, hoffset, hseen, hbytes, extent]
    simp [Except.map]
  have hobserved : observed ⟨c, .reading seen, reply, [], measured⟩ session =
      ⟨c, .checking (some (assistantLine text)),
        { reply with
          offset := reply.offset + (Utf8.encode (assistantLine text)).length
          unchanged := 0
          started := true }, [], measured⟩ := by
    rw [observed]
    dsimp only
    rw [ReplyStream.observe, hrange]
    dsimp only
    rw [ReplyStream.accept_encode reply (assistantLine_ne_empty text)]
  rw [hobserved]
  refine ⟨kept, behind, extent, fun _ => .replied ⟨text, about, hreplied⟩, done, ?_, ?_⟩
  · exact .reply hreplied (by rw [hoffset])
  · show measured = reply.offset + (Utf8.encode (assistantLine text)).length
    omega

/-- The client looks for the sentinel. -/
theorem Stands.checked (h : Stands g place origin session.id size earlier l)
    (hid : IsSessionName session.id)
    (hsentinel : session.sentinel = sentinelPath g.directory session.id) {chunk : Option String}
    (hlook : l.look = .checking chunk) :
    Stands g place origin session.id size earlier (l.observed session) := by
  obtain ⟨kept, behind, extent, started, done, taken, follows⟩ := h
  obtain ⟨c, look, reply, chunks, measured⟩ := l
  obtain rfl : look = .checking chunk := hlook
  dsimp only at *
  rw [observed]
  dsimp only
  rw [ReplyStream.observe, ReplyStream.settle, hsentinel]
  dsimp only
  split
  · next hthere =>
      exact ⟨kept, behind, extent, fun _ => kept.isUnderway hid hthere, done, taken, follows⟩
  · next hgone =>
      split
      · next hends =>
          have hstarted := (Bool.and_eq_true_iff.mp hends).1
          exact ⟨kept, behind, extent, started,
            fun _ => (started hstarted).isReplied kept hid hgone, taken, follows⟩
      · exact ⟨kept, behind, extent, started, done, taken, follows⟩

/-- Whatever happens next, it still holds. -/
theorem Stands.of_step (h : Stands g place origin session.id size earlier l)
    (hsession : Session.at? session.id g.directory options = .ok session)
    (hsilent : g.backend.IsSilent) (hstep : Step g session l after) :
    Stands g place origin session.id size earlier after := by
  obtain ⟨hid, hpath⟩ := Session.of_at?_eq_ok hsession
  cases hstep with
  | aside haside => exact h.aside hid hsilent haside
  | observed hgoing =>
      cases hlook : l.look with
      | measuring => exact h.measured hid hpath hlook
      | reading seen => exact h.read hid hpath hlook
      | checking chunk =>
          exact h.checked hid (Session.names_of_at?_eq_ok hsession).2 hlook
      | ended result =>
          have hsame : l.observed session = l := by
            rw [Listening.observed, hlook]
            dsimp only
            rw [ReplyStream.observe, ← hlook]
          rwa [hsame]
  | @yielded chunk hlook =>
      obtain ⟨kept, behind, extent, started, done, taken, follows⟩ := h
      rw [hlook] at taken follows
      refine ⟨kept, behind, extent, started, done, ?_, follows⟩
      simpa [ReplyStream.Look.pending] using taken

end Observation

/-- A worker that has marked a session is not there as long as the session has no sentinel. -/
theorem Stands.start {workers : Nat} {world : World σ}
    (hbegun : Worker.Chronicle.Reached g (.start workers world) begun)
    (hsession : Session.at? session.id g.directory options = .ok session)
    (hfs : world.files.Holds g.directory place) (hsilent : g.backend.IsSilent)
    (hfree : begun.pool.world.files.get? (place ++ [sentinelName session.id]) = none)
    {files : FileSystem}
    (hsaid : session.appendTurn begun.pool.world.files message = .ok (files, size)) :
    Stands g place world.files session.id size (begun.log session.id ++ [.turn message])
      (start begun session message files size) := by
  obtain ⟨hid, -⟩ := Session.of_at?_eq_ok hsession
  have hkept := hbegun.kept hfs hsilent
  have hmarks := hbegun.keepsMarks hfs hsilent hid
  refine ⟨hkept.said hsession hsaid, Worker.Chronicle.behind_saying hkept hsession hsaid ?_,
    hkept.size_eq hsession hsaid, ?_, ?_, .nothing rfl, rfl⟩
  · exact fun i appended outcome hat => hmarks i _ hat rfl hfree
  · intro hstarted
    cases hstarted
  · intro hdone
    cases hdone

/-- Whatever happened, it holds. -/
theorem Reached.stands {begin : Listening σ} (h : Reached g session begin l)
    (hsession : Session.at? session.id g.directory options = .ok session)
    (hsilent : g.backend.IsSilent)
    (hbegin : Stands g place origin session.id size earlier begin) :
    Stands g place origin session.id size earlier l := by
  induction h with
  | start => exact hbegin
  | step _ hstep ih => exact ih.of_step hsession hsilent hstep

section Loss

/-- Others go on for a while. -/
theorem Reached.meanwhile {begin : Listening σ} {next : Worker.Chronicle σ}
    (h : Reached g session begin l) (hmeanwhile : Meanwhile g session.id l.chronicle next) :
    Reached g session begin { l with chronicle := next } := by
  induction hmeanwhile with
  | refl => exact h
  | tail _ haside ih => exact ih.step (.aside haside)

/-- As long as there is no reply a look finds nothing new. -/
theorem Stands.observed_eq (h : Stands g place origin session.id size earlier l)
    (hid : IsSessionName session.id)
    (hpath : session.path = Path.join g.directory session.id) (hlook : l.look = .measuring)
    (hsaid : l.chronicle.log session.id = earlier) :
    l.observed session = { l with look := .checking none, reply := l.reply.quiet } := by
  have hmeta := h.behind.metadata_eq h.kept hid
  have hfollows := h.follows
  rw [hlook] at hfollows
  have hmeasured : l.measured = l.reply.offset := hfollows
  rw [← hpath] at hmeta
  rcases h.length_bytesAt hid with hlength | ⟨-, text, seen, hreplied, -⟩
  · rw [observed, hlook]
    dsimp only
    rw [ReplyStream.observe, hmeta]
    dsimp only
    rw [hlength, if_neg (Nat.lt_irrefl _), hmeasured]
  · simp [hsaid] at hreplied

/-- A whole look at which there is nothing new and the sentinel is there. -/
theorem Reached.looked {begin : Listening σ} (h : Reached g session begin l)
    (hstands : Stands g place origin session.id size earlier l)
    (hsession : Session.at? session.id g.directory options = .ok session)
    (hlook : l.look = .measuring) (hgoing : l.reply.done = false)
    (hsaid : l.chronicle.log session.id = earlier)
    (hthere : l.chronicle.pool.world.files.pathExists session.sentinel = true) :
    Reached g session begin { l with reply := { l.reply.quiet with started := true } } := by
  obtain ⟨hid, hpath⟩ := Session.of_at?_eq_ok hsession
  have hmeasured := h.step (.observed fun _ => hgoing)
  rw [hstands.observed_eq hid hpath hlook hsaid] at hmeasured
  have hchecked := hmeasured.step (.observed fun hagain => by cases hagain)
  rw [observed, ReplyStream.observe, ReplyStream.settle, hthere, if_pos rfl] at hchecked
  have hyielded := hchecked.step (.yielded rfl)
  rw [Option.toList_none, List.append_nil, ← hlook] at hyielded
  exact hyielded

/-- Whatever the message and whatever the backend answers: the reply may come between the two
observations of the third look, and then the stream ends without it. Two looks find nothing but the
sentinel, and so does the third when it measures the file. Then the reply is appended and the
sentinel goes, before the third look asks for it. -/
theorem exists_over_unheard {world : World σ}
    (hfinds : Finds g.directory place session.id world.files "")
    (hsession : Session.at? session.id g.directory options = .ok session)
    (hsilent : g.backend.IsSilent) (hsteady : g.backend.IsSteady)
    (herror : nameError? g.directory (sentinelName session.id) = none)
    (hfree : world.files.get? (place ++ [sentinelName session.id]) = none)
    (hmessage : Session.isSingleLine message = true) :
    ∃ files size l reply, session.appendTurn world.files message = .ok (files, size) ∧
      Reached g session (.start (.start 1 world) session message files size) l ∧
      l.IsOver ∧ l.chunks = [] ∧
      l.chronicle.log session.id = [.turn message, .reply reply (userLine message)] := by
  obtain ⟨-, hpath⟩ := Session.of_at?_eq_ok hsession
  obtain ⟨-, hsentinel⟩ := Session.names_of_at?_eq_ok hsession
  have hname := isName_sentinelName hfinds.session.noSlash
  obtain ⟨files, size, c, hsaid, hmeanwhile, hgenerates, hseen, hlog⟩ :=
    Worker.Chronicle.exists_generates_said hfinds hpath hmessage herror hfree
  have hthere : c.pool.world.files.pathExists session.sentinel = true := by
    obtain ⟨executable, hmarked⟩ := hgenerates.marked
    rw [hsentinel]
    exact (hgenerates.finds.holds.pathExists_join hname).mpr
      ⟨herror, by rw [hmarked]; exact Option.some_ne_none _⟩
  have hbegin : Stands g place world.files session.id size [.turn message]
      (start (.start 1 world) session message files size) :=
    .start .start hsession hfinds.holds hsilent hfree hsaid
  have hstands {l : Listening σ}
      (h : Reached g session (start (.start 1 world) session message files size) l) :=
    h.stands hsession hsilent hbegin
  have hmarked : Reached g session _ { start (.start 1 world) session message files size with
      chronicle := c } := Reached.start.meanwhile hmeanwhile
  have hfirst := hmarked.looked (hstands hmarked) hsession rfl rfl hlog hthere
  have hsecond := hfirst.looked (hstands hfirst) hsession rfl rfl hlog hthere
  have hthird := hsecond.step (.observed fun _ => rfl)
  rw [(hstands hsecond).observed_eq hfinds.session hpath rfl hlog] at hthird
  obtain ⟨after, reply, hmeanwhile', hfound, hgone, hlog'⟩ :=
    hgenerates.exists_unmarked hsilent hsteady
  have hanswered := hthird.meanwhile hmeanwhile'
  have hexists : after.pool.world.files.pathExists session.sentinel = false := by
    rw [← Bool.not_eq_true, hsentinel, sentinelPath, hfound.holds.pathExists_join hname]
    exact fun hthere => hthere.2 hgone
  have hchecked := hanswered.step (.observed fun hagain => by cases hagain)
  rw [observed, ReplyStream.observe, hexists] at hchecked
  refine ⟨files, size, _, reply, hsaid, hchecked.step (.yielded rfl), ⟨rfl, rfl⟩, rfl, ?_⟩
  rw [hlog', hlog, hseen]
  rfl

end Loss

/-- A stream that ends by itself ends behind the reply. It has yielded the assistant's line as
one piece or nothing at all: the line if all of the file was there when it was measured last, and
nothing if the reply came after that. -/
theorem Reached.join_eq_iff {workers : Nat} {world : World σ}
    (hbegun : Worker.Chronicle.Reached g (.start workers world) begun)
    (hsession : Session.at? session.id g.directory options = .ok session)
    (hfs : world.files.Holds g.directory place) (hsilent : g.backend.IsSilent)
    (hfree : begun.pool.world.files.get? (place ++ [sentinelName session.id]) = none)
    {files : FileSystem}
    (hsaid : session.appendTurn begun.pool.world.files message = .ok (files, size))
    (h : Reached g session (.start begun session message files size) l) (hover : l.IsOver) :
    ∃ text seen,
      l.chronicle.log session.id = begun.log session.id ++ [.turn message, .reply text seen] ∧
      (l.chunks = [] ∨ l.chunks = [assistantLine text]) ∧
      (String.join l.chunks = assistantLine text ↔
        l.measured =
          (l.chronicle.pool.world.files.bytesAt (place ++ [session.id])).length) := by
  obtain ⟨hid, -⟩ := Session.of_at?_eq_ok hsession
  have hstands := h.stands hsession hsilent
    (.start hbegun hsession hfs hsilent hfree hsaid)
  obtain ⟨hlook, hdone⟩ := hover
  obtain ⟨text, seen, hlog⟩ := hstands.done hdone
  have hlength : (l.chronicle.pool.world.files.bytesAt (place ++ [session.id])).length =
      size + (Utf8.encode (assistantLine text)).length := by
    rcases hstands.behind.bytesAt_eq hstands.kept hid with
      ⟨hsaid, -⟩ | ⟨other, about, hagain, hbytes⟩
    · simp [hsaid] at hlog
    · obtain ⟨rfl, -⟩ : text = other ∧ seen = about := by simpa [hlog] using hagain
      rw [hbytes, List.length_append, ← hstands.extent]
  have htaken := hstands.taken
  have hfollows := hstands.follows
  rw [hlook] at htaken hfollows
  have hmeasured : l.measured = l.reply.offset := hfollows
  have hnone : ReplyStream.Look.measuring.pending = [] := rfl
  rw [hnone, List.append_nil] at htaken
  have hline := List.length_pos_iff.mpr (Utf8.encode_ne_nil (assistantLine_ne_empty text))
  refine ⟨text, seen, by rw [hlog, List.append_assoc]; rfl, ?_⟩
  rw [hlength, hmeasured]
  generalize l.chunks = chunks at htaken
  cases htaken with
  | nothing hoffset =>
      refine ⟨.inl rfl, fun hempty => absurd hempty.symm (assistantLine_ne_empty text), ?_⟩
      intro hall
      omega
  | @reply other about hagain hoffset =>
      obtain ⟨rfl, -⟩ : text = other ∧ seen = about := by simpa [hlog] using hagain
      exact ⟨.inr rfl, fun _ => hoffset, fun _ => by simp [String.join]⟩

theorem join_eq_iff_hello : ∃ files size l reply,
    caller.appendTurn (withFile "a" []) "Hello" = .ok (files, size) ∧
      Reached (Worker.rehearsal .echo) caller
        (.start (.start 1 (.start (withFile "a" []) [])) caller "Hello" files size) l ∧
      l.IsOver ∧ l.chunks = [] ∧
      l.chronicle.log "a" = [.turn "Hello", .reply reply "User: Hello\n"] ∧
      l.measured ≠ (l.chronicle.pool.world.files.bytesAt ["s", "a"]).length := by
  have hid : IsSessionName "a" := ⟨by decide, by decide⟩
  have hfinds : Finds "/s" ["s"] "a" (World.start (withFile "a" []) ([] : List DryRun.Record)).files
      "" := Finds.withFile hid (by decide) ""
  have hfree : (withFile "a" []).get? (["s"] ++ [sentinelName "a"]) = none := by
    rw [get?_withFile, if_neg (by decide)]
  have hmessage : Session.isSingleLine "Hello" = true := by decide
  have hsession : Session.at? caller.id (Worker.rehearsal .echo).directory .standard =
      .ok caller := at?_caller
  have hsilent : (Worker.rehearsal .echo).backend.IsSilent := DryRun.isSilent_backend _ _
  have hbegun : Worker.Chronicle.Reached (Worker.rehearsal .echo)
      (.start 1 (.start (withFile "a" []) [])) (.start 1 (.start (withFile "a" []) [])) := .start
  obtain ⟨files, size, l, reply, hsaid, hreached, hover, hchunks, hlog⟩ :=
    exists_over_unheard hfinds hsession hsilent (DryRun.isSteady_backend _ (by decide) _)
      (by decide) hfree hmessage
  obtain ⟨text, seen, -, -, hiff⟩ :=
    hreached.join_eq_iff hbegun hsession (holds_withFile "a" []) hsilent hfree hsaid hover
  refine ⟨files, size, l, reply, hsaid, hreached, hover, hchunks, hlog, fun hall => ?_⟩
  have hline := hiff.mpr hall
  rw [hchunks] at hline
  exact assistantLine_ne_empty text hline.symm

end Listening

end FileChat.Client
