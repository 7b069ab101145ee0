/-
# What a stream yields of a file that grows

The file of a session grows by bytes, which need not end where a character ends, and a stream
looks at it whenever it likes. A look takes the whole characters that are there and leaves the
beginning of one more where it is. So however the looks fall, what was yielded is what the file
says up to the offset of the stream, and at most three bytes were seen and not yielded.
-/

import FileChat.Proofs.Client.Listening
import FileChat.Proofs.Text.Unfinished

namespace FileChat.Client

open FileSystem

/-- A file that can be read is seen with its length. -/
theorem metadata_of_readBytes {fs : FileSystem} {path : Path} {bytes : Bytes}
    (h : fs.readBytes path = .ok bytes) :
    fs.metadata path = .ok ⟨true, false, bytes.length⟩ := by
  unfold readBytes at h
  unfold metadata
  obtain ⟨reached, hreached, hread⟩ := bind_eq_ok.mp h
  rw [hreached]
  cases reached with
  | vacant found free => cases hread
  | found found entry =>
      cases entry with
      | file known executable =>
          obtain rfl := Except.ok.inj hread
          rfl
      | directory | link target => cases hread

/-- What is there of a text is taken up to the last whole character. -/
theorem ReplyStream.accept_encode_append (r : ReplyStream) {held : Bytes}
    (hheld : Utf8.IsBegun held) (s : String) :
    r.accept (Utf8.encode s ++ held) =
      (if s.isEmpty then none else some s, { r with
        offset := r.offset + (Utf8.encode s).length
        unchanged := 0
        started := true }) := by
  rw [accept, Utf8.unfinished_encode_append hheld, List.length_append, Nat.add_sub_cancel,
    List.take_left, Utf8.decodeLossy_encode]

/-- A stream of a file, and what it has yielded. -/
structure Tailing where
  files : FileSystem
  look : ReplyStream.Look
  reply : ReplyStream
  /-- What was yielded, in order. -/
  chunks : List String
  /-- The length of the file when it was measured last. -/
  measured : Nat

/-- A file has more bytes than before or as many, and those behind an offset can be the
beginning of a text. -/
def Extends (path : Path) (offset : Nat) (before after : FileSystem) : Prop :=
  ∃ bytes added text, before.readBytes path = .ok bytes ∧
    after.readBytes path = .ok (bytes ++ added) ∧
    (bytes ++ added).drop offset <+: Utf8.encode text

namespace Tailing

/-- A stream that begins at an offset. -/
def start (files : FileSystem) (offset : Nat) : Tailing :=
  ⟨files, .measuring, .ofOffset offset, [], offset⟩

/-- The stream makes the next observation of its look. -/
def observed (t : Tailing) (session : Session) : Tailing :=
  let (look, reply) := ReplyStream.observe t.files session t.look t.reply
  { t with
    look, reply
    measured :=
      match t.look, t.files.metadata session.path with
      | .measuring, .ok seen => seen.size
      | _, _ => t.measured }

/-- What can happen next. The file grows whenever it likes, between two looks or in one. -/
inductive Step (session : Session) (offset : Nat) (t : Tailing) : Tailing → Prop
  | grew {files : FileSystem} (hextends : Extends session.path offset t.files files) :
      Step session offset t { t with files }
  | observed : Step session offset t (t.observed session)
  /-- A look is over, and what it found is yielded. -/
  | yielded {chunk : Option String} (hlook : t.look = .ended (.ok chunk)) :
      Step session offset t { t with look := .measuring, chunks := t.chunks ++ chunk.toList }

/-- What can come of a beginning. -/
abbrev Reaches (session : Session) (offset : Nat) : Tailing → Tailing → Prop :=
  Relation.ReflTransGen (Step session offset)

/-- What the stream has found in the file so far, yielded or about to be yielded. -/
def told (t : Tailing) : String := String.join (t.chunks ++ t.look.pending)

/-- The stream has told what the file says behind the offset that it began at, and it has held
back the beginning of a character. -/
structure Tells (session : Session) (offset : Nat) (bytes held : Bytes) (t : Tailing) : Prop where
  read : t.files.readBytes session.path = .ok bytes
  within : offset ≤ bytes.length
  sense : ∃ text, bytes.drop offset <+: Utf8.encode text
  told : Utf8.encode t.told ++ held <+: bytes.drop offset
  begun : Utf8.IsBegun held
  reached : t.reply.offset = offset + (Utf8.encode t.told).length
  measured : match t.look with
    | .reading seen => t.measured = seen ∧ t.reply.offset ≤ seen ∧ seen ≤ bytes.length
    | .ended (.error _) => False
    | _ => t.measured = t.reply.offset + held.length

variable {session : Session} {offset : Nat} {bytes held : Bytes} {t after : Tailing}

namespace Tells

/-- The file grows. -/
theorem grew (h : Tells session offset bytes held t) {files : FileSystem}
    (hextends : Extends session.path offset t.files files) :
    ∃ more, Tells session offset more held { t with files } := by
  obtain ⟨known, added, text, hbefore, hafter, hsense⟩ := hextends
  obtain rfl := Except.ok.inj (hbefore.symm.trans h.read)
  have hmore : known.drop offset <+: (known ++ added).drop offset := by
    rw [List.drop_append_of_le_length h.within]
    exact List.prefix_append _ _
  have hlength : known.length ≤ (known ++ added).length := by simp
  refine ⟨known ++ added, hafter, Nat.le_trans h.within hlength, ⟨text, hsense⟩,
    h.told.trans hmore, h.begun, h.reached, ?_⟩
  have hmeasured := h.measured
  dsimp only
  split at hmeasured
  · exact ⟨hmeasured.1, hmeasured.2.1, Nat.le_trans hmeasured.2.2 hlength⟩
  · exact hmeasured
  · exact hmeasured

/-- The file is as long as what was told, or longer. -/
theorem offset_le (h : Tells session offset bytes held t) : t.reply.offset ≤ bytes.length := by
  have hlength := h.told.length_le
  have hwithin := h.within
  rw [List.length_append, List.length_drop] at hlength
  have hreached := h.reached
  omega

/-- The stream measures the file. -/
theorem measure (h : Tells session offset bytes held t) (hlook : t.look = .measuring) :
    Tells session offset bytes [] (t.observed session) := by
  have hmeta := metadata_of_readBytes h.read
  have hle := h.offset_le
  obtain ⟨read, within, sense, told, begun, reached, -⟩ := h
  obtain ⟨files, look, reply, chunks, measured⟩ := t
  obtain rfl : look = .measuring := hlook
  have htold := (List.prefix_append _ held).trans told
  dsimp only at *
  rw [observed]
  dsimp only
  rw [ReplyStream.observe, hmeta]
  dsimp only
  split
  · next hgrown =>
      refine ⟨read, within, sense, ?_, Utf8.isBegun_nil, reached, rfl, hle, Nat.le_refl _⟩
      rwa [List.append_nil]
  · next hsame =>
      refine ⟨read, within, sense, ?_, Utf8.isBegun_nil, reached, ?_⟩
      · rwa [List.append_nil]
      · exact Nat.le_antisymm (Nat.not_lt.mp hsame) hle

/-- The stream reads what is new, which is some text and the beginning of one more character, since
it goes on where the told text ends. -/
theorem take (h : Tells session offset bytes held t) {seen : Nat}
    (hlook : t.look = .reading seen) :
    ∃ more, Tells session offset bytes more (t.observed session) := by
  obtain ⟨read, within, ⟨text, hsense⟩, htold, -, hreached, hmeasured⟩ := h
  obtain ⟨files, look, reply, chunks, measured⟩ := t
  obtain rfl : look = .reading seen := hlook
  have hbefore : Tailing.told ⟨files, .reading seen, reply, chunks, measured⟩ =
      String.join chunks := congrArg String.join (List.append_nil chunks)
  rw [hbefore] at htold hreached
  dsimp only at read hreached hmeasured
  obtain ⟨hmeasured, hle, hseen⟩ := hmeasured
  obtain ⟨rest, hrest⟩ := (List.prefix_append _ held).trans htold
  have hdrop : bytes.drop reply.offset = rest := by
    rw [hreached, ← List.drop_drop, ← hrest, List.drop_left]
  have hfresh : Utf8.encode (String.join chunks) ++ rest.take (seen - reply.offset) <+:
      bytes.drop offset := by
    rw [← hrest]
    exact (List.prefix_append_right_inj _).mpr (List.take_prefix _ _)
  obtain ⟨later, hlater⟩ := Utf8.exists_of_encode_append_prefix (hfresh.trans hsense)
  obtain ⟨whole, more, hwhole, hmore⟩ := Utf8.exists_of_prefix_encode hlater
  have hrange : ReplyStream.readRange files session.path reply.offset seen =
      .ok (Utf8.encode whole ++ more) := by
    rw [ReplyStream.readRange, read, ← hwhole, ← hdrop]
    rfl
  have hlength : (Utf8.encode whole).length + more.length = seen - reply.offset := by
    have hrestLength : rest.length = bytes.length - reply.offset := by
      rw [← hdrop, List.length_drop]
    rw [← List.length_append, ← hwhole, List.length_take, hrestLength]
    omega
  have hsaid : String.join (chunks ++ (if whole.isEmpty then none else some whole).toList) =
      String.join chunks ++ whole := by
    split
    · next hempty =>
        obtain rfl := String.isEmpty_iff.mp hempty
        simp
    · simp [String.join_append, String.join_cons]
  rw [hwhole] at hfresh
  refine ⟨more, ?_⟩
  rw [observed]
  dsimp only
  rw [ReplyStream.observe, hrange]
  dsimp only
  rw [ReplyStream.accept_encode_append reply hmore]
  refine ⟨read, within, ⟨text, hsense⟩, ?_, hmore, ?_, ?_⟩
  · rw [Tailing.told]
    dsimp only [ReplyStream.Look.pending]
    rw [hsaid, Utf8.encode_append, List.append_assoc]
    exact hfresh
  · rw [Tailing.told]
    dsimp only [ReplyStream.Look.pending]
    rw [hsaid, Utf8.encode_append, List.length_append]
    omega
  · dsimp only
    omega

/-- The stream looks for the sentinel, which is not about the file. -/
theorem check (h : Tells session offset bytes held t) {chunk : Option String}
    (hlook : t.look = .checking chunk) :
    Tells session offset bytes held (t.observed session) := by
  obtain ⟨read, within, sense, told, begun, reached, measured⟩ := h
  obtain ⟨files, look, reply, chunks, length⟩ := t
  obtain rfl : look = .checking chunk := hlook
  have hoffset : (reply.settle (files.pathExists session.sentinel)).offset = reply.offset := by
    unfold ReplyStream.settle
    split
    · rfl
    · split <;> rfl
  rw [observed]
  dsimp only
  rw [ReplyStream.observe]
  refine ⟨read, within, sense, told, begun, ?_, ?_⟩
  · exact hoffset.trans reached
  · dsimp only
    rw [hoffset]
    exact measured

/-- Whatever happens next, the stream tells what the file says. -/
theorem of_step (h : Tells session offset bytes held t) (hstep : Step session offset t after) :
    ∃ bytes held, Tells session offset bytes held after := by
  cases hstep with
  | grew hextends =>
      obtain ⟨more, hmore⟩ := h.grew hextends
      exact ⟨more, held, hmore⟩
  | observed =>
      cases hlook : t.look with
      | measuring => exact ⟨bytes, [], h.measure hlook⟩
      | reading seen => exact ⟨bytes, h.take hlook⟩
      | checking chunk => exact ⟨bytes, held, h.check hlook⟩
      | ended result =>
          have hsame : t.observed session = t := by
            rw [Tailing.observed, hlook]
            dsimp only
            rw [ReplyStream.observe, ← hlook]
          rw [hsame]
          exact ⟨bytes, held, h⟩
  | @yielded chunk hlook =>
      obtain ⟨read, within, sense, told, begun, reached, measured⟩ := h
      rw [hlook] at measured
      have hsame : Tailing.told { t with look := .measuring, chunks := t.chunks ++ chunk.toList } =
          t.told := by
        rw [Tailing.told, Tailing.told, hlook]
        exact congrArg String.join (List.append_nil _)
      refine ⟨bytes, held, read, within, sense, ?_, begun, ?_, measured⟩
      · rwa [hsame]
      · rwa [hsame]

theorem of_reaches {files : FileSystem} {text : String}
    (hread : files.readBytes session.path = .ok bytes) (hoffset : offset ≤ bytes.length)
    (hsense : bytes.drop offset <+: Utf8.encode text)
    (h : Reaches session offset (start files offset) t) :
    ∃ bytes held, Tells session offset bytes held t := by
  induction h with
  | refl =>
      refine ⟨bytes, [], hread, hoffset, ⟨text, hsense⟩, ?_, Utf8.isBegun_nil, ?_, rfl⟩
      · exact List.nil_prefix
      · rfl
  | tail _ hstep ih =>
      obtain ⟨known, more, htells⟩ := ih
      exact htells.of_step hstep

end Tells

/-- A look without anything in between is three observations of a file that is there, and it
finds nothing wrong. -/
theorem exists_poll_eq (hread : t.files.readBytes session.path = .ok bytes)
    (hlook : t.look = .measuring) :
    ∃ chunk reply, t.reply.poll t.files session = (.ok chunk, reply) ∧
      ((t.observed session).observed session).observed session =
        { t with look := .ended (.ok chunk), reply, measured := bytes.length } := by
  have hmeta := metadata_of_readBytes hread
  obtain ⟨files, look, reply, chunks, measured⟩ := t
  obtain rfl : look = .measuring := hlook
  dsimp only at hread hmeta
  by_cases hgrown : reply.offset < bytes.length
  · have hrange : ReplyStream.readRange files session.path reply.offset bytes.length =
        .ok ((bytes.drop reply.offset).take (bytes.length - reply.offset)) := by
      rw [ReplyStream.readRange, hread]
      rfl
    simp [observed, ReplyStream.poll, ReplyStream.observe, hmeta, hgrown, hrange]
  · simp [observed, ReplyStream.poll, ReplyStream.observe, hmeta, hgrown]

/-- A look without anything in between is one of the ways to go on. -/
theorem exists_reaches_poll (session : Session) (offset : Nat)
    (hread : t.files.readBytes session.path = .ok bytes)
    (hlook : t.look = .measuring) :
    ∃ chunk reply, t.reply.poll t.files session = (.ok chunk, reply) ∧
      Reaches session offset t
        { t with reply, chunks := t.chunks ++ chunk.toList, measured := bytes.length } := by
  obtain ⟨chunk, reply, hpoll, hobserved⟩ := exists_poll_eq hread hlook
  have hended : Reaches session offset t
      { t with look := .ended (.ok chunk), reply, measured := bytes.length } := by
    rw [← hobserved]
    exact ((Relation.ReflTransGen.single .observed).tail .observed).tail .observed
  refine ⟨chunk, reply, hpoll, ?_⟩
  have hyielded := hended.tail (.yielded rfl)
  rwa [← hlook] at hyielded

section Next

variable {σ : Type} {env : Surroundings σ}

/-- Looks with pauses in between, in which the file only grows, are a way to go on. -/
theorem exists_reaches_advance
    (hextends : ∀ pause s, Extends session.path offset (env.files s) (env.files (env.pass pause s)))
    (n : Nat) (reply : ReplyStream) (chunks : List String) (measured : Nat) (s : σ) :
    ∃ (chunk : Option String) (next : ReplyStream) (later : σ) (seen : Nat),
      ReplyStream.advance env session n reply s = (chunk.map .ok, next, later) ∧
      Reaches session offset ⟨env.files s, .measuring, reply, chunks, measured⟩
        ⟨env.files later, .measuring, next, chunks ++ chunk.toList, seen⟩ := by
  have hstays (reply : ReplyStream) (measured : Nat) (s : σ) :
      Reaches session offset ⟨env.files s, .measuring, reply, chunks, measured⟩
        ⟨env.files s, .measuring, reply, chunks ++ (none : Option String).toList, measured⟩ := by
    rw [Option.toList_none, List.append_nil]
  induction n generalizing reply measured s with
  | zero => exact ⟨none, reply, s, measured, rfl, hstays reply measured s⟩
  | succ n ih =>
      rw [ReplyStream.advance]
      by_cases hdone : reply.done = true
      · rw [if_pos hdone]
        exact ⟨none, reply, s, measured, rfl, hstays reply measured s⟩
      · rw [if_neg hdone]
        dsimp only
        have hgrew := hextends (tick session.options.pause) s
        obtain ⟨bytes, added, text, -, hread, -⟩ := hextends (tick session.options.pause) s
        generalize env.pass (tick session.options.pause) s = woken at *
        obtain ⟨chunk, next, hpoll, hreaches⟩ := exists_reaches_poll session offset
          (t := ⟨env.files woken, .measuring, reply, chunks, measured⟩) hread rfl
        have hlooked := hreaches.head (Step.grew
          (t := ⟨env.files s, .measuring, reply, chunks, measured⟩) hgrew)
        dsimp only at hpoll
        rw [hpoll]
        cases chunk with
        | some found => exact ⟨some found, next, woken, _, rfl, hlooked⟩
        | none =>
            rw [Option.toList_none, List.append_nil] at hlooked
            obtain ⟨chunk, last, later, seen, hadvance, hrest⟩ := ih next _ woken
            exact ⟨chunk, last, later, seen, hadvance, hlooked.trans hrest⟩

/-- What a stream yields next it yields in one of these ways. -/
theorem exists_reaches_next
    (hextends : ∀ pause s, Extends session.path offset (env.files s) (env.files (env.pass pause s)))
    (deadline : Nat) (reply : ReplyStream) (chunks : List String) (measured : Nat) (s : σ) :
    ∃ (chunk : Option String) (next : ReplyStream) (later : σ) (seen : Nat),
      reply.next env session deadline s = (chunk.map .ok, next, later) ∧
      Reaches session offset ⟨env.files s, .measuring, reply, chunks, measured⟩
        ⟨env.files later, .measuring, next, chunks ++ chunk.toList, seen⟩ :=
  exists_reaches_advance hextends _ reply chunks measured s

end Next

/-- However the file grows and whenever the stream looks at it: nothing goes wrong, and after each
look what was yielded is what the file says from where the stream began up to the offset of the
stream. At most three bytes were seen and not yielded, and if what was seen is a text then
that text was yielded. -/
theorem encode_join_chunks {files : FileSystem} {text : String}
    (hread : files.readBytes session.path = .ok bytes) (hoffset : offset ≤ bytes.length)
    (hsense : bytes.drop offset <+: Utf8.encode text)
    (h : Reaches session offset (start files offset) t) :
    (∀ cause, t.look ≠ .ended (.error cause)) ∧
    (t.look = .measuring → ∃ known, t.files.readBytes session.path = .ok known ∧
      offset ≤ t.reply.offset ∧ t.reply.offset ≤ t.measured ∧ t.measured ≤ known.length ∧
      Utf8.encode (String.join t.chunks) =
        (known.drop offset).take (t.reply.offset - offset) ∧
      t.measured ≤ t.reply.offset + 3 ∧
      ∀ whole, Utf8.decode ((known.drop offset).take (t.measured - offset)) = some whole →
        String.join t.chunks = whole) := by
  obtain ⟨known, held, htells⟩ := Tells.of_reaches hread hoffset hsense h
  have hmeasured := htells.measured
  refine ⟨fun cause hlook => ?_, fun hlook => ?_⟩
  · rw [hlook] at hmeasured
    exact hmeasured
  rw [hlook] at hmeasured
  dsimp only at hmeasured
  have hsaid : t.told = String.join t.chunks := by
    rw [told, hlook]
    exact congrArg String.join (List.append_nil _)
  have htold := htells.told
  have hreached := htells.reached
  rw [hsaid] at htold hreached
  have hlength := htold.length_le
  have hheld := htells.begun.length_le
  have hwithin := htells.within
  rw [List.length_append, List.length_drop] at hlength
  have hoff : t.reply.offset - offset = (Utf8.encode (String.join t.chunks)).length := by omega
  have hall : t.measured - offset = (Utf8.encode (String.join t.chunks) ++ held).length := by
    rw [List.length_append]
    omega
  refine ⟨known, htells.read, by omega, by omega, by omega, ?_, by omega, fun whole hwhole => ?_⟩
  · rw [hoff]
    exact List.prefix_iff_eq_take.mp ((List.prefix_append _ held).trans htold)
  · rw [hall, ← List.prefix_iff_eq_take.mp htold] at hwhole
    obtain rfl := Utf8.eq_nil_of_decode htells.begun hwhole
    rw [List.append_nil, Utf8.decode_encode] at hwhole
    exact Option.some.inj hwhole

theorem readBytes_withFile (bytes : Bytes) :
    (withFile "a" bytes).readBytes caller.path = .ok bytes := by
  have hid : FileChat.Session.IsSessionName "a" := ⟨by decide, by decide⟩
  exact ((holds_withFile "a" bytes).readBytes_join hid.isName).mpr
    ⟨by decide, false, (get?_withFile "a" bytes "a").trans (if_pos rfl)⟩

/-- One look finds the first byte of a character, and the next one both. -/
theorem encode_join_chunks_of_two_looks : ∃ t,
    Reaches caller 0 (start (withFile "a" []) 0) t ∧ t.look = .measuring ∧
      t.files = withFile "a" [0xC3, 0xA9] ∧ t.measured = 2 ∧ String.join t.chunks = "é" := by
  have hletter : Utf8.encode "é" = [0xC3, 0xA9] := by decide
  have hfirst : Extends caller.path 0 (withFile "a" []) (withFile "a" [0xC3]) :=
    ⟨[], [0xC3], "é", readBytes_withFile _, readBytes_withFile _, [0xA9], hletter.symm⟩
  have hsecond : Extends caller.path 0 (withFile "a" [0xC3]) (withFile "a" [0xC3, 0xA9]) :=
    ⟨[0xC3], [0xA9], "é", readBytes_withFile _, readBytes_withFile _, [], hletter.symm⟩
  have hbegun : Reaches caller 0 (start (withFile "a" []) 0)
      { start (withFile "a" []) 0 with files := withFile "a" [0xC3] } := .single (.grew hfirst)
  obtain ⟨one, reply, -, hone⟩ := exists_reaches_poll caller 0
    (t := { start (withFile "a" []) 0 with files := withFile "a" [0xC3] })
    (readBytes_withFile [0xC3]) rfl
  have hgrew := (hbegun.trans hone).tail (.grew hsecond)
  obtain ⟨two, last, -, htwo⟩ := exists_reaches_poll caller 0
    (t := ⟨withFile "a" [0xC3, 0xA9], .measuring, reply, [] ++ one.toList, 1⟩)
    (readBytes_withFile [0xC3, 0xA9]) rfl
  have hreaches := hgrew.trans htwo
  have hempty : ([] : Bytes).drop 0 <+: Utf8.encode "" := List.nil_prefix
  obtain ⟨-, hafter⟩ :=
    encode_join_chunks (readBytes_withFile []) (Nat.le_refl 0) hempty hreaches
  obtain ⟨known, hknown, -, -, -, -, -, hwhole⟩ := hafter rfl
  obtain rfl := Except.ok.inj ((readBytes_withFile [0xC3, 0xA9]).symm.trans hknown)
  exact ⟨_, hreaches, rfl, rfl, rfl, hwhole "é" (by rw [← hletter]; exact Utf8.decode_encode "é")⟩

end Tailing

end FileChat.Client
