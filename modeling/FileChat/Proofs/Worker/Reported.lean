/-
# Failures between replies

A failure is told to the user in the same place as a reply, as an assistant's turn, and only its
first characters tell the two apart. A report of a failure always begins with them, however long the
message is and whatever characters it holds. But nothing keeps a backend from a reply that begins
with them as well, and then the client takes an answer for a failure.
-/

import FileChat.Program.Client
import FileChat.Proofs.Client.Transcript
import FileChat.Proofs.Worker.Settled

namespace FileChat

open FileSystem

namespace Conversation

open Text

/-- Flattening brings in blanks and nothing else, so a text begins with a mark that has none exactly
if it did before. -/
theorem prefix_singleLine_iff {mark : List Char} {text : String} (hmark : ∀ c ∈ mark, c ≠ ' ')
    (hplain : ∀ c ∈ mark, isControl c = false) :
    mark <+: (singleLine text).toList ↔ mark <+: text.toList := by
  rw [singleLine, String.toList_ofList, List.prefix_map_iff]
  constructor
  · rintro ⟨before, hbefore, rfl⟩
    have hsame : before.map (fun c => if isControl c then ' ' else c) = before := by
      conv_rhs => rw [← List.map_id before]
      refine List.map_congr_left fun c hc => ?_
      have hkept := hmark _ (List.mem_map_of_mem hc)
      split at hkept
      · exact absurd rfl hkept
      · next hplain => rw [if_neg hplain, id]
    rwa [hsame]
  · intro hbefore
    refine ⟨mark, hbefore, ?_⟩
    conv_lhs => rw [← List.map_id mark]
    refine List.map_congr_left fun c hc => ?_
    rw [hplain c hc, if_neg Bool.false_ne_true, id]

/-- A reply behind whole lines is taken for a failure exactly if it begins like one. -/
theorem isError_append_assistantLine {content : String} (h : IsWholeLines content.toList)
    (sessionId reply : String) :
    (Response.mk sessionId (content ++ assistantLine reply)).isError = true ↔
      errorMark.toList <+: reply.toList := by
  rw [Response.isError, List.isPrefixOf_iff_prefix, content_append_assistantLine h]
  have hmark : errorMark.toList.all (fun c => c ≠ ' ' && !isControl c) = true := by decide
  have hplain : ∀ c ∈ errorMark.toList, c ≠ ' ' ∧ isControl c = false := by
    simpa using List.all_eq_true.mp hmark
  exact prefix_singleLine_iff (fun c hc => (hplain c hc).1) (fun c hc => (hplain c hc).2)

end Conversation

/-- A client that has a reply ends with one of two codes. -/
theorem Program.code_sendFinish (session : Client.Session) (response : Conversation.Response) :
    (sendFinish session (.ok response)).code = if response.isError then 1 else 0 := by
  unfold sendFinish
  dsimp only [Finish.code]

namespace Worker

open Conversation Session
open Program (sendFinish)

variable {σ : Type} {g : Generator σ} {place : Location} {id text : String} {w : World σ}
variable {options : Client.Options} {session : Client.Session}

/-- A worker that finds a session of whole lines owing a reply appends one turn, and a client that
reads the session then takes the turn for a failure, and ends with a code that says so, exactly if
there was a failure or the backend gave a reply that begins like the report of one. -/
theorem process_isError_iff (h : Finds g.directory place id w.files text)
    (hsilent : g.backend.IsSilent) (hsteady : g.backend.IsSteady)
    (howed : needsResponse text = true) (hwhole : text.toList.getLast? = some '\n')
    (hsession : Client.Session.at? id g.directory options = .ok session) :
    ∃ reply outcome after response,
      g.process (itemOf g.directory id) w = (some (.ok outcome), after) ∧
      (outcome = .replied ∨ outcome = .errorReply) ∧
      session.readResponse after.files = .ok response ∧
      response = ⟨id, text ++ assistantLine reply⟩ ∧
      (outcome = .replied → ∃ marked, createSentinel w.files g.directory id = .ok marked ∧
        (g.backend.ask (g.callFor text)
          (w.written (sentinelPath g.directory id) marked)).1 = .reply reply) ∧
      (response.isError = true ↔
        outcome = .errorReply ∨ outcome = .replied ∧ errorMark.toList <+: reply.toList) ∧
      ((sendFinish session (.ok response)).code = 1 ↔
        outcome = .errorReply ∨ outcome = .replied ∧ errorMark.toList <+: reply.toList) := by
  obtain ⟨-, hpath⟩ := Client.Session.of_at?_eq_ok hsession
  obtain ⟨hid, -⟩ := Client.Session.names_of_at?_eq_ok hsession
  obtain ⟨reply, outcome, after, hwrites, hprocess, hafter⟩ :=
    exists_process_writes h hsilent hsteady howed
  have hread := Client.Session.readResponse_eq hafter hpath
  rw [hid] at hread
  have herror : (Response.mk id (text ++ assistantLine reply)).isError = true ↔
      outcome = .errorReply ∨ outcome = .replied ∧ errorMark.toList <+: reply.toList := by
    rw [isError_append_assistantLine ((isWholeLines_iff_of_needsResponse howed).mpr hwhole)]
    rcases hwrites.reports_or_says with ⟨rfl, message, rfl⟩ | ⟨rfl, -⟩
    · exact iff_of_true (prefix_errorReply message) (.inl rfl)
    · simp
  refine ⟨reply, outcome, after, _, hprocess, ?_, hread, rfl, ?_, herror, ?_⟩
  · exact hwrites.reports_or_says.symm.imp And.left And.left
  · intro hreplied
    rcases hwrites.reports_or_says with ⟨hfailed, -⟩ | ⟨-, hsaid⟩
    · rw [hreplied] at hfailed
      cases hfailed
    · exact hsaid
  · rw [Program.code_sendFinish, ← herror]
    split <;> simp_all

/-- A failure is reported, and the client ends with a code that says so. -/
theorem process_isError_of_refused : ∃ after response,
    (rehearsal (.fail (.refused 500 "no"))).process (itemOf "/s" "a")
        (.start (withFile "a" (Utf8.encode "User: hi\n")) []) = (some (.ok .errorReply), after) ∧
      Client.caller.readResponse after.files = .ok response ∧
      (sendFinish Client.caller (.ok response)).code = 1 := by
  have hfinds := Finds.withFile ⟨by decide, by decide⟩ (by decide : nameError? "/s" "a" = none)
    "User: hi\n"
  obtain ⟨reply, outcome, after, response, hprocess, houtcome, hread, -, hsaid, -, hcode⟩ :=
    process_isError_iff (g := rehearsal (.fail (.refused 500 "no")))
      (w := .start (withFile "a" (Utf8.encode "User: hi\n")) []) hfinds
      (DryRun.isSilent_backend _ _) (DryRun.isSteady_backend _ (by decide) _) (by decide)
      (by decide) Client.at?_caller
  obtain rfl : outcome = .errorReply := by
    refine houtcome.resolve_left fun hreplied => ?_
    obtain ⟨marked, -, hanswer⟩ := hsaid hreplied
    cases hanswer
  exact ⟨after, response, hprocess, hread, hcode.mpr (.inl rfl)⟩

/-- Not every reply that is taken for a failure is one. -/
theorem not_forall_isError_iff : ¬ ∀ (said : String) (outcome : Outcome)
    (after : World (List DryRun.Record)) (response : Response),
    (rehearsal (.fixed said)).process (itemOf "/s" "a")
        (.start (withFile "a" (Utf8.encode "User: hi\n")) []) = (some (.ok outcome), after) →
      Client.caller.readResponse after.files = .ok response →
        (response.isError = true ↔ outcome = .errorReply) := by
  intro hall
  have hfinds := Finds.withFile ⟨by decide, by decide⟩ (by decide : nameError? "/s" "a" = none)
    "User: hi\n"
  obtain ⟨reply, outcome, after, hwrites, hprocess, hafter⟩ :=
    exists_process_writes (g := rehearsal (.fixed "[Error: no]"))
      (w := .start (withFile "a" (Utf8.encode "User: hi\n")) []) hfinds
      (DryRun.isSilent_backend _ _) (DryRun.isSteady_backend _ (by decide) _) (by decide)
  have herror := hall _ _ _ _ hprocess (Client.Session.readResponse_eq hafter rfl)
  rw [isError_append_assistantLine (by decide)] at herror
  cases hwrites with
  | unmarked hmark =>
      have hmade := (createSentinel_eq_ok hfinds.holds hfinds.session.noSlash).mpr
        ⟨by decide, .inl ⟨(get?_withFile "a" _ _).trans (if_neg (by decide)), rfl⟩⟩
      cases hmark.symm.trans hmade
  | asked hmark hturn =>
      obtain ⟨rfl, rfl⟩ := Prod.mk.inj (Option.some.inj hturn)
      cases herror.mp (by decide)

end Worker

end FileChat
