/-
# Chat services

The backend that hands the conversation to a chat service as a list of messages. What comes
back is a record of choices, the first of which may hold the reply. All choices have to
have the right form, even though only the first counts.
-/
import FileChat.Config.Basic
import FileChat.Conversation.Message
import FileChat.Http.Exchange
import FileChat.Json.Document

namespace FileChat.Chat

open Json

/-- The address at which a service takes chats. -/
def address (service : ChatService) : String :=
  Url.withoutFinalSlashes service.base ++ "/chat/completions"

/-- What shows that one may use a service. -/
def authorization (service : ChatService) : String := "Bearer " ++ service.key

/-- A message as it is sent. -/
def outgoingMessage (m : Conversation.Message) : Outgoing :=
  .object [("role", .text m.role.name), ("content", .text m.content)]

/-- The body of a request. Stop words are left out if there are none. -/
def body (service : ChatService) (call : Call) : Outgoing :=
  let messages := (Conversation.Message.ofPrompt call.prompt).map outgoingMessage
  let stop := if call.stop.isEmpty then [] else [("stop", Outgoing.ofTexts call.stop)]
  .object ([("model", .text service.model), ("messages", .array messages),
    ("max_tokens", .natural call.maxTokens), ("temperature", .ofReal call.temperature)] ++ stop)

/-- The content of a message that came back, which may be missing. The outer `none` is a
message of the wrong form. -/
def messageContent? (message : Value) : Option (Option String) :=
  match message.field? "content" with
  | some none => some none
  | some (some .null) => some none
  | some (some (.text (some content))) => some (some content)
  | _ => none

/-- The content of the message of a choice. -/
def choiceContent? (choice : Value) : Option (Option String) :=
  match choice.field? "message" with
  | some (some message) => messageContent? message
  | _ => none

/-- The contents of all choices. -/
def contents? (response : Value) : Option (List (Option String)) :=
  match response.field? "choices" with
  | some (some (.array choices)) => choices.mapM choiceContent?
  | _ => none

/-- The reply in a response: what the first choice holds, without blanks around it. -/
def decodeReply (response : Bytes) : Except BackendError String :=
  match (parse? response).bind contents? with
  | none => .error (.transport .undecodable)
  | some (some content :: _) => .ok (Text.trimString content)
  | some _ => .error (.noReply "no choices[0].message.content")

/-- Ask a service. -/
def ask (service : ChatService) (call : Call) (host : Http.Host) :
    Except BackendError String × Http.Host :=
  match host.post (address service) (some (authorization service)) (body service call) with
  | (.ok reply, host) => (reply.interpret decodeReply, host)
  | (.error cause, host) => (.error (.transport cause), host)

/-- The backend of a service. -/
def backend (service : ChatService) : Backend Http.Host :=
  .ofHost BackendKind.chatService.name (ask service)

end FileChat.Chat
