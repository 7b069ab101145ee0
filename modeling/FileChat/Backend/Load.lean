/-
# Loading a backend

The backend that a configuration asks for, made ready to be asked.
-/
import FileChat.Backend.Chat
import FileChat.Backend.Local

namespace FileChat

/-- Make the backend of a configuration ready. A chat service needs no preparation; `search`
is where programs are looked up. -/
def Config.load (fs : FileSystem) (search : List Path) (config : Config) (host : Http.Host) :
    Except BackendError (Backend Http.Host) × Http.Host :=
  match config.backend with
  | .chatService => (.ok (Chat.backend config.chatService), host)
  | .localModel =>
    match Local.start fs search config.localModel config.contextTokens host with
    | (.ok (), host) => (.ok (Local.backend config.localModel), host)
    | (.error e, host) => (.error e, host)

end FileChat
