import Syncpond.Frames
import Syncpond.Library.JsonScript

/-!
# Messages of the script client

What the client writes when its socket opens, and what it makes of the data
of a message: an `error` event for a text that is not JSON, nothing for a
value that is false, and otherwise a `message` event and the event that the
type of the message names.

The values of a message are only cast, never checked, so that the counter can
become any value.
-/

namespace Syncpond.ClientMessages

open Syncpond.Frames
open Syncpond.Library.Text (fromUtf8Lossy)
open Syncpond.Library.JsonScript

/-- What the client keeps between messages. -/
structure SyncpondClient (Number : Type) where
  jwt : JsString
  lastSeenCounter : Option (JsValue Number)

/-- The `readyState` of a socket. -/
inductive ReadyState where
  | connecting
  | opened
  | closing
  | closed

/-- What the client emits on a message. -/
inductive Event (Number : Type) where
  | error
  | message (message : JsValue Number)
  | authOk (message : JsValue Number)
  | authError (message : JsValue Number)
  | roomUpdate (message : JsValue Number)
  | update (message : JsValue Number)

/-- The name under which listeners are told an event. -/
def Event.name {Number : Type} : Event Number → String
  | .error => "error"
  | .message _ => "message"
  | .authOk _ => "auth_ok"
  | .authError _ => "auth_error"
  | .roomUpdate _ => "room_update"
  | .update _ => "update"

/-- What a runtime takes the data of a binary message for. -/
inductive BinaryType where
  | blob
  | arrayBuffer
  | nodeBuffer

variable {Number : Type} [ScriptNumber Number]

namespace SyncpondClient

/-! ## Writing -/

/-- The message that presents the token. -/
def authMessage (client : SyncpondClient Number) : JsValue Number :=
  .object
    ([(fromText "type", .string (fromText "auth")),
        (fromText "jwt", .string client.jwt)] ++
      client.lastSeenCounter.toList.map fun counter =>
        (fromText "last_seen_counter", counter))

/-- Send the token over a socket that is open. -/
def sendAuth (client : SyncpondClient Number) (ws : Option ReadyState) :
    Option WsMessage :=
  match ws with
  | some .opened => some (.text (toText (stringify client.authMessage)))
  | _ => none

/-! ## Reading -/

/-- The events that the type of a message asks for. -/
def dispatch (client : SyncpondClient Number) (message : JsValue Number) :
    SyncpondClient Number × List (Event Number) :=
  match message.get "type" with
  | some (.string type) =>
      if type = fromText "auth_ok" then (client, [.authOk message])
      else if type = fromText "auth_error" then
        (client, [.authError message])
      else if type = fromText "room_update" then
        ({ client with lastSeenCounter := message.get "room_counter" },
          [.roomUpdate message])
      else if type = fromText "update" then
        ({ client with lastSeenCounter := message.get "room_counter" },
          [.update message])
      else (client, [])
  | _ => (client, [])

def handleMessage (client : SyncpondClient Number) (data : JsString) :
    SyncpondClient Number × List (Event Number) :=
  match parse data with
  | none => (client, [.error])
  | some message =>
      if message.isFalsy then (client, [])
      else
        let (next, events) := client.dispatch message
        (next, .message message :: events)

end SyncpondClient

/-- `event.data.toString()`; control frames raise no event. -/
def dataText (runtime : BinaryType) : WsMessage → Option JsString
  | .text text => some (fromText text)
  | .binary bytes =>
      match runtime with
      | .blob => some (fromText "[object Blob]")
      | .arrayBuffer => some (fromText "[object ArrayBuffer]")
      | .nodeBuffer => some (fromText (fromUtf8Lossy bytes))
  | .ping _ => none
  | .pong _ => none
  | .close => none

/-- What a client makes of a message from its socket. -/
def SyncpondClient.receive (client : SyncpondClient Number)
    (runtime : BinaryType) (message : WsMessage) :
    SyncpondClient Number × List (Event Number) :=
  match dataText runtime message with
  | some data => client.handleMessage data
  | none => (client, [])

/-! ## Texts that are not objects -/

/-- An event that the type of a message asks for. -/
def Event.IsTyped (event : Event Number) : Prop :=
  event.name ≠ "error" ∧ event.name ≠ "message"

/-- A text that does not start with a brace is told to `message` at most. -/
theorem handleMessage_not_object {code : CodeUnit} {rest : JsString}
    (client : SyncpondClient Number)
    (visible : isSpace code = false) (noBrace : code ≠ openBrace) :
    (client.handleMessage (code :: rest)).1 = client ∧
      ∀ event ∈ (client.handleMessage (code :: rest)).2,
        ¬event.IsTyped := by
  unfold SyncpondClient.handleMessage
  split
  · simp [Event.IsTyped, Event.name]
  · next message parsed =>
    have noObject := parse_ne_object visible noBrace parsed
    have untyped : client.dispatch message = (client, []) := by
      rw [SyncpondClient.dispatch, get_eq_none noObject]
    split
    · simp
    · simp [untyped, Event.IsTyped, Event.name]

end Syncpond.ClientMessages
