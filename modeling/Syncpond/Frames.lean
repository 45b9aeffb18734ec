import Syncpond.Hub
import Syncpond.Library.Protobuf

/-!
# Frames of the websocket protocol

The envelope of the protocol and its payloads, with their protobuf encoding.
The server sends every frame as a binary message that holds one envelope.
-/

namespace Syncpond.Frames

open Syncpond.Protocol
open Syncpond.Hub
open Syncpond.Library.Protobuf

/-- The first frame of a client. -/
structure Auth where
  jwt : String
  lastSeenCounter : UInt64

/-- The answer to a client whose token is good. -/
structure AuthOk where
  roomCounter : UInt64
deriving DecidableEq

/-- The answer to a client that is turned away. -/
structure AuthError where
  reason : String
  detail : String
deriving DecidableEq

/-- What a client has to say to the kernel. -/
structure ClientCommand where
  payload : ByteArray

/-- What an envelope carries, one of these. -/
inductive Payload where
  | auth (auth : Auth)
  | authOk (ok : AuthOk)
  | authError (error : AuthError)
  | dataUpdate (update : ProtoDataUpdate)
  | clientCommand (command : ClientCommand)

/-- A binary frame, in either direction. -/
structure WsEnvelope where
  payload : Option Payload

/-- A message of the websocket layer. -/
inductive WsMessage where
  | text (text : String)
  | binary (bytes : ByteArray)
  | ping (bytes : ByteArray)
  | pong (bytes : ByteArray)
  | close

/-! ## Encoding -/

namespace Payload

/-- The number of a payload in the envelope. -/
def field : Payload → Nat
  | .auth _ => 1
  | .authOk _ => 2
  | .authError _ => 3
  | .dataUpdate _ => 4
  | .clientCommand _ => 5

/-- The fields of a payload. -/
def body : Payload → List UInt8
  | .auth message =>
      stringField 1 message.jwt ++ uint64Field 2 message.lastSeenCounter
  | .authOk ok => uint64Field 1 ok.roomCounter
  | .authError error =>
      stringField 1 error.reason ++ stringField 2 error.detail
  | .dataUpdate update =>
      uint64Field 1 update.bucketId ++ stringField 2 update.key ++
        bytesField 3 update.value.data.toList ++
        uint64Field 4 update.bucketCounter ++ boolField 5 update.deleted
  | .clientCommand command => bytesField 1 command.payload.data.toList

end Payload

/-- The bytes of an envelope. -/
def WsEnvelope.encodeToVec (envelope : WsEnvelope) : ByteArray :=
  ⟨(match envelope.payload with
    | some payload => delimited payload.field payload.body
    | none => []).toArray⟩

/-- The message that a payload is sent in. -/
def Payload.message (payload : Payload) : WsMessage :=
  .binary (WsEnvelope.encodeToVec ⟨some payload⟩)

end Syncpond.Frames
