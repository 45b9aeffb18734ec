import Syncpond.ClientMessages
import Syncpond.Handshake

/-!
# The script client and the server

The client writes its token as JSON in a text message, and reads every
message as JSON.  The server reads the token from a protobuf envelope in a
binary message, and writes every frame as such an envelope.

The server therefore answers the text of every client with
`invalid_auth_message`.  The bytes of every frame start with the key of its
payload, which is neither white space nor a brace, so that no runtime can show
the client an object.
-/

namespace Syncpond.ClientProtocol

open Syncpond.Hub
open Syncpond.Frames
open Syncpond.Handshake
open Syncpond.ClientMessages
open Syncpond.Library.Protobuf
open Syncpond.Library.Text
open Syncpond.Library.JsonScript

/-- The frames that a server sends. -/
inductive ServerFrame where
  | authOk (ok : AuthOk)
  | authError (error : AuthError)
  | dataUpdate (update : ProtoDataUpdate)

def ServerFrame.payload : ServerFrame → Payload
  | .authOk ok => .authOk ok
  | .authError error => .authError error
  | .dataUpdate update => .dataUpdate update

variable {Number : Type} [ScriptNumber Number]

/-! ## One protocol -/

/-- A counter as a number of the script. -/
def counterValue (counter : UInt64) : JsValue Number :=
  .number (ScriptNumber.ofLiteral (fromText (decimal counter)))

/-- The server reads the token and the counter that the client presents. -/
def ReadsAuth (around : Surroundings) (client : SyncpondClient Number) :
    Prop :=
  ∃ frame auth, client.sendAuth (some .opened) = some frame ∧
    readAuth around (some (.ok frame)) = .ok auth ∧
    auth.jwt = toText client.jwt ∧
    match client.lastSeenCounter with
    | some counter => counter = counterValue auth.lastSeenCounter
    | none => auth.lastSeenCounter = 0

/-- An event says what the frame says. -/
def SameContent (frame : ServerFrame) (event : Event Number) : Prop :=
  match frame with
  | .authOk ok => ∃ message, event = .authOk message ∧
      message.get "room_counter" = some (counterValue ok.roomCounter)
  | .authError error => ∃ message, event = .authError message ∧
      message.get "reason" = some (.string (fromText error.reason))
  | .dataUpdate update => ∃ message, event = .update message ∧
      message.get "room_counter" = some (counterValue update.bucketCounter) ∧
      message.get "key" = some (.string (fromText update.key)) ∧
      message.get "value" = parse (fromText (fromUtf8Lossy update.value))

/-- The client emits an event that says what the frame says. -/
def HearsFrame (runtime : BinaryType) (client : SyncpondClient Number)
    (frame : ServerFrame) : Prop :=
  ∃ event ∈ (client.receive runtime frame.payload.message).2,
    SameContent frame event

theorem SameContent.isTyped {frame : ServerFrame} {event : Event Number}
    (same : SameContent frame event) : event.IsTyped := by
  cases frame with
  | authOk ok =>
      obtain ⟨message, rfl, _⟩ := same
      simp [Event.IsTyped, Event.name]
  | authError error =>
      obtain ⟨message, rfl, _⟩ := same
      simp [Event.IsTyped, Event.name]
  | dataUpdate update =>
      obtain ⟨message, rfl, _⟩ := same
      simp [Event.IsTyped, Event.name]

/-! ## From the client to the server -/

/-- The server reads no token from a client. -/
theorem readAuth_sendAuth (around : Surroundings)
    (client : SyncpondClient Number) :
    ∃ text, client.sendAuth (some .opened) = some (.text text) ∧
      readAuth around (some (.ok (.text text))) = .error (some {
        reason := "invalid_auth_message"
        detail := "expected binary protobuf authentication frame" }) :=
  ⟨_, rfl, rfl⟩

theorem not_readsAuth (around : Surroundings)
    (client : SyncpondClient Number) : ¬ReadsAuth around client := by
  rintro ⟨frame, auth, sent, isRead, _⟩
  obtain ⟨text, isText, refused⟩ := readAuth_sendAuth around client
  rw [isText] at sent
  cases sent
  rw [refused] at isRead
  cases isRead

/-! ## From the server to the client -/

/-- The number of a frame's payload. -/
theorem field_payload (frame : ServerFrame) :
    frame.payload.field = 2 ∨ frame.payload.field = 3 ∨
      frame.payload.field = 4 := by
  cases frame with
  | authOk ok => exact Or.inl rfl
  | authError error => exact Or.inr (Or.inl rfl)
  | dataUpdate update => exact Or.inr (Or.inr rfl)

/-- The bytes of a payload start with its key. -/
theorem encodeToVec_eq_cons (payload : Payload) (low : payload.field < 16) :
    ∃ rest, (WsEnvelope.encodeToVec ⟨some payload⟩).data.toList =
      UInt8.ofNat (payload.field * 8 + 2) :: rest := by
  obtain ⟨rest, starts⟩ := exists_delimited_eq_cons low payload.body
  exact ⟨rest, by simpa [WsEnvelope.encodeToVec] using starts⟩

/-- The bytes of a frame as a text start with the key of its payload. -/
theorem lossyText_eq_cons (frame : ServerFrame) :
    ∃ code rest,
      fromText (fromUtf8Lossy
        (WsEnvelope.encodeToVec ⟨some frame.payload⟩)) = code :: rest ∧
      isSpace code = false ∧ code ≠ openBrace := by
  have fields := field_payload frame
  obtain ⟨rest, bytes⟩ := encodeToVec_eq_cons frame.payload (by omega)
  have starts (key : UInt8) (ascii : key < 0x80)
      (isKey : UInt8.ofNat (frame.payload.field * 8 + 2) = key)
      (low : (Char.ofNat key.toNat).toNat < 0x10000) :
      fromText (fromUtf8Lossy
          (WsEnvelope.encodeToVec ⟨some frame.payload⟩)) =
        unit (Char.ofNat key.toNat) ::
          fromText (String.ofList (lossyChars rest)) := by
    rw [fromUtf8Lossy, bytes, isKey, lossyChars_cons_of_lt ascii,
      fromText_ofList_cons low]
  rcases fields with isOk | isError | isUpdate
  · exact ⟨_, _, starts 0x12 (by decide) (by rw [isOk]; rfl) (by decide),
      by decide, by decide⟩
  · exact ⟨_, _, starts 0x1A (by decide) (by rw [isError]; rfl) (by decide),
      by decide, by decide⟩
  · exact ⟨_, _, starts 0x22 (by decide) (by rw [isUpdate]; rfl) (by decide),
      by decide, by decide⟩

/-- No runtime shows the client an object. -/
theorem dataText_payload (runtime : BinaryType) (frame : ServerFrame) :
    ∃ code rest,
      dataText runtime frame.payload.message = some (code :: rest) ∧
        isSpace code = false ∧ code ≠ openBrace := by
  cases runtime with
  | blob => exact ⟨_, _, rfl, by decide, by decide⟩
  | arrayBuffer => exact ⟨_, _, rfl, by decide, by decide⟩
  | nodeBuffer =>
      obtain ⟨code, rest, isText, visible, noBrace⟩ :=
        lossyText_eq_cons frame
      exact ⟨code, rest, congrArg some isText, visible, noBrace⟩

/-- A frame changes nothing in a client and is told to `message` at most. -/
theorem receive_payload (runtime : BinaryType)
    (client : SyncpondClient Number) (frame : ServerFrame) :
    (client.receive runtime frame.payload.message).1 = client ∧
      ∀ event ∈ (client.receive runtime frame.payload.message).2,
        ¬event.IsTyped := by
  obtain ⟨code, rest, isText, visible, noBrace⟩ :=
    dataText_payload runtime frame
  rw [SyncpondClient.receive, isText]
  exact handleMessage_not_object client visible noBrace

theorem not_hearsFrame (runtime : BinaryType)
    (client : SyncpondClient Number) (frame : ServerFrame) :
    ¬HearsFrame runtime client frame := by
  rintro ⟨event, emitted, same⟩
  exact (receive_payload runtime client frame).2 event emitted same.isTyped

/-- The client and the server understand nothing of what the other says. -/
theorem protocols_disjoint (around : Surroundings) (runtime : BinaryType)
    (client : SyncpondClient Number) (frame : ServerFrame) :
    ¬ReadsAuth around client ∧ ¬HearsFrame runtime client frame :=
  ⟨not_readsAuth around client, not_hearsFrame runtime client frame⟩

/-! ## A member with a script client -/

/-- A number as the literal that it was read from. -/
structure Literal where
  codes : JsString

instance : ScriptNumber Literal where
  ofLiteral := .mk
  toJson := Literal.codes
  isZero literal := literal.codes == [unit '0']

/-- A client with the token of a member. -/
def memberClient : SyncpondClient Literal where
  jwt := fromText memberToken
  lastSeenCounter := none

/-- The token is good, but neither side understands the other. -/
theorem memberClient_unheard :
    (∃ claims, Presents memberSurroundings memberFrame claims) ∧
      (handshake memberSurroundings
          ((memberClient.sendAuth (some .opened)).map .ok) .new).sent =
        [.authError ⟨"invalid_auth_message",
          "expected binary protobuf authentication frame"⟩] ∧
      (memberClient.receive .nodeBuffer
          (ServerFrame.authOk ⟨0⟩).payload.message).2.map Event.name =
        ["error"] ∧
      ¬ReadsAuth memberSurroundings memberClient ∧
      ¬HearsFrame .nodeBuffer memberClient (.authOk ⟨0⟩) :=
  ⟨⟨_, presents_member⟩, rfl, by decide +kernel,
    not_readsAuth memberSurroundings memberClient,
    not_hearsFrame .nodeBuffer memberClient (.authOk ⟨0⟩)⟩

end Syncpond.ClientProtocol
