import Mathlib.Data.List.Basic

/-!
# The messages of the server

The types of the protocol crate: commands of the upstream API and their
responses, the updates that the kernel sends down the notification channel,
and the messages that the websocket side sends up to the kernel.
-/

namespace Syncpond.Protocol

/-- Unique identifier for a room. -/
abbrev RoomId := UInt64
/-- Identifier for a bucket in a room. -/
abbrev BucketId := UInt64
/-- Identifier for a websocket connection. -/
abbrev ConnId := UInt64
/-- The bytes of a fragment. -/
abbrev FragmentData := ByteArray

instance : DecidableEq FragmentData := ByteArray.instDecidableEq

/-! ## Ids and versions -/

section Succ

variable {number : UInt64} (fits : number.toNat + 1 < UInt64.size)

include fits

theorem toNat_succ : (number + 1).toNat = number.toNat + 1 := by
  rw [UInt64.toNat_add, UInt64.toNat_one, Nat.mod_eq_of_lt fits]

theorem lt_succ : number < number + 1 := by
  rw [UInt64.lt_iff_toNat_lt, toNat_succ fits]
  exact Nat.lt_succ_self _

end Succ

/-- The largest id, for which there is no next one. -/
def maxRoomId : RoomId := 0xFFFFFFFFFFFFFFFF

theorem fits_of_ne_max {roomId : RoomId} (notMax : roomId ≠ maxRoomId) :
    roomId.toNat + 1 < UInt64.size := by
  have below := roomId.toNat_lt
  have different : roomId.toNat ≠ 0xFFFFFFFFFFFFFFFF :=
    fun same => notMax (UInt64.toNat_inj.mp same)
  simp only [UInt64.size]
  omega

instance lawfulOrderMaxUInt64 : Std.LawfulOrderMax UInt64 where
  max_eq_or first second := by
    change (if first ≤ second then second else first) = first ∨
      (if first ≤ second then second else first) = second
    split
    · exact Or.inr rfl
    · exact Or.inl rfl
  max_le_iff first second bound := by
    change (if first ≤ second then second else first) ≤ bound ↔
      first ≤ bound ∧ second ≤ bound
    simp only [UInt64.le_iff_toNat_le]
    split <;> omega

/-! ## Messages -/

/-- A bucket-scoped update event delivered to downstream subscribers. -/
structure DataUpdate (Value : Type) where
  bucketId : BucketId
  key : String
  value : Option Value
  bucketCounter : UInt64

/-- Notifications sent over the internal downstream update channel. -/
inductive UpdateChannelMessage (Value : Type) where
  | broadcast (update : DataUpdate Value)
  | targeted (connId : ConnId) (msg : DataUpdate Value)

/-- The update that a notification carries. -/
def UpdateChannelMessage.update {Value : Type} :
    UpdateChannelMessage Value → DataUpdate Value
  | .broadcast update => update
  | .targeted _ msg => msg

/-- Messages emitted by the downstream websocket server back to the kernel. -/
inductive DownstreamMessage where
  | clientConnected (connId : ConnId) (requestedBuckets : List BucketId)
  | clientDisconnected (connId : ConnId)
  | wsMessage (roomId : RoomId) (payload : ByteArray)

/-- Upstream commands for modifying state or reading fragments. -/
inductive Commands where
  | newRoom (name : String)
  | newBucket (roomId : RoomId) (bucketId : BucketId) (label : String)
  | deleteBucket (roomId : RoomId) (bucketId : BucketId)
  | newMember (roomId : RoomId) (member : String)
  | deleteMember (roomId : RoomId) (member : String)
  | writeFragment (roomId : RoomId) (bucketId : BucketId) (key : String)
      (data : FragmentData)
  | readFragment (roomId : RoomId) (bucketId : BucketId) (key : String)
  | loadRoom (roomId : RoomId)
  | unloadRoom (roomId : RoomId)

/-- Responses returned from command execution. -/
inductive CommandResponse where
  | newRoomResponse (roomId : RoomId)
  | newBucketResponse
  | deleteBucketResponse
  | newMemberResponse
  | deleteMemberResponse
  | fragmentWriteResponse
  | fragmentReadResponse (data : Option FragmentData)
  | loadRoomResponse (result : Except String Unit)
  | unloadRoomResponse (result : Except String Unit)
  | wsMessageAck
deriving DecidableEq

/--
A message with the room whose content it was made from, and the version that
the store gave to that content.  Both are ghosts: the source's messages do not
carry them, and no definition of the model branches on them.
-/
structure Sourced (Content : Type) where
  origin : RoomId
  assigned : Option UInt64
  content : Content

end Syncpond.Protocol
