import Syncpond.Acknowledgement
import Syncpond.BucketLabels
import Syncpond.Tokens

/-!
# The upstream API

The trusted application servers call the kernel by requests.  The service
hands a request to the handler of the kernel and turns the result into a
response or a status; in front of it stands the check of the API key.

A request finds more than the kernel: storage that fails, a clock, a token
library, and hash maps that are iterated in some order.  This is the
`Environment` of the request.
-/

namespace Syncpond.Upstream

open Syncpond.Protocol
open Syncpond.Serde
open Syncpond.State
open Syncpond.Persistence
open Syncpond.Kernel
open Syncpond.Tokens
open Syncpond.Acknowledgement (acknowledge)
open Syncpond.Library.Maps
open Syncpond.Library.Programs
open Syncpond.Library.Text

variable {Value : Type}

/-! ## Messages -/

/-- The requests of the command service. -/
inductive Request where
  | newRoom (name : String)
  | listRooms
  | deleteRoom (roomId : RoomId)
  | issueJwt (roomId : RoomId) (sub : String) (buckets : List BucketId)
  | newBucket (roomId : RoomId) (bucketId : BucketId) (label : String)
  | deleteBucket (roomId : RoomId) (bucketId : BucketId)
  | newMember (roomId : RoomId) (member : String)
  | deleteMember (roomId : RoomId) (member : String)
  | listMembers (roomId : RoomId)
  | listBuckets (roomId : RoomId)
  | readFragment (roomId : RoomId) (bucketId : BucketId) (key : String)
  | writeFragment (roomId : RoomId) (bucketId : BucketId) (key : String)
      (data : FragmentData)
  | loadRoom (roomId : RoomId)
  | unloadRoom (roomId : RoomId)
deriving DecidableEq

/-- The responses of the command service. -/
inductive Response where
  | newRoom (roomId : RoomId)
  | listRooms (rooms : List String)
  | deleteRoom
  | issueJwt (jwt : String)
  | newBucket
  | deleteBucket
  | newMember
  | deleteMember
  | listMembers (members : List String)
  | listBuckets (buckets : List String)
  | readFragment (data : FragmentData) (found : Bool)
  | writeFragment
  | loadRoom
  | unloadRoom
deriving DecidableEq

/-- The codes that the service gives to its errors. -/
inductive Code where
  | invalidArgument
  | notFound
  | failedPrecondition
  | internal
  | unauthenticated
deriving DecidableEq

/-- An error of the service, as the client of a request receives it. -/
structure Status where
  code : Code
  message : String
deriving DecidableEq

/-- What the client of a request receives. -/
abbrev Reply := Except Status Response

/-! ## What the kernel lists -/

/-- The iteration order of the label map, which the source leaves open. -/
structure LabelOrder where
  list : Map String RoomId → List (String × RoomId)
  complete : ∀ labels, (list labels).Perm labels.toList

/-- Labels in ascending order. -/
def LabelOrder.ascending : LabelOrder where
  list labels := labels.toList
  complete _ := .refl _

/-- What a request finds outside of the kernel. -/
structure Environment where
  faults : Faults
  jwt : JsonWebToken
  buckets : BucketOrder
  labels : LabelOrder
  now : UInt64

/-- Get the first label associated with a room, if any. -/
def getRoomLabel (order : LabelOrder) (app : AppState Value)
    (roomId : RoomId) : Option String :=
  ((order.list app.labels).find? fun entry => entry.2 == roomId).map Prod.fst

/-- The line of `list_rooms` for a room. -/
def roomLine (order : LabelOrder) (app : AppState Value) (roomId : RoomId) :
    String :=
  decimal roomId ++ ":" ++ (getRoomLabel order app roomId).getD ""

/-- List members in a room. -/
def listMembers (app : AppState Value) (roomId : RoomId) :
    Except StateError (List String) :=
  app.readRoom roomId fun room =>
    if room.ioLocked then .error .roomIoBusy
    else if !room.loaded then .error .roomNotLoaded
    else .ok room.members.toList

variable [SerdeJson Value]

/-! ## The handler -/

namespace KernelCommandHandler

variable (environment : Environment)

/-- Create a room and return its id. -/
def newRoom (name : String) : Task Value RoomId :=
  (fun response =>
    match response with
    | .newRoomResponse roomId => roomId
    | _ => 0) <$> handleCommand environment.faults (.newRoom name)

/-- List the ids of all rooms with their labels. -/
def listRooms : Task Value (List String) :=
  Program.read .locked fun kernel =>
    kernel.state.listRooms.map (roomLine environment.labels kernel.state)

/-- Delete a room. -/
def deleteRoom (roomId : RoomId) : Task Value (Except String Unit) :=
  Program.atomic .locked (SyncpondKernel.deleteRoom roomId)

/-- Issue a token for a member of a room. -/
def issueJwt (roomId : RoomId) (sub : String) (buckets : List BucketId) :
    Task Value (Except String String) :=
  Program.atomic .locked fun kernel =>
    let (issued, app) := createRoomToken environment.jwt environment.buckets
      environment.now kernel.state roomId sub buckets
    (issued.mapError StateError.toString, { kernel with state := app })

/-- The commands that only acknowledge what they did. -/
def mutate (command : Commands) (success : CommandResponse)
    (failed : String) : Task Value (Except String Unit) :=
  acknowledge success failed <$> handleCommand environment.faults command

/-- Create a bucket with a label. -/
def newBucket (roomId : RoomId) (bucketId : BucketId) (label : String) :
    Task Value (Except String Unit) :=
  mutate environment (.newBucket roomId bucketId label) .newBucketResponse
    "new_bucket_failed"

/-- Delete a bucket with what is in it. -/
def deleteBucket (roomId : RoomId) (bucketId : BucketId) :
    Task Value (Except String Unit) :=
  mutate environment (.deleteBucket roomId bucketId) .deleteBucketResponse
    "delete_bucket_failed"

/-- Add a member to a room. -/
def newMember (roomId : RoomId) (member : String) :
    Task Value (Except String Unit) :=
  mutate environment (.newMember roomId member) .newMemberResponse
    "new_member_failed"

/-- Remove a member from a room. -/
def deleteMember (roomId : RoomId) (member : String) :
    Task Value (Except String Unit) :=
  mutate environment (.deleteMember roomId member) .deleteMemberResponse
    "delete_member_failed"

/-- Write a fragment. -/
def writeFragment (roomId : RoomId) (bucketId : BucketId) (key : String)
    (data : FragmentData) : Task Value (Except String Unit) :=
  mutate environment (.writeFragment roomId bucketId key data)
    .fragmentWriteResponse "write_fragment_failed"

/-- List the members of a room; an error is an empty list. -/
def listMembers (roomId : RoomId) : Task Value (List String) :=
  Program.read .locked fun kernel =>
    match Upstream.listMembers kernel.state roomId with
    | .ok members => members
    | .error _ => []

/-- List the bucket labels of a room. -/
def listBuckets (roomId : RoomId) : Task Value (List String) :=
  Program.read .locked fun kernel =>
    BucketLabels.listBuckets kernel.state roomId

/-- Read a fragment, if there is one. -/
def readFragment (roomId : RoomId) (bucketId : BucketId) (key : String) :
    Task Value (Except String (Option FragmentData)) :=
  (fun response =>
    match response with
    | .fragmentReadResponse data => .ok data
    | .loadRoomResponse (.error error) => .error error
    | _ => .ok none) <$>
    handleCommand environment.faults (.readFragment roomId bucketId key)

/-- Load a room into memory. -/
def loadRoom (roomId : RoomId) : Task Value (Except String Unit) :=
  (fun response =>
    match response with
    | .loadRoomResponse result => result
    | _ => .error "load_room_failed") <$>
    handleCommand environment.faults (.loadRoom roomId)

/-- Drop a room from memory. -/
def unloadRoom (roomId : RoomId) : Task Value (Except String Unit) :=
  (fun response =>
    match response with
    | .unloadRoomResponse result => result
    | _ => .error "unload_room_failed") <$>
    handleCommand environment.faults (.unloadRoom roomId)

end KernelCommandHandler

/-! ## The service -/

/-- The status of a command on a room that failed. -/
def mapRoomError (error : String) : Status :=
  if error = "room_not_loaded" then ⟨.failedPrecondition, error⟩
  else if error = "room_not_found" then ⟨.notFound, error⟩
  else ⟨.internal, error⟩

/-- The status of a token that is not issued. -/
def mapTokenError (error : String) : Status :=
  if error = "room_not_found" then ⟨.notFound, error⟩
  else if error = "reserved_bucket_id" ∨ error = "invalid_member" then
    ⟨.invalidArgument, error⟩
  else if error = "jwt_key_not_configured" ∨ error = "jwt_key_too_short" ∨
      error = "jwt_issuer_audience_not_configured" then
    ⟨.failedPrecondition, error⟩
  else ⟨.internal, error⟩

/-- The reply of a call without data. -/
def replyUnit (response : Response) (status : String → Status) :
    Except String Unit → Reply
  | .ok () => .ok response
  | .error error => .error (status error)

/-- The reply with a token. -/
def tokenReply : Except String String → Reply
  | .ok jwt => .ok (.issueJwt jwt)
  | .error error => .error (mapTokenError error)

/-- The reply with the data of a fragment. -/
def readReply : Except String (Option FragmentData) → Reply
  | .ok (some data) => .ok (.readFragment data true)
  | .ok none => .ok (.readFragment .empty false)
  | .error error => .error (mapRoomError error)

/-- Handle a request. -/
def call (environment : Environment) : Request → Task Value Reply
  | .newRoom name =>
      (fun roomId => .ok (.newRoom roomId)) <$>
        KernelCommandHandler.newRoom environment name
  | .listRooms =>
      (fun rooms => .ok (.listRooms rooms)) <$>
        KernelCommandHandler.listRooms environment
  | .deleteRoom roomId =>
      replyUnit .deleteRoom (fun error => ⟨.notFound, error⟩) <$>
        KernelCommandHandler.deleteRoom roomId
  | .issueJwt roomId sub buckets =>
      tokenReply <$>
        KernelCommandHandler.issueJwt environment roomId sub buckets
  | .newBucket roomId bucketId label =>
      replyUnit .newBucket mapRoomError <$>
        KernelCommandHandler.newBucket environment roomId bucketId label
  | .deleteBucket roomId bucketId =>
      replyUnit .deleteBucket mapRoomError <$>
        KernelCommandHandler.deleteBucket environment roomId bucketId
  | .newMember roomId member =>
      replyUnit .newMember mapRoomError <$>
        KernelCommandHandler.newMember environment roomId member
  | .deleteMember roomId member =>
      replyUnit .deleteMember mapRoomError <$>
        KernelCommandHandler.deleteMember environment roomId member
  | .listMembers roomId =>
      (fun members => .ok (.listMembers members)) <$>
        KernelCommandHandler.listMembers roomId
  | .listBuckets roomId =>
      (fun buckets => .ok (.listBuckets buckets)) <$>
        KernelCommandHandler.listBuckets roomId
  | .readFragment roomId bucketId key =>
      readReply <$>
        KernelCommandHandler.readFragment environment roomId bucketId key
  | .writeFragment roomId bucketId key data =>
      replyUnit .writeFragment mapRoomError <$>
        KernelCommandHandler.writeFragment environment roomId bucketId key data
  | .loadRoom roomId =>
      replyUnit .loadRoom (fun error => ⟨.failedPrecondition, error⟩) <$>
        KernelCommandHandler.loadRoom environment roomId
  | .unloadRoom roomId =>
      replyUnit .unloadRoom (fun error => ⟨.notFound, error⟩) <$>
        KernelCommandHandler.unloadRoom environment roomId

/-- The mutations without storage failures are those of the handler. -/
theorem mutation_handle (environment : Environment)
    (noFaults : environment.faults = .none) (roomId : RoomId) :
    ∀ mutation : Acknowledgement.Mutation,
      (mutation.handle roomId : Task Value (Except String Unit)) =
        match mutation with
        | .newBucket bucketId label =>
            KernelCommandHandler.newBucket environment roomId bucketId label
        | .deleteBucket bucketId =>
            KernelCommandHandler.deleteBucket environment roomId bucketId
        | .newMember member =>
            KernelCommandHandler.newMember environment roomId member
        | .deleteMember member =>
            KernelCommandHandler.deleteMember environment roomId member
        | .writeFragment bucketId key data =>
            KernelCommandHandler.writeFragment environment roomId bucketId key
              data := by
  intro mutation
  obtain ⟨faults, jwt, buckets, labels, now⟩ := environment
  cases noFaults
  cases mutation <;> rfl

end Syncpond.Upstream
