import Syncpond.HubIndex

/-!
# Admission to a bucket

A new connection is refused when one of its buckets already has
`MAX_WS_CLIENTS_PER_BUCKET` clients.  The buckets of the hub are shared by all
rooms, so the clients that are counted are those of every room: what decides
over a client of one room is how many clients of the other rooms are allowed
its buckets, bucket 0 among them.
-/

namespace Syncpond.Admission

open Syncpond.Protocol
open Syncpond.Serde
open Syncpond.Hub
open Syncpond.HubIndex
open Syncpond.Library.Maps
open Syncpond.Library.Runs

/-- What a connection is told when it takes an id and asks to be added. -/
def admission (hub : WsHub) (roomId : RoomId)
    (allowedBuckets : FinSet BucketId) (sender : Nat) : Except String Unit :=
  let (connId, allocated) := hub.allocateConnectionId
  (allocated.addClient connId roomId allowedBuckets sender).map fun _ => ()

/-! ## The clients of a bucket -/

/-- The registered clients that meet a condition, with the bucket. -/
def clientsWhere (hub : WsHub) (bucketId : BucketId)
    (condition : RoomId → Bool) : List ConnId :=
  (hub.connections.toList.filter fun (_, client) =>
    client.buckets.contains bucketId && condition client.roomId).map Prod.fst

/-- The clients of a room that are allowed a bucket. -/
def roomClients (hub : WsHub) (roomId : RoomId) (bucketId : BucketId) :
    List ConnId :=
  clientsWhere hub bucketId (· == roomId)

/-- The clients of the other rooms that are allowed a bucket. -/
def otherClients (hub : WsHub) (roomId : RoomId) (bucketId : BucketId) :
    List ConnId :=
  clientsWhere hub bucketId (· != roomId)

/-- Two hubs have the same connections of a room. -/
def SameRoom (roomId : RoomId) (one other : WsHub) : Prop :=
  ∀ (connId : ConnId) (buckets : FinSet BucketId),
    (∃ client, one.connections[connId]? = some client ∧
      client.roomId = roomId ∧ client.buckets = buckets) ↔
    ∃ client, other.connections[connId]? = some client ∧
      client.roomId = roomId ∧ client.buckets = buckets

section Counting

variable {hub : WsHub} {bucketId : BucketId} {condition : RoomId → Bool}

theorem mem_clientsWhere {connId : ConnId} :
    connId ∈ clientsWhere hub bucketId condition ↔
      ∃ client, hub.connections[connId]? = some client ∧
        bucketId ∈ client.buckets ∧ condition client.roomId := by
  simp [clientsWhere, Std.ExtTreeMap.mem_toList_iff_getElem?_eq_some]

theorem nodup_clientsWhere : (clientsWhere hub bucketId condition).Nodup := by
  unfold clientsWhere
  have distinct : (hub.connections.toList.map Prod.fst).Nodup := by
    rw [List.Nodup, List.pairwise_map]
    exact pairwise_keys_ne hub.connections
  exact distinct.sublist (List.filter_sublist.map Prod.fst)

/-- The clients of a bucket are those of a room and those of the others. -/
theorem length_clientsWhere (roomId : RoomId) :
    (clientsWhere hub bucketId fun _ => true).length =
      (roomClients hub roomId bucketId).length +
        (otherClients hub roomId bucketId).length := by
  simp only [roomClients, otherClients, clientsWhere, List.length_map,
    ← List.countP_eq_length_filter]
  induction hub.connections.toList with
  | nil => rfl
  | cons entry rest ih =>
      rw [List.countP_cons, List.countP_cons, List.countP_cons, ih]
      by_cases same : entry.2.roomId = roomId
      · simp [same]
        omega
      · simp [same]
        omega

/-- The index counts the clients that are allowed a bucket. -/
theorem size_eq_length (indexed : Indexed hub) {clients : FinSet ConnId}
    (found : hub.buckets[bucketId]? = some clients) :
    clients.size = (clientsWhere hub bucketId fun _ => true).length := by
  rw [← Std.ExtTreeSet.length_toList]
  apply List.Perm.length_eq
  rw [List.perm_ext_iff_of_nodup (nodup_toList clients) nodup_clientsWhere]
  intro connId
  rw [Std.ExtTreeSet.mem_toList, mem_clientsWhere]
  have listed := indexed.listed_iff connId bucketId
  rw [listed_iff_mem, found, Option.getD_some] at listed
  simpa [Allowed] using listed

/-- The clients of a room are the same in hubs with the same connections. -/
theorem SameRoom.length_roomClients {roomId : RoomId} {one other : WsHub}
    (same : SameRoom roomId one other) (bucketId : BucketId) :
    (roomClients one roomId bucketId).length =
      (roomClients other roomId bucketId).length := by
  unfold roomClients
  apply List.Perm.length_eq
  rw [List.perm_ext_iff_of_nodup nodup_clientsWhere nodup_clientsWhere]
  intro connId
  simp only [mem_clientsWhere, beq_iff_eq]
  constructor
  · rintro ⟨client, present, allowed, ofRoom⟩
    obtain ⟨twin, isTwin, twinRoom, buckets⟩ :=
      (same connId client.buckets).mp ⟨client, present, ofRoom, rfl⟩
    exact ⟨twin, isTwin, buckets ▸ allowed, twinRoom⟩
  · rintro ⟨client, present, allowed, ofRoom⟩
    obtain ⟨twin, isTwin, twinRoom, buckets⟩ :=
      (same connId client.buckets).mpr ⟨client, present, ofRoom, rfl⟩
    exact ⟨twin, isTwin, buckets ▸ allowed, twinRoom⟩

/-- Hubs without connections of a room have the same connections of it. -/
theorem sameRoom_of_absent {roomId : RoomId} {one other : WsHub}
    (inOne : ∀ entry ∈ one.connections.toList, entry.2.roomId ≠ roomId)
    (inOther : ∀ entry ∈ other.connections.toList, entry.2.roomId ≠ roomId) :
    SameRoom roomId one other := by
  intro connId buckets
  constructor
  · rintro ⟨client, present, ofRoom, _⟩
    exact absurd ofRoom (inOne (connId, client)
      (Std.ExtTreeMap.mem_toList_iff_getElem?_eq_some.mpr present))
  · rintro ⟨client, present, ofRoom, _⟩
    exact absurd ofRoom (inOther (connId, client)
      (Std.ExtTreeMap.mem_toList_iff_getElem?_eq_some.mpr present))

end Counting

/-! ## Who is refused -/

/-- A new client meets a full bucket where the index has enough clients. -/
theorem isFull_iff {hub : WsHub} (indexed : Indexed hub) {connId : ConnId}
    (isNew : hub.connections[connId]? = none) (roomId : RoomId)
    (bucketId : BucketId) :
    hub.isFull connId bucketId = true ↔
      maxWsClientsPerBucket ≤ (roomClients hub roomId bucketId).length +
        (otherClients hub roomId bucketId).length := by
  rw [← length_clientsWhere]
  unfold WsHub.isFull
  split
  · next clients found =>
    have unlisted : connId ∉ clients := by
      intro member
      obtain ⟨client, present, _⟩ :=
        (indexed.listed_iff connId bucketId).mp ⟨clients, found, member⟩
      cases isNew.symm.trans present
    rw [← Std.ExtTreeSet.contains_iff_mem, Bool.not_eq_true] at unlisted
    rw [size_eq_length indexed found, unlisted]
    simp
  · next absent =>
    have nobody : clientsWhere hub bucketId (fun _ => true) = [] := by
      rw [List.eq_nil_iff_forall_not_mem]
      intro other member
      obtain ⟨client, present, allowed, _⟩ := mem_clientsWhere.mp member
      obtain ⟨clients, found, _⟩ :=
        (indexed.listed_iff other bucketId).mpr ⟨client, present, allowed⟩
      cases absent.symm.trans found
    simp [nobody, maxWsClientsPerBucket]

/-- Some allowed bucket has as many clients as it may have. -/
def Crowded (allowedBuckets : FinSet BucketId)
    (own others : BucketId → List ConnId) : Prop :=
  ∃ bucketId ∈ allowedBuckets,
    maxWsClientsPerBucket ≤ (own bucketId).length + (others bucketId).length

theorem admission_eq_ok_or_error (hub : WsHub) (roomId : RoomId)
    (allowedBuckets : FinSet BucketId) (sender : Nat) :
    admission hub roomId allowedBuckets sender = .ok () ∨
      admission hub roomId allowedBuckets sender =
        .error "bucket_client_limit_exceeded" := by
  simp only [admission, WsHub.addClient]
  split
  · exact Or.inr rfl
  · exact Or.inl rfl

theorem admission_eq_error_iff_isFull {hub : WsHub} {roomId : RoomId}
    {allowedBuckets : FinSet BucketId} {sender : Nat} :
    admission hub roomId allowedBuckets sender =
        .error "bucket_client_limit_exceeded" ↔
      ∃ bucketId ∈ allowedBuckets,
        hub.isFull hub.nextConnId bucketId = true := by
  have any_iff : allowedBuckets.toList.any
        (hub.allocateConnectionId.2.isFull hub.nextConnId) = true ↔
      ∃ bucketId ∈ allowedBuckets,
        hub.isFull hub.nextConnId bucketId = true := by
    rw [List.any_eq_true]
    simp only [Std.ExtTreeSet.mem_toList]
    rfl
  rw [← any_iff]
  simp only [admission, WsHub.addClient]
  split
  · next isFull => exact iff_of_true rfl isFull
  · next notFull => exact iff_of_false (by rintro ⟨⟩) notFull

variable {Value : Type}

/-- The ids that were added come from the hub. -/
structure Registered (history : HubHistory) : Prop
    extends Consistent history where
  allocated : ∀ connId ∈ history.added, connId ∈ history.allocated

namespace Registered

theorem start : Registered .start where
  toConsistent := .start
  allocated := by simp [HubHistory.start]

variable [SerdeJson Value]

theorem apply {history : HubHistory} (registered : Registered history)
    {operation : HubOperation Value} (orderly : Orderly history operation) :
    Registered (history.apply operation) := by
  refine ⟨registered.toConsistent.apply orderly, ?_⟩
  cases operation with
  | allocateConnectionId =>
      intro connId member
      exact List.mem_append_left _ (registered.allocated connId member)
  | addClient connId roomId allowedBuckets sender =>
      intro other member
      rcases List.mem_append.mp member with older | new
      · exact registered.allocated other older
      · rw [List.mem_singleton.mp new]
        exact orderly.1
  | removeClient connId => exact registered.allocated
  | sendTargetedUpdate clientId update => exact registered.allocated
  | broadcastUpdate update => exact registered.allocated
  | setQueues queues => exact registered.allocated

theorem of_run {operations : List (HubOperation Value)}
    (orderly : Along HubHistory.apply Orderly .start operations) :
    Registered (operations.foldl HubHistory.apply .start) :=
  orderly.invariant Registered
    (fun _ _ isOrderly registered => registered.apply isOrderly) .start

omit [SerdeJson Value] in
/-- The next id is not in use. -/
theorem isNew_next {history : HubHistory} (registered : Registered history) :
    history.hub.connections[history.hub.nextConnId]? = none :=
  registered.isNew fun added =>
    registered.nextConnId_notMem (registered.allocated _ added)

/-- A connection is refused if one of its buckets is full, whoever fills it. -/
theorem admission_eq_error_iff {history : HubHistory}
    (registered : Registered history)
    (roomId : RoomId) (allowedBuckets : FinSet BucketId) (sender : Nat) :
    admission history.hub roomId allowedBuckets sender =
        .error "bucket_client_limit_exceeded" ↔
      Crowded allowedBuckets (roomClients history.hub roomId)
        (otherClients history.hub roomId) := by
  rw [admission_eq_error_iff_isFull]
  simp only [isFull_iff registered.indexed registered.isNew_next roomId]
  rfl

end Registered

/-! ## Admission does not depend on the room alone -/

variable [SerdeJson Value]

/--
In hubs with the same connections of a room, a new connection of the room gets
the same answer exactly when it finds a full bucket in both or in neither, where
the clients of the room count together with those of the other rooms.
-/
theorem admission_agrees_iff {one other : List (HubOperation Value)}
    (orderlyOne : Along HubHistory.apply Orderly .start one)
    (orderlyOther : Along HubHistory.apply Orderly .start other)
    {roomId : RoomId}
    (same : SameRoom roomId (one.foldl HubHistory.apply .start).hub
      (other.foldl HubHistory.apply .start).hub)
    (allowedBuckets : FinSet BucketId) (sender otherSender : Nat) :
    let hub := (one.foldl HubHistory.apply .start).hub
    let otherHub := (other.foldl HubHistory.apply .start).hub
    admission hub roomId allowedBuckets sender =
        admission otherHub roomId allowedBuckets otherSender ↔
      (Crowded allowedBuckets (roomClients hub roomId)
          (otherClients hub roomId) ↔
        Crowded allowedBuckets (roomClients hub roomId)
          (otherClients otherHub roomId)) := by
  intro hub otherHub
  have refused := (Registered.of_run orderlyOne).admission_eq_error_iff
    roomId allowedBuckets sender
  have otherRefused := (Registered.of_run orderlyOther).admission_eq_error_iff
    roomId allowedBuckets otherSender
  have sameCrowd : Crowded allowedBuckets (roomClients otherHub roomId)
        (otherClients otherHub roomId) ↔
      Crowded allowedBuckets (roomClients hub roomId)
        (otherClients otherHub roomId) := by
    simp only [Crowded, hub, otherHub, same.length_roomClients]
  rw [← refused, ← sameCrowd, ← otherRefused]
  rcases admission_eq_ok_or_error hub roomId allowedBuckets sender with
    taken | isRefused
  · rcases admission_eq_ok_or_error otherHub roomId allowedBuckets
      otherSender with otherTaken | otherIsRefused
    · simp [hub, otherHub, taken, otherTaken]
    · simp [hub, otherHub, taken, otherIsRefused]
  · rcases admission_eq_ok_or_error otherHub roomId allowedBuckets
      otherSender with otherTaken | otherIsRefused
    · simp [hub, otherHub, isRefused, otherTaken]
    · simp [hub, otherHub, isRefused, otherIsRefused]

/-- Clients of room 2 connect, each with bucket 0. -/
def clientsOfRoomTwo (count : Nat) : List (HubOperation Json) :=
  (List.range count).flatMap fun position =>
    [.allocateConnectionId,
      .addClient (UInt64.ofNat (position + 1)) 2
        (({} : FinSet BucketId).insert 0) position]

/-- The ids of the clients of room 2. -/
def idsOfRoomTwo (count : Nat) : List ConnId :=
  (List.range count).map fun position => UInt64.ofNat (position + 1)

theorem clientsOfRoomTwo_succ (count : Nat) :
    clientsOfRoomTwo (count + 1) =
      clientsOfRoomTwo count ++ [.allocateConnectionId,
        .addClient (UInt64.ofNat (count + 1)) 2
          (({} : FinSet BucketId).insert 0) count] := by
  simp [clientsOfRoomTwo, List.range_succ]

theorem notMem_idsOfRoomTwo {count : Nat} (fits : count + 1 < UInt64.size) :
    UInt64.ofNat (count + 1) ∉ idsOfRoomTwo count := by
  intro member
  obtain ⟨position, inRange, same⟩ := List.mem_map.mp member
  have earlier : position < count := List.mem_range.mp inRange
  have equal := congrArg UInt64.toNat same
  rw [UInt64.toNat_ofNat_of_lt' (by omega), UInt64.toNat_ofNat_of_lt' fits]
    at equal
  omega

/-- The clients of room 2 take the ids from 1 on, each of them once. -/
theorem orderly_clientsOfRoomTwo {count : Nat}
    (fits : count + 1 < UInt64.size) :
    let history := (clientsOfRoomTwo count).foldl HubHistory.apply .start
    Along HubHistory.apply Orderly .start (clientsOfRoomTwo count) ∧
      history.allocated = idsOfRoomTwo count ∧
      history.added = idsOfRoomTwo count := by
  induction count with
  | zero => exact ⟨trivial, rfl, rfl⟩
  | succ count ih =>
      intro history
      obtain ⟨along, allocated, added⟩ := ih (by omega)
      have length : (idsOfRoomTwo count).length = count := by
        simp [idsOfRoomTwo]
      have next := (Registered.of_run along).toConsistent.next
      rw [allocated, length] at next
      have isNext := UInt64.toNat_inj.mp (next.trans
        (UInt64.toNat_ofNat_of_lt' (by omega)).symm)
      have ids : idsOfRoomTwo (count + 1) =
          idsOfRoomTwo count ++ [UInt64.ofNat (count + 1)] := by
        simp [idsOfRoomTwo, List.range_succ]
      simp only [history, clientsOfRoomTwo_succ, List.foldl_append, ids,
        along_append]
      generalize (clientsOfRoomTwo count).foldl HubHistory.apply .start =
        before at allocated added isNext
      refine ⟨⟨along, ?_, ⟨?_, ?_⟩, trivial⟩, ?_, ?_⟩
      · change before.allocated.length + 2 < UInt64.size
        rw [allocated, length]
        exact fits
      · change _ ∈ before.allocated ++ [before.hub.nextConnId]
        simp [isNext]
      · change _ ∉ before.added
        rw [added]
        exact notMem_idsOfRoomTwo (by omega)
      · change before.allocated ++ [before.hub.nextConnId] = _
        rw [allocated, isNext]
      · change before.added ++ [UInt64.ofNat (count + 1)] = _
        rw [added]

theorem admission_agrees_iff_oneClient :
    let hub := ((clientsOfRoomTwo 1).foldl HubHistory.apply .start).hub
    let allowedBuckets := ({} : FinSet BucketId).insert 0
    admission hub 1 allowedBuckets 1 = admission .new 1 allowedBuckets 0 ↔
      (Crowded allowedBuckets (roomClients hub 1) (otherClients hub 1) ↔
        Crowded allowedBuckets (roomClients hub 1) (otherClients .new 1)) := by
  intro hub allowedBuckets
  have orderly : Along HubHistory.apply Orderly .start
      (clientsOfRoomTwo 1) := (orderly_clientsOfRoomTwo (by decide)).1
  have nothing : Along HubHistory.apply Orderly .start
      ([] : List (HubOperation Json)) := trivial
  have same : SameRoom 1 hub .new :=
    sameRoom_of_absent (by decide +kernel) (by decide +kernel)
  exact admission_agrees_iff orderly nothing same allowedBuckets 1 0

/-- Two hundred clients of room 2 keep the first client out of room 1. -/
theorem otherRoom_refuses :
    let hub := ((clientsOfRoomTwo 200).foldl HubHistory.apply .start).hub
    let allowedBuckets := ({} : FinSet BucketId).insert 0
    Along HubHistory.apply Orderly .start (clientsOfRoomTwo 200) ∧
      SameRoom 1 hub .new ∧
      admission hub 1 allowedBuckets 200 =
        .error "bucket_client_limit_exceeded" ∧
      admission .new 1 allowedBuckets 0 = .ok () := by
  refine ⟨(orderly_clientsOfRoomTwo (by decide)).1, ?_, ?_,
    by decide +kernel⟩
  · exact sameRoom_of_absent (by decide +kernel) (by decide +kernel)
  · decide +kernel

end Syncpond.Admission
