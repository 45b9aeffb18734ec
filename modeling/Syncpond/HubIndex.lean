import Syncpond.Hub
import Syncpond.Library.Runs

/-!
# The index of the hub

The hub stores its subscriptions twice: with each client the buckets that it
was allowed, and with each bucket the clients that subscribe to it.  The two
agree in every run of the hub, whatever the queues of the clients do, as long
as ids are allocated before they are added and none is added twice.
-/

namespace Syncpond.HubIndex

open Syncpond.Protocol
open Syncpond.Serde
open Syncpond.Hub
open Syncpond.Library.Maps
open Syncpond.Library.Runs

variable {Value : Type}

/-! ## Runs of the hub -/

/-- What is done to a hub, one operation at a time. -/
inductive HubOperation (Value : Type) where
  | allocateConnectionId
  | addClient (connId : ConnId) (roomId : RoomId)
      (allowedBuckets : FinSet BucketId) (sender : Nat)
  | removeClient (connId : ConnId)
  | sendTargetedUpdate (clientId : ConnId)
      (update : Sourced (DataUpdate Value))
  | broadcastUpdate (update : Sourced (DataUpdate Value))
  /-- The connections open, drain, fill and close their queues. -/
  | setQueues (queues : List Queue)

/-- A hub, with the ids that it allocated and those that were added. -/
structure HubHistory where
  hub : WsHub
  allocated : List ConnId
  added : List ConnId

namespace HubHistory

def start : HubHistory := ⟨.new, [], []⟩

variable [SerdeJson Value]

def apply (history : HubHistory) : HubOperation Value → HubHistory
  | .allocateConnectionId =>
      let (connId, hub) := history.hub.allocateConnectionId
      { history with hub := hub, allocated := history.allocated ++ [connId] }
  | .addClient connId roomId allowedBuckets sender =>
      { history with
        hub :=
          match history.hub.addClient connId roomId allowedBuckets sender with
          | .ok hub => hub
          | .error _ => history.hub
        added := history.added ++ [connId] }
  | .removeClient connId =>
      { history with hub := history.hub.removeClient connId }
  | .sendTargetedUpdate clientId update =>
      { history with hub := (history.hub.sendTargetedUpdate clientId update).2 }
  | .broadcastUpdate update =>
      { history with hub := history.hub.broadcastUpdate update }
  | .setQueues queues =>
      { history with hub := { history.hub with queues := queues } }

end HubHistory

/--
There are fewer than `u64::MAX` allocations, and an added id was allocated and
not added before.
-/
def Orderly (history : HubHistory) : HubOperation Value → Prop
  | .allocateConnectionId => history.allocated.length + 2 < UInt64.size
  | .addClient connId _ _ _ =>
      connId ∈ history.allocated ∧ connId ∉ history.added
  | _ => True

instance (history : HubHistory) (operation : HubOperation Value) :
    Decidable (Orderly history operation) :=
  match operation with
  | .allocateConnectionId => inferInstanceAs (Decidable (_ < _))
  | .addClient _ _ _ _ => inferInstanceAs (Decidable (_ ∧ _))
  | .removeClient _ => .isTrue trivial
  | .sendTargetedUpdate _ _ => .isTrue trivial
  | .broadcastUpdate _ => .isTrue trivial
  | .setQueues _ => .isTrue trivial

/-! ## Consistent indices -/

/-- The client subscribes to the bucket, by the index. -/
def Listed (hub : WsHub) (connId : ConnId) (bucketId : BucketId) : Prop :=
  ∃ clients, hub.buckets[bucketId]? = some clients ∧ connId ∈ clients

/-- The client is registered and was allowed the bucket. -/
def Allowed (hub : WsHub) (connId : ConnId) (bucketId : BucketId) : Prop :=
  ∃ client, hub.connections[connId]? = some client ∧
    bucketId ∈ client.buckets

theorem listed_iff_mem {hub : WsHub} {connId : ConnId} {bucketId : BucketId} :
    Listed hub connId bucketId ↔ connId ∈ hub.buckets[bucketId]?.getD ∅ := by
  unfold Listed
  cases hub.buckets[bucketId]? <;> simp

/-- The index lists what the clients were allowed. -/
structure Indexed (hub : WsHub) : Prop where
  listed_iff : ∀ connId bucketId,
    Listed hub connId bucketId ↔ Allowed hub connId bucketId
  nonempty : ∀ (bucketId : BucketId) (clients : FinSet ConnId),
    hub.buckets[bucketId]? = some clients → clients.isEmpty = false
  bounded : ∀ (bucketId : BucketId) (clients : FinSet ConnId),
    hub.buckets[bucketId]? = some clients →
      clients.size ≤ maxWsClientsPerBucket

/-! ### Lookups in the index -/

section Lookups

variable {connId : ConnId}

/-- The clients of a bucket after one of them was added. -/
theorem lookup_foldl_subscribe (added : List BucketId)
    (buckets : Map BucketId (FinSet ConnId)) (bucketId : BucketId) :
    (added.foldl (WsHub.subscribe connId) buckets)[bucketId]? =
      if bucketId ∈ added then
        some ((buckets[bucketId]?.getD ∅).insert connId)
      else buckets[bucketId]? := by
  induction added generalizing buckets with
  | nil => simp
  | cons head tail ih =>
      rw [List.foldl_cons, ih]
      simp only [WsHub.subscribe, lookup_insert]
      by_cases same : head = bucketId
      · subst same
        have twice (clients : FinSet ConnId) :
            (clients.insert connId).insert connId = clients.insert connId :=
          set_insert_eq_self (mem_set_insert.mpr (Or.inl rfl))
        simp [twice]
      · have different : bucketId ≠ head := fun equal => same equal.symm
        simp [same, different]

/-- The clients of a bucket without one of them, nothing if none is left. -/
def without (connId : ConnId) (clients : FinSet ConnId) :
    Option (FinSet ConnId) :=
  if (clients.erase connId).isEmpty then none else some (clients.erase connId)

theorem lookup_unsubscribe (buckets : Map BucketId (FinSet ConnId))
    (removed bucketId : BucketId) :
    (WsHub.unsubscribe connId buckets removed)[bucketId]? =
      if removed = bucketId then buckets[bucketId]?.bind (without connId)
      else buckets[bucketId]? := by
  unfold WsHub.unsubscribe
  split
  · next clients found =>
    by_cases same : removed = bucketId
    · subst same
      rw [if_pos rfl, found, Option.bind_some, without]
      split
      · next isEmpty =>
        rw [if_pos isEmpty, lookup_erase, if_pos rfl]
      · next isInhabited =>
        rw [if_neg isInhabited, lookup_insert, if_pos rfl]
    · rw [if_neg same]
      dsimp only
      split
      · rw [lookup_erase, if_neg same]
      · rw [lookup_insert, if_neg same]
  · next absent =>
    split
    · next same =>
      subst same
      rw [absent]
      rfl
    · rfl

theorem without_without (clients : Option (FinSet ConnId)) :
    (clients.bind (without connId)).bind (without connId) =
      clients.bind (without connId) := by
  cases clients with
  | none => rfl
  | some clients =>
      have once : (clients.erase connId).erase connId =
          clients.erase connId := by
        ext other
        simp
      rw [Option.bind_some]
      unfold without
      split
      · rfl
      · next isInhabited =>
        rw [Option.bind_some, once, if_neg isInhabited]

theorem mem_getD_without {clients : Option (FinSet ConnId)}
    {other : ConnId} :
    other ∈ (clients.bind (without connId)).getD ∅ ↔
      connId ≠ other ∧ other ∈ clients.getD ∅ := by
  cases clients with
  | none => simp
  | some clients =>
      rw [Option.bind_some, Option.getD_some, without]
      split
      · next isEmpty =>
        rw [Std.ExtTreeSet.isEmpty_iff] at isEmpty
        have absent : other ∉ clients.erase connId := by simp [isEmpty]
        simpa using absent
      · simp

/-- The clients of a bucket after one of them was removed. -/
theorem lookup_foldl_unsubscribe (removed : List BucketId)
    (buckets : Map BucketId (FinSet ConnId)) (bucketId : BucketId) :
    (removed.foldl (WsHub.unsubscribe connId) buckets)[bucketId]? =
      if bucketId ∈ removed then buckets[bucketId]?.bind (without connId)
      else buckets[bucketId]? := by
  induction removed generalizing buckets with
  | nil => simp
  | cons head tail ih =>
      rw [List.foldl_cons, ih, lookup_unsubscribe]
      by_cases same : head = bucketId
      · subst same
        simp [without_without]
      · have different : bucketId ≠ head := fun equal => same equal.symm
        simp [same, different]

end Lookups

/-! ### Listed and allowed clients after an operation -/

section Changes

variable {hub after : WsHub} {connId : ConnId}

theorem lookup_removeClient (hub : WsHub) (connId other : ConnId) :
    (hub.removeClient connId).connections[other]? =
      if connId = other then none else hub.connections[other]? := by
  unfold WsHub.removeClient
  split
  · exact lookup_erase hub.connections connId other
  · next absent =>
    split
    · next same => exact same ▸ absent
    · rfl

theorem allowed_removeClient {other : ConnId} {bucketId : BucketId} :
    Allowed (hub.removeClient connId) other bucketId ↔
      connId ≠ other ∧ Allowed hub other bucketId := by
  unfold Allowed
  rw [lookup_removeClient]
  by_cases same : connId = other
  · simp [same]
  · simp [same]

/-- A client that is removed is taken out of the buckets it was allowed. -/
theorem listed_removeClient {other : ConnId} {bucketId : BucketId} :
    Listed (hub.removeClient connId) other bucketId ↔
      Listed hub other bucketId ∧
        ¬(connId = other ∧ Allowed hub connId bucketId) := by
  rw [listed_iff_mem, listed_iff_mem]
  unfold WsHub.removeClient
  split
  · next client found =>
    have allowed_iff : Allowed hub connId bucketId ↔
        bucketId ∈ client.buckets := by
      simp [Allowed, found]
    rw [lookup_foldl_unsubscribe, allowed_iff]
    simp only [Std.ExtTreeSet.mem_toList]
    split
    · next allowed =>
      rw [mem_getD_without]
      tauto
    · tauto
  · next absent => simp [Allowed, absent]

section Add

variable {roomId : RoomId} {allowedBuckets : FinSet BucketId} {sender : Nat}
variable (added : hub.addClient connId roomId allowedBuckets sender =
  .ok after)

include added

theorem allowed_addClient {other : ConnId} {bucketId : BucketId} :
    Allowed after other bucketId ↔
      if connId = other then bucketId ∈ allowedBuckets
      else Allowed hub other bucketId := by
  cases WsHub.addClient_eq_ok added
  unfold Allowed
  rw [lookup_insert]
  split
  · simp
  · rfl

/-- A client that is added is listed for its buckets, and nothing is taken out. -/
theorem listed_addClient {other : ConnId} {bucketId : BucketId} :
    Listed after other bucketId ↔
      connId = other ∧ bucketId ∈ allowedBuckets ∨
        Listed hub other bucketId := by
  cases WsHub.addClient_eq_ok added
  rw [listed_iff_mem, listed_iff_mem, lookup_foldl_subscribe]
  simp only [Std.ExtTreeSet.mem_toList]
  split
  · next allowed =>
    rw [Option.getD_some, mem_set_insert]
    tauto
  · next notAllowed => tauto

end Add

end Changes

/-- The index and the connections say the same. -/
def Agreeing (hub : WsHub) : Prop :=
  ∀ connId bucketId, Listed hub connId bucketId ↔ Allowed hub connId bucketId

theorem Agreeing.removeClient {hub : WsHub} (agreeing : Agreeing hub)
    (connId : ConnId) : Agreeing (hub.removeClient connId) := by
  intro other bucketId
  rw [listed_removeClient, allowed_removeClient, agreeing other bucketId]
  by_cases same : connId = other
  · subst same
    tauto
  · tauto

/-- Only the maps matter. -/
theorem Agreeing.congr {hub after : WsHub} (agreeing : Agreeing hub)
    (connections : after.connections = hub.connections)
    (buckets : after.buckets = hub.buckets) : Agreeing after := by
  unfold Agreeing Listed Allowed
  rw [connections, buckets]
  exact agreeing

theorem Agreeing.sendEach [SerdeJson Value] {hub : WsHub}
    (agreeing : Agreeing hub) (clients : List ConnId)
    (update : Sourced (DataUpdate Value)) :
    Agreeing (hub.sendEach clients update) :=
  WsHub.sendEach_invariant
    (fun _ client agreeing => WsHub.sendTargetedUpdate_induction
      (fun _ _ => agreeing.congr rfl rfl) (agreeing.removeClient client))
    agreeing clients

/-- A client that is new is added to both. -/
theorem Agreeing.addClient {hub after : WsHub} (agreeing : Agreeing hub)
    {connId : ConnId} {roomId : RoomId} {allowedBuckets : FinSet BucketId}
    {sender : Nat} (isNew : hub.connections[connId]? = none)
    (added : hub.addClient connId roomId allowedBuckets sender = .ok after) :
    Agreeing after := by
  intro other bucketId
  rw [listed_addClient added, allowed_addClient added,
    agreeing other bucketId]
  split
  · next same =>
    subst same
    have notAllowed : ¬Allowed hub connId bucketId := by simp [Allowed, isNew]
    tauto
  · next different => tauto

/-! ### Operations keep the index -/

theorem Indexed.new : Indexed .new where
  listed_iff := by simp [Listed, Allowed, WsHub.new]
  nonempty := by simp [WsHub.new]
  bounded := by simp [WsHub.new]

namespace Indexed

variable {hub : WsHub} (indexed : Indexed hub)

include indexed

/-- Only the maps matter. -/
theorem congr {after : WsHub} (connections : after.connections = hub.connections)
    (buckets : after.buckets = hub.buckets) : Indexed after where
  listed_iff := Agreeing.congr indexed.listed_iff connections buckets
  nonempty := buckets ▸ indexed.nonempty
  bounded := buckets ▸ indexed.bounded

/-- A bucket that is not full has room for a client that is new. -/
theorem size_lt {connId : ConnId} {bucketId : BucketId}
    (isNew : hub.connections[connId]? = none)
    (notFull : hub.isFull connId bucketId = false)
    {clients : FinSet ConnId} (found : hub.buckets[bucketId]? = some clients) :
    clients.size < maxWsClientsPerBucket := by
  have unlisted : connId ∉ clients := by
    intro member
    obtain ⟨client, present, _⟩ :=
      (indexed.listed_iff connId bucketId).mp ⟨clients, found, member⟩
    rw [isNew] at present
    cases present
  simpa [WsHub.isFull, found, unlisted] using notFull

/-- A new client that the hub takes is listed for its buckets. -/
theorem addClient {after : WsHub} {connId : ConnId} {roomId : RoomId}
    {allowedBuckets : FinSet BucketId} {sender : Nat}
    (isNew : hub.connections[connId]? = none)
    (added : hub.addClient connId roomId allowedBuckets sender = .ok after) :
    Indexed after := by
  have notFull : ∀ bucketId ∈ allowedBuckets.toList,
      hub.isFull connId bucketId = false := by
    unfold WsHub.addClient at added
    split at added
    · cases added
    · next room => simpa using room
  have agreeing := Agreeing.addClient indexed.listed_iff isNew added
  cases WsHub.addClient_eq_ok added
  refine ⟨agreeing, ?_, ?_⟩
  · intro bucketId clients found
    rw [lookup_foldl_subscribe] at found
    split at found
    · cases found
      simp
    · exact indexed.nonempty bucketId clients found
  · intro bucketId clients found
    rw [lookup_foldl_subscribe] at found
    split at found
    · next allowed =>
      cases found
      refine Nat.le_trans Std.ExtTreeSet.size_insert_le ?_
      cases listed : hub.buckets[bucketId]? with
      | none => simp [maxWsClientsPerBucket]
      | some clients =>
          exact indexed.size_lt isNew (notFull bucketId allowed) listed
    · exact indexed.bounded bucketId clients found

/-- A client that is removed is listed nowhere. -/
theorem removeClient (connId : ConnId) : Indexed (hub.removeClient connId) := by
  have agreeing := Agreeing.removeClient indexed.listed_iff connId
  unfold WsHub.removeClient at agreeing ⊢
  split
  · next client found =>
    rw [found] at agreeing
    refine ⟨agreeing, ?_, ?_⟩
    · intro bucketId clients listed
      rw [lookup_foldl_unsubscribe] at listed
      split at listed
      · obtain ⟨older, isOlder, isWithout⟩ :=
          Option.bind_eq_some_iff.mp listed
        unfold without at isWithout
        split at isWithout
        · cases isWithout
        · next isInhabited =>
          cases isWithout
          exact Bool.eq_false_iff.mpr isInhabited
      · exact indexed.nonempty bucketId clients listed
    · intro bucketId clients listed
      rw [lookup_foldl_unsubscribe] at listed
      split at listed
      · obtain ⟨older, isOlder, isWithout⟩ :=
          Option.bind_eq_some_iff.mp listed
        unfold without at isWithout
        split at isWithout
        · cases isWithout
        · cases isWithout
          exact Nat.le_trans Std.ExtTreeSet.size_erase_le
            (indexed.bounded bucketId older isOlder)
      · exact indexed.bounded bucketId clients listed
  · exact indexed

variable [SerdeJson Value]

/-- A send fills a queue or removes the client. -/
theorem sendTargetedUpdate (clientId : ConnId)
    (update : Sourced (DataUpdate Value)) :
    Indexed (hub.sendTargetedUpdate clientId update).2 :=
  WsHub.sendTargetedUpdate_induction
    (fun _ _ => indexed.congr rfl rfl) (indexed.removeClient clientId)

/-- Clients may be removed in the middle of a broadcast. -/
theorem sendEach (clients : List ConnId)
    (update : Sourced (DataUpdate Value)) :
    Indexed (hub.sendEach clients update) :=
  WsHub.sendEach_invariant
    (fun _ client indexed => indexed.sendTargetedUpdate client update)
    indexed clients

end Indexed

/-! ## The run -/

/-- What every orderly operation keeps. -/
structure Consistent (history : HubHistory) : Prop where
  indexed : Indexed history.hub
  next : history.hub.nextConnId.toNat = history.allocated.length + 1
  fits : history.allocated.length + 1 < UInt64.size
  below : ∀ connId ∈ history.allocated,
    connId.toNat ≤ history.allocated.length
  distinct : history.allocated.Nodup
  registered : ∀ connId client,
    history.hub.connections[connId]? = some client → connId ∈ history.added

theorem Consistent.start : Consistent .start where
  indexed := .new
  next := rfl
  fits := by decide
  below := by simp [HubHistory.start]
  distinct := .nil
  registered := by simp [HubHistory.start, WsHub.new]

namespace Consistent

variable {history : HubHistory} (consistent : Consistent history)

include consistent

/-- The hub changed, and registered nobody. -/
theorem shrinks {hub : WsHub} (shrinks : WsHub.Shrinks history.hub hub)
    (indexed : Indexed hub) :
    Consistent { history with hub := hub } where
  indexed := indexed
  next := by
    rw [shrinks.nextConnId]
    exact consistent.next
  fits := consistent.fits
  below := consistent.below
  distinct := consistent.distinct
  registered connId client present :=
    consistent.registered connId client
      (shrinks.connections connId client present)

/-- The next id was never allocated. -/
theorem nextConnId_notMem : history.hub.nextConnId ∉ history.allocated := by
  intro member
  have below := consistent.below _ member
  have next := consistent.next
  omega

theorem allocateConnectionId
    (fits : history.allocated.length + 2 < UInt64.size) :
    Consistent
      { history with
        hub := history.hub.allocateConnectionId.2
        allocated := history.allocated ++ [history.hub.nextConnId] } where
  indexed := consistent.indexed.congr rfl rfl
  next := by
    have room : history.hub.nextConnId.toNat + 1 < UInt64.size := by
      rw [consistent.next]
      exact fits
    simp only [WsHub.allocateConnectionId, WsHub.saturatingSucc,
      if_pos room, List.length_append, List.length_singleton]
    rw [toNat_succ room, consistent.next]
  fits := by
    rw [List.length_append, List.length_singleton]
    exact fits
  below := by
    intro connId member
    rw [List.length_append, List.length_singleton]
    rcases List.mem_append.mp member with older | new
    · exact Nat.le_succ_of_le (consistent.below connId older)
    · rw [List.mem_singleton.mp new, consistent.next]
  distinct := by
    rw [List.nodup_append]
    refine ⟨consistent.distinct, by simp, ?_⟩
    intro older isOlder newer isNewer equal
    rw [List.mem_singleton.mp isNewer] at equal
    exact consistent.nextConnId_notMem (equal ▸ isOlder)
  registered := consistent.registered

/-- A client that was not added before is new to the hub. -/
theorem isNew {connId : ConnId} (notAdded : connId ∉ history.added) :
    history.hub.connections[connId]? = none := by
  cases present : history.hub.connections[connId]? with
  | none => rfl
  | some client =>
      exact absurd (consistent.registered connId client present) notAdded

theorem addClient {connId : ConnId} (notAdded : connId ∉ history.added)
    (roomId : RoomId) (allowedBuckets : FinSet BucketId) (sender : Nat) :
    Consistent
      { history with
        hub :=
          match history.hub.addClient connId roomId allowedBuckets sender with
          | .ok hub => hub
          | .error _ => history.hub
        added := history.added ++ [connId] } := by
  split
  · next hub added =>
    have indexed := consistent.indexed.addClient
      (consistent.isNew notAdded) added
    cases WsHub.addClient_eq_ok added
    refine { consistent with indexed := indexed, registered := ?_ }
    intro other client present
    rw [lookup_insert] at present
    split at present
    · next same =>
      subst same
      exact List.mem_append_right _ List.mem_cons_self
    · exact List.mem_append_left _
        (consistent.registered other client present)
  · exact { consistent with
      registered := fun other client present =>
        List.mem_append_left _
          (consistent.registered other client present) }

variable [SerdeJson Value]

theorem apply {operation : HubOperation Value}
    (orderly : Orderly history operation) :
    Consistent (history.apply operation) := by
  have indexed := consistent.indexed
  cases operation with
  | allocateConnectionId => exact consistent.allocateConnectionId orderly
  | addClient connId roomId allowedBuckets sender =>
      exact consistent.addClient orderly.2 roomId allowedBuckets sender
  | removeClient connId =>
      exact consistent.shrinks (WsHub.shrinks_removeClient _ connId)
        (indexed.removeClient connId)
  | sendTargetedUpdate clientId update =>
      exact consistent.shrinks
        (WsHub.shrinks_sendTargetedUpdate _ clientId update)
        (indexed.sendTargetedUpdate clientId update)
  | broadcastUpdate update =>
      exact consistent.shrinks (WsHub.shrinks_sendEach _ _ update)
        (indexed.sendEach _ update)
  | setQueues queues =>
      exact { consistent with indexed := indexed.congr rfl rfl }

end Consistent

variable [SerdeJson Value]

/--
In every orderly run of a hub the index lists exactly the clients that were
allowed each bucket, holds no empty set and no set beyond its bound; the ids
are distinct, and a client that is refused leaves no trace.
-/
theorem hub_indexed {operations : List (HubOperation Value)}
    (orderly : Along HubHistory.apply Orderly .start operations) :
    let history := operations.foldl HubHistory.apply .start
    Indexed history.hub ∧ history.allocated.Nodup ∧
      ∀ connId roomId allowedBuckets sender error,
        history.hub.addClient connId roomId allowedBuckets sender =
          .error error →
        (history.apply
          (.addClient connId roomId allowedBuckets sender :
            HubOperation Value)).hub = history.hub := by
  intro history
  have consistent : Consistent history :=
    orderly.invariant Consistent
      (fun _ _ isOrderly consistent => consistent.apply isOrderly) .start
  refine ⟨consistent.indexed, consistent.distinct, ?_⟩
  intro connId roomId allowedBuckets sender error refused
  simp only [HubHistory.apply, refused]

/-- Two clients of a bucket and a broadcast to it after one of them left. -/
def twoClients : List (HubOperation Json) :=
  [.allocateConnectionId, .allocateConnectionId,
    .setQueues [.empty, ⟨.empty, true⟩],
    .addClient 1 1 (({} : FinSet BucketId).insert 7) 0,
    .addClient 2 1 (({} : FinSet BucketId).insert 7) 1,
    .broadcastUpdate ⟨1, some 1, ⟨7, "key", none, 1⟩⟩]

theorem hub_indexed_twoClients :
    Along HubHistory.apply Orderly .start twoClients ∧
      Indexed (twoClients.foldl HubHistory.apply .start).hub := by
  have orderly : Along HubHistory.apply Orderly .start twoClients := by
    decide +kernel
  exact ⟨orderly, (hub_indexed orderly).1⟩

end Syncpond.HubIndex
