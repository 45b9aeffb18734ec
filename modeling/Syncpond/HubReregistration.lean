import Syncpond.HubIndex

/-!
# Registering a connection again

`add_client` takes an id that is registered already: the entry of the client
is replaced, but the index only grows.  A bucket that the client had and that
is not among the new ones keeps listing it, also after the client is removed,
because a removal goes through the buckets of the new entry.
-/

namespace Syncpond.HubReregistration

open Syncpond.Protocol
open Syncpond.Hub
open Syncpond.HubIndex
open Syncpond.Library.Maps

/-! ## Replaced subscriptions -/

/-- The hub is another one in which the client never was. -/
structure Forgotten (hub after : WsHub) (connId : ConnId) : Prop where
  connections : ∀ other : ConnId, after.connections[other]? =
    if connId = other then none else hub.connections[other]?
  listed : ∀ other bucketId, Listed after other bucketId ↔
    connId ≠ other ∧ Listed hub other bucketId
  nextConnId : after.nextConnId = hub.nextConnId
  queues : after.queues = hub.queues

/--
The client is listed for its new buckets and no others, and a removal leaves
nothing of it.
-/
structure Replaces (hub after : WsHub) (connId : ConnId)
    (allowedBuckets : FinSet BucketId) : Prop where
  listed : ∀ bucketId, Listed after connId bucketId ↔
    bucketId ∈ allowedBuckets
  forgotten : Forgotten hub (after.removeClient connId) connId

section Again

variable {hub after : WsHub} {connId : ConnId} {old : ClientInfo}
variable {roomId : RoomId} {allowedBuckets : FinSet BucketId} {sender : Nat}
variable (added : hub.addClient connId roomId allowedBuckets sender =
  .ok after)

include added

/-- After a removal the client is listed where it was before, by the index. -/
theorem listed_removeClient_addClient {other : ConnId}
    {bucketId : BucketId} :
    Listed (after.removeClient connId) other bucketId ↔
      Listed hub other bucketId ∧
        ¬(connId = other ∧ bucketId ∈ allowedBuckets) := by
  rw [listed_removeClient, listed_addClient added, allowed_addClient added,
    if_pos rfl]
  tauto

variable (agreeing : Agreeing hub)
variable (present : hub.connections[connId]? = some old)

include agreeing present

/-- The client is listed for its old and its new buckets. -/
theorem listed_iff_of_added {bucketId : BucketId} :
    Listed after connId bucketId ↔
      bucketId ∈ allowedBuckets ∨ bucketId ∈ old.buckets := by
  rw [listed_addClient added, agreeing connId bucketId]
  simp [Allowed, present]

/-- What stays of the client after a removal are the buckets it lost. -/
theorem listed_removed_iff {bucketId : BucketId} :
    Listed (after.removeClient connId) connId bucketId ↔
      bucketId ∈ old.buckets ∧ bucketId ∉ allowedBuckets := by
  rw [listed_removeClient_addClient added, agreeing connId bucketId]
  simp [Allowed, present]

/--
In a hub whose index agrees with its connections, a client that is registered
again has its subscriptions replaced exactly if it loses no bucket.
-/
theorem replaces_iff :
    Replaces hub after connId allowedBuckets ↔
      ∀ bucketId ∈ old.buckets, bucketId ∈ allowedBuckets := by
  constructor
  · intro replaces bucketId wasAllowed
    exact (replaces.listed bucketId).mp
      ((listed_iff_of_added added agreeing present).mpr (Or.inr wasAllowed))
  · intro keeps
    refine ⟨fun bucketId => ?_, ?_⟩
    · rw [listed_iff_of_added added agreeing present]
      exact ⟨fun listed => listed.elim id (keeps bucketId), Or.inl⟩
    · refine ⟨fun other => ?_, fun other bucketId => ?_, ?_, ?_⟩
      · rw [lookup_removeClient]
        cases WsHub.addClient_eq_ok added
        rw [lookup_insert]
        split <;> rfl
      · by_cases same : connId = other
        · subst same
          rw [listed_removed_iff added agreeing present]
          simpa using keeps bucketId
        · rw [listed_removeClient_addClient added]
          simp [same]
      · rw [(WsHub.shrinks_removeClient after connId).nextConnId]
        cases WsHub.addClient_eq_ok added
        rfl
      · rw [WsHub.queues_removeClient]
        cases WsHub.addClient_eq_ok added
        rfl

end Again

/-! ## A client that moves -/

/-- A hub with a queue, and no client yet. -/
def listening : WsHub :=
  { WsHub.new with nextConnId := 2, queues := [.empty] }

/-- The hub after client 1 was registered with some buckets. -/
def registered (hub : WsHub) (allowedBuckets : FinSet BucketId) : WsHub :=
  { hub with
    connections := hub.connections.insert 1 ⟨1, allowedBuckets, 0⟩
    buckets := allowedBuckets.toList.foldl (WsHub.subscribe 1) hub.buckets }

theorem addClient_eq_registered {hub : WsHub}
    {allowedBuckets : FinSet BucketId}
    (room : allowedBuckets.toList.any (hub.isFull 1) = false) :
    hub.addClient 1 1 allowedBuckets 0 =
      .ok (registered hub allowedBuckets) := by
  simp only [WsHub.addClient, room]
  rfl

/-- A token grants bucket 7. -/
def bucketSeven : FinSet BucketId := Std.ExtTreeSet.ofList [7] compare

/-- A later token grants one more bucket. -/
def sevenAndEight : FinSet BucketId := Std.ExtTreeSet.ofList [7, 8] compare

/-- Another token grants another bucket. -/
def bucketEight : FinSet BucketId := Std.ExtTreeSet.ofList [8] compare

/-- Client 1 has bucket 7. -/
def oneClient : WsHub := registered listening bucketSeven

theorem lookup_oneClient :
    oneClient.connections[(1 : ConnId)]? = some ⟨1, bucketSeven, 0⟩ := by
  simp [oneClient, registered]

theorem agreeing_oneClient : Agreeing oneClient := by
  have empty : Agreeing listening :=
    Agreeing.congr Indexed.new.listed_iff rfl rfl
  exact empty.addClient (by simp [listening, WsHub.new])
    (addClient_eq_registered (by decide +kernel))

/-- A client that gains a bucket has its subscriptions replaced. -/
theorem replaces_sevenAndEight :
    Replaces oneClient (registered oneClient sevenAndEight) 1
      sevenAndEight := by
  have added := addClient_eq_registered
    (show sevenAndEight.toList.any (oneClient.isFull 1) = false by
      decide +kernel)
  refine (replaces_iff added agreeing_oneClient lookup_oneClient).mpr ?_
  intro bucketId wasAllowed
  have isSeven : 7 = bucketId := by
    simpa [bucketSeven] using wasAllowed
  rw [← isSeven]
  decide +kernel

/-- The client stays listed for bucket 7, even after it is removed. -/
theorem not_replaces_bucketEight :
    oneClient.addClient 1 1 bucketEight 0 =
        .ok (registered oneClient bucketEight) ∧
      Agreeing oneClient ∧
      Listed (registered oneClient bucketEight) 1 7 ∧
      Listed ((registered oneClient bucketEight).removeClient 1) 1 7 ∧
      ¬Replaces oneClient (registered oneClient bucketEight) 1
        bucketEight := by
  have added := addClient_eq_registered
    (show bucketEight.toList.any (oneClient.isFull 1) = false by
      decide +kernel)
  have hadSeven : (7 : BucketId) ∈ bucketSeven := by decide +kernel
  have lost : (7 : BucketId) ∉ bucketEight := by decide +kernel
  have listed : Listed (registered oneClient bucketEight) 1 7 :=
    (listed_iff_of_added added agreeing_oneClient lookup_oneClient).mpr
      (Or.inr hadSeven)
  exact ⟨added, agreeing_oneClient, listed,
    (listed_removed_iff added agreeing_oneClient lookup_oneClient).mpr
      ⟨hadSeven, lost⟩,
    fun replaces => lost ((replaces.listed 7).mp listed)⟩

end Syncpond.HubReregistration
