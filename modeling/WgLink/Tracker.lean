import WgLink.Discovery
import WgLink.Identity
import WgLink.Library.Fallible
import WgLink.Library.HashMap
import WgLink.Shortcut.SystemPolicy

/-!
# UDP trackers

The queries of `tracker.rs`: a node asks for a connection and then announces
itself in a swarm.  The trackers are remote; what is relied on of them is what
BEP 15 says of announcements and of the answers to them.
-/

namespace WgLink

open WgLink.Library

/-- `AnnounceEvent`. -/
inductive AnnounceEvent where
  | update
  | started
  | stopped
deriving DecidableEq

/-- `AnnounceEvent::udp_value`. -/
def AnnounceEvent.udpValue : AnnounceEvent → UInt32
  | .update => 0
  | .started => 2
  | .stopped => 3

/-- The arguments of `query_udp` besides the tracker. -/
structure TrackerQuery where
  infoHash : ByteVector 20
  peerId : ByteVector 20
  port : UInt16
  event : AnnounceEvent
deriving DecidableEq

/-- The numbers that `query_udp` draws. -/
structure QueryNonces where
  connectTx : UInt32
  announceTx : UInt32
  key : UInt32
deriving DecidableEq

/-- The number that every request for a connection starts with. -/
def trackerProtocolId : UInt64 := 0x41727101980

def connectRequest (connectTx : UInt32) : List UInt8 :=
  beBytes 8 trackerProtocolId.toNat ++
    (beBytes 4 0 ++ beBytes 4 connectTx.toNat)

/-- The announcement; the counters of a transfer and the address are zero, and
as many peers are wanted as the tracker gives. -/
def announceRequest
    (connectionId : UInt64) (nonces : QueryNonces) (query : TrackerQuery) :
    List UInt8 :=
  beBytes 8 connectionId.toNat ++
    (beBytes 4 1 ++
      (beBytes 4 nonces.announceTx.toNat ++
        (query.infoHash.toList ++
          (query.peerId.toList ++
            (List.replicate 24 0 ++
              (beBytes 4 query.event.udpValue.toNat ++
                (List.replicate 4 0 ++
                  (beBytes 4 nonces.key.toNat ++
                    (beBytes 4 0xFFFFFFFF ++
                      beBytes 2 query.port.toNat)))))))))

/-- The bytes of a datagram between two offsets. -/
def field (datagram : List UInt8) (start length : Nat) : List UInt8 :=
  (datagram.drop start).take length

/-- `compact_peers_v4` of `tracker.rs`. -/
def compactPeersV4 (bytes : List UInt8) : List SocketAddr :=
  (chunksExact 6 bytes).map fun chunk =>
    ⟨ipv4Addr (chunk.take 4), UInt16.ofNat (beValue (chunk.drop 4))⟩

/-- The peers of an answer; the family is that of the tracker's address. -/
def compactPeers (family : Family) (bytes : List UInt8) : List SocketAddr :=
  match family with
  | .v4 => compactPeersV4 bytes
  | .v6 => compactPeersV6 bytes

/-- A socket that is connected to a tracker. -/
class DatagramSocket (S : Type) where
  /-- Send a datagram and wait for the next one. -/
  ask : S → List UInt8 → S × Except String (List UInt8)

/-- Send and receive into a buffer of 4096 bytes. -/
def exchange {S : Type} [DatagramSocket S] (request : List UInt8) :
    Fallible S (List UInt8) := do
  let datagram ← .call fun socket => DatagramSocket.ask socket request
  pure (datagram.take 4096)

/-- The second half of `query_udp`. -/
def announceUdp {S : Type} [DatagramSocket S] (family : Family)
    (nonces : QueryNonces) (query : TrackerQuery) (connectionId : UInt64) :
    Fallible S (List SocketAddr) := do
  let announced ← exchange (announceRequest connectionId nonces query)
  .check
    (decide (20 ≤ announced.length) &&
        decide (beValue (field announced 0 4) = 1) &&
      decide (beValue (field announced 4 4) = nonces.announceTx.toNat))
    "invalid UDP tracker announce response"
  pure (compactPeers family (announced.drop 20))

/-- `query_udp`, once the tracker is resolved. -/
def queryUdp {S : Type} [DatagramSocket S] (family : Family)
    (nonces : QueryNonces) (query : TrackerQuery) :
    Fallible S (List SocketAddr) := do
  let connected ← exchange (connectRequest nonces.connectTx)
  .check
    (decide (16 ≤ connected.length) &&
        decide (beValue (field connected 0 4) = 0) &&
      decide (beValue (field connected 4 4) = nonces.connectTx.toNat))
    "invalid UDP tracker connect response"
  announceUdp family nonces query
    (UInt64.ofNat (beValue (field connected 8 8)))

/-! ## The tracker -/

/-- An address as it stands in an answer over its family. -/
def compactEntry (family : Family) (address : SocketAddr) :
    Option (List UInt8) :=
  match family, address.ip with
  | .v4, .v4 ip => some (beBytes 4 ip.toNat ++ beBytes 2 address.port.toNat)
  | .v6, .v6 ip => some (beBytes 16 ip.toNat ++ beBytes 2 address.port.toNat)
  | _, _ => none

/-- A datagram announces an address in a swarm: it is an announcement, its
event is not that of a peer that leaves, and the address is that of its sender
unless it gives another one. -/
structure Announces (datagram : List UInt8) (source : IpAddr)
    (infoHash : List UInt8) (address : SocketAddr) : Prop where
  length : 98 ≤ datagram.length
  action : beValue (field datagram 8 4) = 1
  infoHash : field datagram 16 20 = infoHash
  event : beValue (field datagram 80 4) ≠ 3
  ip : beValue (field datagram 84 4) = 0 → address.ip = source
  port : beValue (field datagram 96 2) = address.port.toNat

/-- The peers of an answer to an announcement. -/
structure Lists (family : Family) (answer : List UInt8)
    (peers : List SocketAddr) : Prop where
  entries :
    answer.drop 20 = (peers.filterMap (compactEntry family)).flatten
  written : ∀ address ∈ peers, (compactEntry family address).isSome = true

/-- A tracker.  The connection ids it gives, the peers it lists and those it
forgets are its own choice. -/
class Tracker (T : Type) where
  Choice : Type
  receive :
    T → Choice → Family → IpAddr → List UInt8 → T × Option (List UInt8)

/-- What is relied on of a tracker: nothing but an announcement enters an
address in a swarm, and the answer to an announcement lists addresses of its
swarm. -/
class LawfulTracker (T : Type) [Tracker T] where
  swarm : T → List UInt8 → Set SocketAddr
  announced_of_entered :
    ∀ (tracker : T) (choice : Tracker.Choice T) (family : Family)
      (source : IpAddr) (datagram infoHash : List UInt8)
      (address : SocketAddr),
      address ∈
          swarm (Tracker.receive tracker choice family source datagram).1
            infoHash →
        address ∈ swarm tracker infoHash ∨
          Announces datagram source infoHash address
  lists_swarm :
    ∀ (tracker : T) (choice : Tracker.Choice T) (family : Family)
      (source : IpAddr) (datagram answer : List UInt8),
      beValue (field datagram 8 4) = 1 →
      (Tracker.receive tracker choice family source datagram).2 =
        some answer →
      beValue (field answer 0 4) = 1 →
      ∃ peers,
        Lists family answer peers ∧
          ∀ address ∈ peers,
            address ∈
              swarm (Tracker.receive tracker choice family source datagram).1
                (field datagram 16 20)

/-- What becomes of a request. -/
inductive ExchangeFate (C : Type) where
  | delivered (choice : C)
  | requestLost
  | replyLost (choice : C)

/-- A socket to a tracker, with the fates of the next requests. -/
structure TrackerLink (T : Type) [Tracker T] where
  tracker : T
  family : Family
  source : IpAddr
  fates : List (ExchangeFate (Tracker.Choice T))

/-- A request is lost, or its answer is, or the answer comes if there is
one. -/
def TrackerLink.ask {T : Type} [Tracker T] (link : TrackerLink T)
    (request : List UInt8) :
    TrackerLink T × Except String (List UInt8) :=
  let receive (choice : Tracker.Choice T) :=
    Tracker.receive link.tracker choice link.family link.source request
  match link.fates with
  | [] => (link, .error "deadline has elapsed")
  | .requestLost :: fates =>
      ({ link with fates }, .error "deadline has elapsed")
  | .replyLost choice :: fates =>
      ({ link with tracker := (receive choice).1, fates },
        .error "deadline has elapsed")
  | .delivered choice :: fates =>
      ({ link with tracker := (receive choice).1, fates },
        match (receive choice).2 with
        | some reply => .ok reply
        | none => .error "deadline has elapsed")

instance {T : Type} [Tracker T] : DatagramSocket (TrackerLink T) where
  ask := TrackerLink.ask

/-! ## Datagrams by their fields -/

section Fields

variable (front part back : List UInt8) {start length : Nat}

theorem field_front (same : part.length = length) :
    field (part ++ back) 0 length = part := by
  unfold field
  rw [List.drop_zero, ← same, List.take_left]

theorem field_all (same : part.length = length) :
    field part 0 length = part := by
  unfold field
  rw [List.drop_zero, ← same, List.take_length]

theorem field_behind (behind : front.length ≤ start) :
    field (front ++ back) start length =
      field back (start - front.length) length := by
  unfold field
  rw [List.drop_append, List.drop_eq_nil_of_le behind, List.nil_append]

end Fields

/-- What a tracker reads from the announcement of a query. -/
structure ReadsAnnouncement (datagram : List UInt8) (query : TrackerQuery) :
    Prop where
  action : field datagram 8 4 = beBytes 4 1
  infoHash : field datagram 16 20 = query.infoHash.toList
  event : field datagram 80 4 = beBytes 4 query.event.udpValue.toNat
  ip : field datagram 84 4 = List.replicate 4 0
  port : field datagram 96 2 = beBytes 2 query.port.toNat

theorem announceRequest_read
    (connectionId : UInt64) (nonces : QueryNonces) (query : TrackerQuery) :
    ReadsAnnouncement (announceRequest connectionId nonces query) query := by
  have hashLength := query.infoHash.toList_length
  have idLength := query.peerId.toList_length
  constructor <;> unfold announceRequest
  all_goals
    simp (disch := simp only [length_beBytes, List.length_replicate,
        hashLength, idLength, Nat.reduceLeDiff, Nat.reduceSub,
        Nat.le_refl]) only
      [field_behind, field_front, field_all, length_beBytes,
        List.length_replicate, hashLength, idLength, Nat.reduceSub]

theorem beValue_word (word : UInt32) :
    beValue (beBytes 4 word.toNat) = word.toNat :=
  beValue_beBytes word.toNat_lt

theorem beValue_port (port : UInt16) :
    beValue (beBytes 2 port.toNat) = port.toNat := by
  have fits : port.toNat < 256 ^ 2 := port.toNat_lt
  exact beValue_beBytes fits

theorem ofNat_beValue_port (port : UInt16) :
    UInt16.ofNat (beValue (beBytes 2 port.toNat)) = port := by
  rw [beValue_port, UInt16.ofNat_toNat]

/-- A query enters its node in a swarm unless it is that of a peer that
leaves. -/
structure TrackerQuery.Enters (query : TrackerQuery) (source : IpAddr)
    (infoHash : List UInt8) (address : SocketAddr) : Prop where
  event : query.event ≠ .stopped
  infoHash : infoHash = query.infoHash.toList
  address : address = ⟨source, query.port⟩

/-- The announcement of a query announces what the query enters. -/
theorem enters_of_announces
    {connectionId : UInt64} {nonces : QueryNonces} {query : TrackerQuery}
    {source : IpAddr} {infoHash : List UInt8} {address : SocketAddr}
    (announces :
      Announces (announceRequest connectionId nonces query) source infoHash
        address) :
    query.Enters source infoHash address := by
  have read := announceRequest_read connectionId nonces query
  have events := announces.event
  have ports := announces.port
  have zeros : beValue (List.replicate 4 0) = 0 := by decide
  rw [read.event, beValue_word] at events
  rw [read.port, beValue_port] at ports
  have sameIp := announces.ip (by rw [read.ip, zeros])
  have samePort := UInt16.toNat_inj.mp ports
  refine ⟨?_, announces.infoHash.symm.trans read.infoHash, ?_⟩
  · intro stopped
    rw [stopped] at events
    exact events rfl
  · rw [samePort, ← sameIp]

/-- A request for a connection announces nothing. -/
theorem not_announces_connectRequest
    {connectTx : UInt32} {source : IpAddr} {infoHash : List UInt8}
    {address : SocketAddr} :
    ¬Announces (connectRequest connectTx) source infoHash address := by
  intro announces
  have length : (connectRequest connectTx).length = 16 := by
    simp only [connectRequest, List.length_append, length_beBytes]
  have enough := announces.length
  rw [length] at enough
  exact absurd enough (by decide)

/-! ## Compact peers -/

section Chunks

variable {size : Nat} {entries : List (List UInt8)}

theorem length_flatten_uniform
    (uniform : ∀ entry ∈ entries, entry.length = size) :
    entries.flatten.length = entries.length * size := by
  induction entries with
  | nil =>
      rw [List.flatten_nil, List.length_nil, List.length_nil, Nat.zero_mul]
  | cons entry rest inductionHypothesis =>
      rw [List.flatten_cons, List.length_append, List.length_cons,
        uniform entry List.mem_cons_self,
        inductionHypothesis fun other member =>
          uniform other (List.mem_cons_of_mem entry member),
        Nat.succ_mul, Nat.add_comm]

theorem chunk_flatten_uniform
    (uniform : ∀ entry ∈ entries, entry.length = size) {index : Nat}
    (inside : index < entries.length) :
    (entries.flatten.drop (index * size)).take size =
      entries[index] := by
  induction entries generalizing index with
  | nil =>
      cases inside
  | cons entry rest inductionHypothesis =>
      have first : entry.length = size := uniform entry List.mem_cons_self
      cases index with
      | zero =>
          rw [Nat.zero_mul, List.drop_zero, List.flatten_cons, ← first,
            List.take_left]
          rfl
      | succ index =>
          have restUniform : ∀ other ∈ rest, other.length = size :=
            fun other member =>
              uniform other (List.mem_cons_of_mem entry member)
          have restInside : index < rest.length :=
            Nat.lt_of_succ_lt_succ inside
          rw [Nat.succ_mul, Nat.add_comm, List.flatten_cons, ← first,
            List.drop_length_add_append, first,
            inductionHypothesis restUniform restInside]
          rfl

/-- Whole entries of one size that were cut off somewhere. -/
theorem chunksExact_take_flatten
    (positive : 0 < size)
    (uniform : ∀ entry ∈ entries, entry.length = size) (room : Nat) :
    chunksExact size (entries.flatten.take room) =
      entries.take (room / size) := by
  have total := length_flatten_uniform uniform
  have count :
      (entries.flatten.take room).length / size =
        min (room / size) entries.length := by
    rw [List.length_take, total]
    rcases Nat.le_total room (entries.length * size) with short | long
    · rw [Nat.min_eq_left short, Nat.min_eq_left]
      exact (Nat.div_le_div_right short).trans_eq
        (Nat.mul_div_cancel _ positive)
    · rw [Nat.min_eq_right long, Nat.mul_div_cancel _ positive,
        Nat.min_eq_right]
      exact (Nat.le_div_iff_mul_le positive).mpr long
  apply List.ext_getElem
  · rw [chunksExact, List.length_map, List.length_range, count,
      List.length_take]
  · intro index chunkInside entryInside
    rw [List.length_take] at entryInside
    have inside : index < entries.length :=
      entryInside.trans_le (Nat.min_le_right _ _)
    have fits : (index + 1) * size ≤ room :=
      (Nat.le_div_iff_mul_le positive).mp
        (Nat.lt_iff_add_one_le.mp
          (entryInside.trans_le (Nat.min_le_left _ _)))
    have roomLeft : size ≤ room - index * size := by
      rw [Nat.succ_mul] at fits
      omega
    simp only [chunksExact, List.getElem_map, List.getElem_range,
      List.getElem_take]
    rw [List.drop_take, List.take_take, Nat.min_eq_left roomLeft,
      chunk_flatten_uniform uniform inside]

end Chunks

/-- The size of an address in an answer. -/
def compactWidth : Family → Nat
  | .v4 => 6
  | .v6 => 18

theorem length_compactEntry
    {family : Family} {address : SocketAddr} {entry : List UInt8}
    (written : compactEntry family address = some entry) :
    entry.length = compactWidth family := by
  obtain ⟨ip, port⟩ := address
  cases family <;> cases ip <;>
    simp only [compactEntry, reduceCtorEq, Option.some.injEq] at written <;>
    rw [← written, List.length_append, length_beBytes, length_beBytes] <;>
    rfl

/-- Reading one entry of either family. -/
def readEntry (family : Family) (entry : List UInt8) : SocketAddr :=
  match family with
  | .v4 => ⟨ipv4Addr (entry.take 4), UInt16.ofNat (beValue (entry.drop 4))⟩
  | .v6 => ⟨ipv6Addr (entry.take 16), UInt16.ofNat (beValue (entry.drop 16))⟩

theorem compactPeers_eq (family : Family) (bytes : List UInt8) :
    compactPeers family bytes =
      (chunksExact (compactWidth family) bytes).map (readEntry family) := by
  cases family <;> rfl

/-- An address of `width` bytes and its port are read back. -/
theorem beValue_take_drop
    {bits width : Nat} (whole : bits = 8 * width) (ip : BitVec bits)
    (port : UInt16) :
    BitVec.ofNat bits
        (beValue ((beBytes width ip.toNat ++ beBytes 2 port.toNat).take width))
        = ip ∧
      UInt16.ofNat
        (beValue
          ((beBytes width ip.toNat ++ beBytes 2 port.toNat).drop width)) =
        port := by
  have fits : ip.toNat < 256 ^ width := by
    have size : 2 ^ bits = 256 ^ width := by
      have byte : 2 ^ 8 = 256 := rfl
      rw [whole, pow_mul, byte]
    rw [← size]
    exact ip.isLt
  have front :
      (beBytes width ip.toNat ++ beBytes 2 port.toNat).take width =
        beBytes width ip.toNat := by
    exact List.take_left' (length_beBytes _ _)
  have back :
      (beBytes width ip.toNat ++ beBytes 2 port.toNat).drop width =
        beBytes 2 port.toNat := by
    exact List.drop_left' (length_beBytes _ _)
  rw [front, back, beValue_beBytes fits, BitVec.ofNat_toNat,
    BitVec.setWidth_eq, ofNat_beValue_port]
  exact ⟨rfl, rfl⟩

theorem readEntry_compactEntry
    {family : Family} {address : SocketAddr} {entry : List UInt8}
    (written : compactEntry family address = some entry) :
    readEntry family entry = address := by
  obtain ⟨ip, port⟩ := address
  cases family with
  | v4 =>
      cases ip with
      | v4 ip =>
          have entryIs := Option.some.inj written
          obtain ⟨sameIp, samePort⟩ := @beValue_take_drop _ 4 rfl ip port
          rw [← entryIs]
          unfold readEntry
          simp only [ipv4Addr]
          rw [sameIp, samePort]
      | v6 ip =>
          cases written
  | v6 =>
      cases ip with
      | v4 ip =>
          cases written
      | v6 ip =>
          have entryIs := Option.some.inj written
          obtain ⟨sameIp, samePort⟩ := @beValue_take_drop _ 16 rfl ip port
          rw [← entryIs]
          unfold readEntry
          simp only [ipv6Addr]
          rw [sameIp, samePort]

/-- A client reads the peers that a tracker has written, as many as fit. -/
theorem compactPeers_written
    (family : Family) (peers : List SocketAddr)
    (writable : ∀ address ∈ peers, (compactEntry family address).isSome)
    (room : Nat) :
    compactPeers family
        ((peers.filterMap (compactEntry family)).flatten.take room) =
      peers.take (room / compactWidth family) := by
  have uniform :
      ∀ entry ∈ peers.filterMap (compactEntry family),
        entry.length = compactWidth family := by
    intro entry member
    obtain ⟨address, _, written⟩ := List.mem_filterMap.mp member
    exact length_compactEntry written
  have positive : 0 < compactWidth family := by
    cases family <;> decide
  have readBack :
      (peers.filterMap (compactEntry family)).map (readEntry family) =
        peers := by
    induction peers with
    | nil =>
        rfl
    | cons address rest inductionHypothesis =>
        obtain ⟨entry, written⟩ :=
          Option.isSome_iff_exists.mp (writable address List.mem_cons_self)
        have restBack :=
          inductionHypothesis
            (fun other member =>
              writable other (List.mem_cons_of_mem address member))
            (fun entry member =>
              uniform entry
                (by
                  rw [List.filterMap_cons, written]
                  exact List.mem_cons_of_mem _ member))
        rw [List.filterMap_cons, written]
        simp only [List.map_cons]
        rw [readEntry_compactEntry written, restBack]
  rw [compactPeers_eq, chunksExact_take_flatten positive uniform,
    List.map_take, readBack]

/-! ## A whole query -/

/-- How many peers fit into a buffer behind the head of an answer. -/
def answerRoom (family : Family) : Nat := 4076 / compactWidth family

theorem field_take
    {datagram : List UInt8} {start length room : Nat}
    (inside : start + length ≤ room) :
    field (datagram.take room) start length = field datagram start length := by
  unfold field
  rw [List.drop_take, List.take_take, Nat.min_eq_left (by omega)]

section Query

variable {T : Type} [Tracker T] [LawfulTracker T]

/-- What a socket leads to during a query: the tracker of its link, with
nothing in its swarms but what was there and what the query enters. -/
structure Within (query : TrackerQuery) (link socket : TrackerLink T) :
    Prop where
  family : socket.family = link.family
  source : socket.source = link.source
  swarms :
    ∀ infoHash address,
      address ∈ LawfulTracker.swarm socket.tracker infoHash →
      address ∈ LawfulTracker.swarm link.tracker infoHash ∨
        query.Enters link.source infoHash address

/-- A tracker has received a request and sent an answer to it. -/
def Answers (family : Family) (source : IpAddr) (request answer : List UInt8)
    (tracker : T) : Prop :=
  ∃ earlier choice,
    Tracker.receive earlier choice family source request =
      (tracker, some answer)

/-- What a query returns: the peers that the answer to its announcement lists,
as many as fit. -/
def Returns (family : Family) (source : IpAddr) (nonces : QueryNonces)
    (query : TrackerQuery) (found : List SocketAddr) (tracker : T) : Prop :=
  ∃ connectionId answer peers,
    Answers family source (announceRequest connectionId nonces query) answer
        tracker ∧
      Lists family answer peers ∧
      (∀ address ∈ peers,
        address ∈ LawfulTracker.swarm tracker query.infoHash.toList) ∧
      found = peers.take (answerRoom family)

variable {query : TrackerQuery} {link socket : TrackerLink T}
  {request : List UInt8}

/-- How a request ends: without an answer, or with that of the tracker. -/
theorem ask_within
    (permitted :
      ∀ infoHash address,
        Announces request link.source infoHash address →
        query.Enters link.source infoHash address)
    (within : Within query link socket) :
    Within query link (socket.ask request).1 ∧
      ∀ answer, (socket.ask request).2 = .ok answer →
        Answers link.family link.source request answer
          (socket.ask request).1.tracker := by
  have received (choice : Tracker.Choice T)
      (fates : List (ExchangeFate (Tracker.Choice T))) :
      Within query link
        { socket with
          tracker :=
            (Tracker.receive socket.tracker choice socket.family
              socket.source request).1
          fates } := by
    refine ⟨within.family, within.source, ?_⟩
    intro infoHash address member
    rcases LawfulTracker.announced_of_entered _ _ _ _ _ _ _ member with
      before | announces
    · exact within.swarms infoHash address before
    · rw [within.source] at announces
      exact Or.inr (permitted infoHash address announces)
  unfold TrackerLink.ask
  simp only
  split
  · exact ⟨within, nofun⟩
  · exact ⟨⟨within.family, within.source, within.swarms⟩, nofun⟩
  · exact ⟨received _ _, nofun⟩
  · rename_i choice fates _
    refine ⟨received choice fates, ?_⟩
    intro answer answered
    refine ⟨socket.tracker, choice, ?_⟩
    rw [← within.family, ← within.source]
    split at answered
    · rename_i reply replied
      rw [← Except.ok.inj answered]
      exact Prod.ext rfl replied
    · cases answered

/-- One exchange with a tracker. -/
theorem exchange_triple
    (permitted :
      ∀ infoHash address,
        Announces request link.source infoHash address →
        query.Enters link.source infoHash address) :
    Triple (fun _ => True) (Within query link) (exchange request)
      (fun datagram after =>
        Within query link after ∧
          ∃ answer,
            datagram = answer.take 4096 ∧
              Answers link.family link.source request answer after.tracker)
      (Within query link) := by
  have asked :
      Triple (fun _ => True) (Within query link)
        (Fallible.call fun socket : TrackerLink T =>
          DatagramSocket.ask socket request)
        (fun answer after =>
          Within query link after ∧
            Answers link.family link.source request answer after.tracker)
        (Within query link) := by
    refine Triple.call (fun _ _ => trivial) ?_ ?_
    · intro socket answer within answered
      obtain ⟨kept, answers⟩ := ask_within permitted within
      exact ⟨kept, answers answer answered⟩
    · intro socket error within _
      exact (ask_within permitted within).1
  refine Triple.bind asked fun answer => Triple.pure ?_
  rintro after ⟨kept, answers⟩
  exact ⟨kept, answer, rfl, answers⟩

/-- An answer that is accepted lists addresses of the swarm, and they are
read. -/
theorem announce_accepted
    {connectionId : UInt64} {nonces : QueryNonces} {family : Family}
    {source : IpAddr} {announced answer : List UInt8} {tracker : T}
    (isHead : announced = answer.take 4096)
    (answers :
      Answers family source (announceRequest connectionId nonces query)
        answer tracker)
    (accepted : beValue (field announced 0 4) = 1) :
    Returns family source nonces query
      (compactPeers family (announced.drop 20)) tracker := by
  have whole := answers
  obtain ⟨earlier, choice, received⟩ := answers
  have read := announceRequest_read connectionId nonces query
  have one : beValue (beBytes 4 1) = 1 := by decide
  have isAnnouncement :
      beValue (field (announceRequest connectionId nonces query) 8 4) = 1 := by
    rw [read.action, one]
  rw [isHead, field_take (by decide)] at accepted
  obtain ⟨peers, lists, members⟩ :=
    LawfulTracker.lists_swarm earlier choice family source _ answer
      isAnnouncement (congrArg Prod.snd received) accepted
  rw [received, read.infoHash] at members
  refine ⟨connectionId, answer, peers, whole, lists, members, ?_⟩
  rw [isHead, List.drop_take, lists.entries]
  exact compactPeers_written family peers lists.written 4076

/-- An announcement enters its node, if at all, and returns what the tracker
lists. -/
theorem announceUdp_triple
    (nonces : QueryNonces) (connectionId : UInt64) :
    Triple (fun _ => True) (Within query link)
      (announceUdp link.family nonces query connectionId)
      (fun found after =>
        Within query link after ∧
          Returns link.family link.source nonces query found after.tracker)
      (Within query link) := by
  have announces :=
    @exchange_triple T _ _ query link
      (announceRequest connectionId nonces query)
      fun _ _ => enters_of_announces
  refine Triple.bind announces fun announced => ?_
  refine Triple.bind (Triple.check fun _ => And.left) fun _ => Triple.pure ?_
  rintro after ⟨⟨within, answer, isHead, answers⟩, passed⟩
  simp only [Bool.and_eq_true, decide_eq_true_eq] at passed
  exact ⟨within, announce_accepted isHead answers passed.1.2⟩

/-- A query enters its node, if at all, and returns what the tracker lists. -/
theorem queryUdp_triple (nonces : QueryNonces) :
    Triple (fun _ => True) (Within query link)
      (queryUdp link.family nonces query)
      (fun found after =>
        Within query link after ∧
          Returns link.family link.source nonces query found after.tracker)
      (Within query link) := by
  have connects :=
    @exchange_triple T _ _ query link (connectRequest nonces.connectTx)
      fun _ _ announces => absurd announces not_announces_connectRequest
  refine Triple.bind connects fun connected => ?_
  refine Triple.bind (Triple.check fun _ => And.left) fun _ => ?_
  intro after before
  exact announceUdp_triple nonces _ after before.1.1

end Query

end WgLink
