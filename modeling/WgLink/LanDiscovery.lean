import WgLink.Discovery
import WgLink.Identity
import WgLink.LanAnnouncement
import WgLink.Library.Machine
import Mathlib.Data.Finset.Image

/-!
# Discovery on the local network

The task `lan::run_loop`: every five seconds a node announces its listener
and collects for half a second what others have announced.  Packets in the air
may be lost, doubled, delayed and reordered, and anybody may send more of
them.
-/

namespace WgLink

open WgLink.Library

/-- `DISCOVERY_PORT`. -/
def discoveryPort : UInt16 := 38391

/-- `DISCOVERY_GROUP`. -/
def discoveryGroup : Ipv4Addr := 0xEFFF2609#32

/-! ## The interfaces of a node -/

/-- `pnet::datalink::NetworkInterface`, as far as it is read. -/
structure DatalinkInterface where
  name : String
  ips : List IpNet
  isUp : Bool
  isBroadcast : Bool
  isLoopback : Bool
  isPointToPoint : Bool
deriving DecidableEq

/-- The names in `is_virtual_interface`. -/
def virtualPrefixes : List String :=
  ["wg", "wgl", "tun", "tap", "easy", "docker", "br-", "veth", "virbr",
    "podman", "cni", "tailscale", "zerotier"]

/-- `is_virtual_interface`. -/
def isVirtualInterface (name : String) : Bool :=
  virtualPrefixes.any fun start =>
    start.toList.isPrefixOf (name.toList.map Char.toLower)

/-- An address of a node and the subnet it is in. -/
structure LanInterface where
  address : Ipv4Addr
  prefixLen : Fin 33
deriving DecidableEq

/-- `Ipv4Net::new`. -/
def LanInterface.subnet (self : LanInterface) : IpNet :=
  .v4 self.address self.prefixLen

/-- `Ipv4Net::broadcast`. -/
def LanInterface.broadcast (self : LanInterface) : Ipv4Addr :=
  self.address ||| (BitVec.allOnes 32 >>> self.prefixLen.val)

open Ipv4Addr in
/-- The addresses of one interface that are taken. -/
def privateAddresses (interface : DatalinkInterface) : List LanInterface :=
  interface.ips.filterMap fun network =>
    match network with
    | .v4 address prefixLen =>
        if isPrivate address && !isLoopback address &&
            !isUnspecified address then
          some ⟨address, prefixLen⟩
        else
          none
    | .v6 _ _ => none

/-- `local_lan_interfaces`. -/
def localLanInterfaces (interfaces : List DatalinkInterface) :
    List LanInterface :=
  (interfaces.filter fun interface =>
    interface.isUp && interface.isBroadcast && !interface.isLoopback &&
      !interface.isPointToPoint &&
      !isVirtualInterface interface.name).flatMap privateAddresses

/-- A node as `run_loop` knows it.  Without an interface the loop is not
entered. -/
structure LanNode where
  publicKey : String
  interfaces : List LanInterface
  listenerPort : UInt16
deriving DecidableEq

/-- The start of `run_loop`, with the interfaces of the system. -/
def LanNode.setUp (publicKey : String) (listenerPort : UInt16)
    (interfaces : List DatalinkInterface) : Option LanNode :=
  match localLanInterfaces interfaces with
  | [] => none
  | first :: rest => some ⟨publicKey, first :: rest, listenerPort⟩

/-- The other two conditions on an address say nothing new. -/
theorem isPrivate_real (address : Ipv4Addr) :
    (Ipv4Addr.isPrivate address && !Ipv4Addr.isLoopback address &&
        !Ipv4Addr.isUnspecified address) =
      Ipv4Addr.isPrivate address := by
  cases isPrivate : Ipv4Addr.isPrivate address with
  | false => rfl
  | true =>
      have notLoopback : Ipv4Addr.isLoopback address = false := by
        unfold Ipv4Addr.isLoopback
        unfold Ipv4Addr.isPrivate at isPrivate
        cases isLoopback : Ipv4Addr.octet address 0 == 127#8 with
        | false => rfl
        | true =>
            rw [eq_of_beq isLoopback] at isPrivate
            cases isPrivate
      have specified : Ipv4Addr.isUnspecified address = false := by
        cases isUnspecified : Ipv4Addr.isUnspecified address with
        | false => rfl
        | true =>
            have isZero : address = 0#32 := eq_of_beq isUnspecified
            rw [isZero] at isPrivate
            exact absurd isPrivate (by decide)
      rw [notLoopback, specified]
      rfl

theorem mem_privateAddresses
    {device : DatalinkInterface} {interface : LanInterface} :
    interface ∈ privateAddresses device ↔
      interface.subnet ∈ device.ips ∧
        Ipv4Addr.isPrivate interface.address = true := by
  unfold privateAddresses
  rw [List.mem_filterMap]
  constructor
  · rintro ⟨network, listed, taken⟩
    cases network with
    | v4 address prefixLen =>
        simp only at taken
        rw [isPrivate_real] at taken
        split at taken
        next isPrivate =>
          cases taken
          exact ⟨listed, isPrivate⟩
        next => cases taken
    | v6 address prefixLen => cases taken
  · rintro ⟨listed, isPrivate⟩
    refine ⟨_, listed, ?_⟩
    unfold LanInterface.subnet
    simp only
    rw [isPrivate_real, if_pos isPrivate]

/-- A node takes part exactly with the private addresses of its real
interfaces, and not without one. -/
theorem LanNode.mem_interfaces_of_setUp
    {publicKey : String} {listenerPort : UInt16}
    {interfaces : List DatalinkInterface} {node : LanNode}
    (started : LanNode.setUp publicKey listenerPort interfaces = some node)
    (interface : LanInterface) :
    node.interfaces ≠ [] ∧
      (interface ∈ node.interfaces ↔
        ∃ device ∈ interfaces,
          (device.isUp = true ∧ device.isBroadcast = true ∧
            device.isLoopback = false ∧ device.isPointToPoint = false ∧
            isVirtualInterface device.name = false) ∧
            interface.subnet ∈ device.ips ∧
            Ipv4Addr.isPrivate interface.address = true) := by
  have isNode :
      node.interfaces = localLanInterfaces interfaces ∧
        localLanInterfaces interfaces ≠ [] := by
    unfold LanNode.setUp at started
    cases found : localLanInterfaces interfaces with
    | nil =>
        rw [found] at started
        cases started
    | cons first rest =>
        rw [found] at started
        cases started
        exact ⟨rfl, List.cons_ne_nil first rest⟩
  rw [isNode.1]
  refine ⟨isNode.2, ?_⟩
  unfold localLanInterfaces
  rw [List.mem_flatMap]
  simp only [List.mem_filter, mem_privateAddresses, Bool.and_eq_true,
    Bool.not_eq_true', and_assoc]

/-! ## Announcing and listening -/

/-- A packet in the air. -/
structure LanPacket where
  source : SocketAddr
  destination : SocketAddr
  bytes : List UInt8
deriving DecidableEq

section Loop

variable (hash : Hash)

/-- What `run_loop` announces.  It reads the clock for the name of the node
and once more for the period. -/
def LanNode.announcement (self : LanNode) (nameTime periodTime : UInt64) :
    Announcement where
  nodeId := rotatingNodeId hash self.publicKey (peerIdPeriod nameTime)
  network := transportNetwork hash
  period := peerIdPeriod periodTime
  listenerPort := self.listenerPort

/-- Where `announce` sends to. -/
def LanNode.destinations (self : LanNode) : Finset SocketAddr :=
  insert ⟨.v4 discoveryGroup, discoveryPort⟩
    (self.interfaces.map fun interface =>
      (⟨.v4 interface.broadcast, discoveryPort⟩ : SocketAddr)).toFinset

/-- The packets of `announce`, visiting the destinations in some order. -/
def LanNode.announce
    (self : LanNode) (source : SocketAddr) (bytes : List UInt8)
    (order : List SocketAddr) : Option (List LanPacket) :=
  if order.Nodup ∧ order.toFinset = self.destinations then
    some (order.map fun destination => ⟨source, destination, bytes⟩)
  else
    none

/-- The size of the buffer in `receive_candidates`. -/
def lanBufferSize : Nat := 512

/-- One round of the loop in `receive_candidates` after a packet has come. -/
def LanNode.candidate (self : LanNode) (now : UInt64) (packet : LanPacket) :
    Option SocketAddr :=
  match packet.source.ip with
  | .v6 _ => none
  | .v4 sourceIp =>
      if self.interfaces.any fun interface =>
          interface.subnet.contains (.v4 sourceIp) then
        match decodeAnnouncement (packet.bytes.take lanBufferSize) with
        | .accept announcement =>
            if announcement.network ≠ transportNetwork hash ∨
                announcement.period ∉ activePeerIdPeriods now ∨
                announcement.nodeId =
                  rotatingNodeId hash self.publicKey announcement.period ∨
                announcement.listenerPort = 0 then
              none
            else
              some ⟨.v4 sourceIp, announcement.listenerPort⟩
        | _ => none
      else
        none

/-- The packets until the deadline or the first error. -/
def heard (receptions : List (Option LanPacket)) : List LanPacket :=
  (receptions.takeWhile Option.isSome).filterMap id

/-- `receive_candidates`. -/
def LanNode.receiveCandidates (self : LanNode) (now : UInt64)
    (receptions : List (Option LanPacket)) : Finset SocketAddr :=
  ((heard receptions).filterMap (self.candidate hash now)).toFinset

/-! ## The network -/

/-- What can happen on the network. -/
inductive LanEvent where
  /-- A node announces itself from one of its addresses. -/
  | announce (node : LanNode) (interface : LanInterface)
      (nameTime periodTime : UInt64) (order : List SocketAddr)
  /-- Somebody else sends a packet. -/
  | send (packet : LanPacket)
  /-- A node listens; an absent packet is an error of the socket. -/
  | listen (node : LanNode) (now : UInt64)
      (receptions : List (Option LanPacket))

/-- The local network, by the packets that were sent on it. -/
def localNetwork :
    Machine (List LanPacket) LanEvent (Finset SocketAddr) where
  start air := air = []
  step air
    | .announce node interface nameTime periodTime order =>
        if interface ∈ node.interfaces then
          match encodeAnnouncement
              (node.announcement hash nameTime periodTime) with
          | .accept bytes =>
              (node.announce ⟨.v4 interface.address, discoveryPort⟩ bytes
                order).map fun packets => (packets ++ air, ∅)
          | _ => none
        else
          none
    | .send packet => some (packet :: air, ∅)
    | .listen node now receptions =>
        if ∀ packet ∈ heard receptions, packet ∈ air then
          some (air, node.receiveCandidates hash now receptions)
        else
          none

end Loop

abbrev LanStep := Record (List LanPacket) LanEvent (Finset SocketAddr)

/-! ## Announcements are understood -/

section Announcements

variable {hash : Hash}

theorem utf8Size_digitChar {digit : Nat} (hex : digit < 16) :
    (Nat.digitChar digit).utf8Size = 1 := by
  have digits : ∀ digit < 16, (Nat.digitChar digit).utf8Size = 1 := by
    decide
  exact digits digit hex

theorem utf8Size_toHex
    {bytes : List UInt8} {character : Char}
    (member : character ∈ toHex bytes) : character.utf8Size = 1 := by
  obtain ⟨byte, _, digit⟩ := List.mem_flatMap.mp member
  have bound := byte.toNat_lt
  rcases List.mem_pair.mp digit with rfl | rfl
  · exact utf8Size_digitChar (by omega)
  · exact utf8Size_digitChar (by omega)

theorem length_toHex (bytes : List UInt8) :
    (toHex bytes).length = 2 * bytes.length := by
  induction bytes with
  | nil =>
      rfl
  | cons byte rest inductionHypothesis =>
      have split :
          toHex (byte :: rest) =
            Nat.digitChar (byte.toNat / 16) ::
              Nat.digitChar (byte.toNat % 16) :: toHex rest := rfl
      rw [split, List.length_cons, List.length_cons, inductionHypothesis,
        List.length_cons]
      omega

/-- A text of the first digits of a digest. -/
theorem length_hexDigits (digest : ByteVector 32) {count : Nat}
    (fits : count ≤ 64) :
    (asBytes (String.ofList ((toHex digest.toList).take count))).length =
      count := by
  rw [length_asBytes_of_ascii]
  · rw [List.length_take, length_toHex, List.Vector.toList_length]
    omega
  · intro character member
    exact utf8Size_toHex (List.mem_of_mem_take member)

theorem announcement_fits
    (node : LanNode) (nameTime periodTime : UInt64) :
    (node.announcement hash nameTime periodTime).Fits := by
  have nodeId :
      (asBytes (node.announcement hash nameTime periodTime).nodeId).length =
        16 :=
    length_hexDigits _ (by omega)
  have network :
      (asBytes (node.announcement hash nameTime periodTime).network).length =
        25 := by
    have appended :
        asBytes (transportNetwork hash) =
          asBytes "wglr-" ++
            asBytes
              (String.ofList
                ((toHex (digest hash
                  [asBytes "wg-link/easytier-network/v2"]).toList).take
                    20)) :=
      asBytes_append _ _
    have front : (asBytes "wglr-").length = 5 := by
      decide
    have back :=
      length_hexDigits
        (digest hash [asBytes "wg-link/easytier-network/v2"])
        (show 20 ≤ 64 by omega)
    change (asBytes (transportNetwork hash)).length = 25
    rw [appended, List.length_append, front, back]
  constructor <;> omega

/-- An announcement fits into the buffer. -/
theorem length_encodeAnnouncement
    {announcement : Announcement} (fits : announcement.Fits)
    {bytes : List UInt8}
    (encoded : encodeAnnouncement announcement = .accept bytes) :
    bytes.length ≤ lanBufferSize := by
  have nodeIdFits := fits.nodeIdFits
  have networkFits := fits.networkFits
  rw [encodeAnnouncement_of_fits fits] at encoded
  cases encoded
  simp only [List.length_append, List.length_cons, length_announcementMagic,
    length_beBytes]
  unfold lanBufferSize
  omega

/-- When a node takes the announcement of another. -/
structure LanNode.Takes (hash : Hash) (listener : LanNode) (now : UInt64)
    (other : LanNode) (interface : LanInterface)
    (nameTime periodTime : UInt64) : Prop where
  near :
    ∃ own ∈ listener.interfaces,
      own.subnet.contains (.v4 interface.address) = true
  current : peerIdPeriod periodTime ∈ activePeerIdPeriods now
  distinct :
    rotatingNodeId hash other.publicKey (peerIdPeriod nameTime) ≠
      rotatingNodeId hash listener.publicKey (peerIdPeriod periodTime)
  listening : other.listenerPort ≠ 0

/-- What a node makes of an announcement. -/
theorem candidate_announced
    {self other : LanNode} {now nameTime periodTime : UInt64}
    {interface : LanInterface} {packet : LanPacket}
    {candidate : SocketAddr}
    (source : packet.source = ⟨.v4 interface.address, discoveryPort⟩)
    (encoded :
      encodeAnnouncement (other.announcement hash nameTime periodTime) =
        .accept packet.bytes) :
    self.candidate hash now packet = some candidate ↔
      self.Takes hash now other interface nameTime periodTime ∧
        candidate = ⟨.v4 interface.address, other.listenerPort⟩ := by
  have fits := @announcement_fits hash other nameTime periodTime
  have whole : packet.bytes.take lanBufferSize = packet.bytes :=
    List.take_of_length_le (length_encodeAnnouncement fits encoded)
  have decoded := decode_of_encode fits encoded
  unfold LanNode.candidate
  simp only [source, whole, decoded]
  constructor
  · intro found
    split at found
    · rename_i near
      split at found
      · cases found
      · rename_i admitted
        rw [not_or, not_or, not_or, not_not, not_not] at admitted
        obtain ⟨_, current, distinct, listening⟩ := admitted
        refine ⟨⟨?_, current, distinct, listening⟩,
          (Option.some.inj found).symm⟩
        exact List.any_eq_true.mp near
    · cases found
  · rintro ⟨taken, rfl⟩
    rw [if_pos (List.any_eq_true.mpr taken.near), if_neg]
    · rfl
    · rw [not_or, not_or, not_or, not_not, not_not]
      exact ⟨rfl, taken.current, taken.distinct, taken.listening⟩

end Announcements

/-! ## What is found was announced -/

section Runs

variable {hash : Hash} {log : List LanStep} {air : List LanPacket}

/-- The packet carries an announcement. -/
structure LanPacket.Announces (hash : Hash) (packet : LanPacket)
    (node : LanNode) (interface : LanInterface)
    (nameTime periodTime : UInt64) : Prop where
  source : packet.source = ⟨.v4 interface.address, discoveryPort⟩
  encoded :
    encodeAnnouncement (node.announcement hash nameTime periodTime) =
      .accept packet.bytes

/-- Where a packet comes from. -/
inductive LanOrigin (hash : Hash) (packet : LanPacket) (record : LanStep) :
    Prop
  | announced {node : LanNode} {interface : LanInterface}
      {nameTime periodTime : UInt64} {order : List SocketAddr} :
      record.input =
        .announce node interface nameTime periodTime order →
      packet.Announces hash node interface nameTime periodTime →
      LanOrigin hash packet record
  | sent : record.input = .send packet → LanOrigin hash packet record

/-- What a step adds to the air. -/
theorem origin_of_step
    {record : LanStep} {packet : LanPacket}
    (taken : (localNetwork hash).Takes record)
    (inAir : packet ∈ record.after) :
    packet ∈ record.before ∨ LanOrigin hash packet record := by
  obtain ⟨before, input, found, after⟩ := record
  unfold Machine.Takes localNetwork at taken
  simp only at taken inAir ⊢
  cases input with
  | announce node interface nameTime periodTime order =>
      simp only at taken
      split at taken
      · split at taken
        · rename_i bytes encoded
          obtain ⟨packets, sent, same⟩ := Option.map_eq_some_iff.mp taken
          cases same
          rcases List.mem_append.mp inAir with new | old
          · right
            unfold LanNode.announce at sent
            split at sent
            · cases sent
              obtain ⟨destination, _, rfl⟩ := List.mem_map.mp new
              exact .announced rfl ⟨rfl, encoded⟩
            · cases sent
          · exact Or.inl old
        · cases taken
      · cases taken
  | send sent =>
      cases taken
      rcases List.mem_cons.mp inAir with rfl | old
      · exact Or.inr (.sent rfl)
      · exact Or.inl old
  | listen node now receptions =>
      simp only at taken
      split at taken
      · cases taken
        exact Or.inl inAir
      · cases taken

theorem origin_of_execution
    (execution : (localNetwork hash).Execution log air)
    {packet : LanPacket} (inAir : packet ∈ air) :
    ∃ record ∈ log, LanOrigin hash packet record := by
  induction execution with
  | start started =>
      rw [started] at inAir
      cases inAir
  | @step log record _ taken inductionHypothesis =>
      rcases origin_of_step taken inAir with old | origin
      · obtain ⟨past, member, origin⟩ := inductionHypothesis old
        exact ⟨past, List.mem_cons_of_mem record member, origin⟩
      · exact ⟨record, List.mem_cons_self, origin⟩

/-- A candidate has the address that its packet came from. -/
theorem ip_of_candidate
    {node : LanNode} {now : UInt64} {packet : LanPacket}
    {candidate : SocketAddr}
    (found : node.candidate hash now packet = some candidate) :
    packet.source.ip = candidate.ip := by
  unfold LanNode.candidate at found
  split at found
  · cases found
  · rename_i sourceIp source
    split at found
    · split at found
      · split at found
        · cases found
        · cases found
          exact source
      · cases found
    · cases found

/-- What a node finds: exactly the listeners that were announced to it from
its own subnets in the current or the last hour, by nodes with another name.
Nobody else may send from the address that is found. -/
theorem lan_candidates_exact
    {newer older : List LanStep} {record : LanStep} {node : LanNode}
    {now : UInt64} {receptions : List (Option LanPacket)}
    {candidate : SocketAddr}
    (execution :
      (localNetwork hash).Execution (newer ++ record :: older) air)
    (isListen : record.input = .listen node now receptions)
    (unforged :
      ∀ past ∈ older, ∀ packet, past.input = .send packet →
        packet.source.ip ≠ candidate.ip) :
    candidate ∈ record.output ↔
      ∃ past ∈ older, ∃ other interface nameTime periodTime order,
        past.input = .announce other interface nameTime periodTime order ∧
          (∃ packet ∈ heard receptions,
            packet.Announces hash other interface nameTime periodTime) ∧
          node.Takes hash now other interface nameTime periodTime ∧
          candidate = ⟨.v4 interface.address, other.listenerPort⟩ := by
  have parts := Machine.Execution.split execution
  obtain ⟨before, input, found, after⟩ := record
  simp only at isListen
  subst isListen
  have taken := parts.2
  unfold Machine.Takes localNetwork at taken
  simp only at taken
  split at taken
  · rename_i inAir
    cases taken
    constructor
    · intro member
      obtain ⟨packet, received, isCandidate⟩ :=
        List.mem_filterMap.mp (List.mem_toFinset.mp member)
      obtain ⟨past, inOlder, origin⟩ :=
        origin_of_execution parts.1 (inAir packet received)
      cases origin with
      | @announced other interface nameTime periodTime order isAnnounce
          announces =>
          have takes :=
            (candidate_announced announces.source announces.encoded).mp
              isCandidate
          exact ⟨past, inOlder, other, interface, nameTime, periodTime, order,
            isAnnounce, ⟨packet, received, announces⟩, takes⟩
      | sent isSend =>
          exact absurd (ip_of_candidate isCandidate)
            (unforged past inOlder packet isSend)
    · rintro ⟨past, inOlder, other, interface, nameTime, periodTime, order,
        _, ⟨packet, received, announces⟩, takes⟩
      apply List.mem_toFinset.mpr
      apply List.mem_filterMap.mpr
      exact ⟨packet, received,
        (candidate_announced announces.source announces.encoded).mpr takes⟩
  · cases taken

/-- Two nodes of one subnet. -/
def leftInterface : LanInterface := ⟨0xC0A80105#32, (Fin.last 24).castAdd 8⟩

def leftNode : LanNode := ⟨"left", [leftInterface], 42007⟩

def rightNode : LanNode :=
  ⟨"right", [⟨0xC0A80109#32, (Fin.last 24).castAdd 8⟩], 42008⟩

/-- The broadcast packet of the first node. -/
def leftPacket : LanPacket where
  source := ⟨.v4 0xC0A80105#32, discoveryPort⟩
  destination := ⟨.v4 0xC0A801FF#32, discoveryPort⟩
  bytes :=
    match encodeAnnouncement (leftNode.announcement stationHash 7200 7201) with
    | .accept bytes => bytes
    | _ => []

/-- The first node announces itself, and the second one listens. -/
def leftHeard : List LanEvent :=
  [.announce leftNode leftInterface 7200 7201
      [⟨.v4 0xC0A801FF#32, discoveryPort⟩,
        ⟨.v4 discoveryGroup, discoveryPort⟩],
    .listen rightNode 7300 [some leftPacket, none]]

/-- The second node finds the first one. -/
theorem lan_candidates_exact_leftHeard :
    ∃ record older air,
      (localNetwork stationHash).Execution (record :: older) air ∧
        ⟨.v4 0xC0A80105#32, 42007⟩ ∈ record.output ∧
        ∃ past ∈ older, ∃ other interface nameTime periodTime order,
          past.input = .announce other interface nameTime periodTime order ∧
            rightNode.Takes stationHash 7300 other interface nameTime
              periodTime ∧
            other.listenerPort = 42007 := by
  have ran :
      ((localNetwork stationHash).run [] leftHeard).map
          (fun run => run.1.head?.map Record.output) =
        some (some {⟨.v4 0xC0A80105#32, 42007⟩}) := by
    decide +kernel
  obtain ⟨⟨log, air⟩, completed, observed⟩ := Option.map_eq_some_iff.mp ran
  have execution := Machine.execution_of_run rfl completed
  have inputs := Machine.inputs_of_run completed
  cases log with
  | nil =>
      cases observed
  | cons record older =>
      obtain ⟨isListen, earlier⟩ := List.cons.inj inputs
      have found : ⟨.v4 0xC0A80105#32, 42007⟩ ∈ record.output := by
        rw [Option.some.inj observed]
        exact Finset.mem_singleton_self _
      have unforged :
          ∀ past ∈ older, ∀ packet, past.input = .send packet →
            packet.source.ip ≠ IpAddr.v4 0xC0A80105#32 := by
        intro past member packet isSend
        have listed := List.mem_map_of_mem (f := Record.input) member
        rw [earlier, isSend] at listed
        cases List.mem_singleton.mp listed
      obtain ⟨past, member, other, interface, nameTime, periodTime, order,
        isAnnounce, _, takes, same⟩ :=
        (@lan_candidates_exact stationHash air [] older record rightNode 7300
          [some leftPacket, none] _ execution isListen unforged).mp found
      have port := congrArg SocketAddr.port same
      exact ⟨record, older, air, execution, found, past, member, other,
        interface, nameTime, periodTime, order, isAnnounce, takes,
        port.symm⟩

end Runs

end WgLink
