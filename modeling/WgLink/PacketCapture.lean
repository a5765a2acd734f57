import WgLink.Library.BigEndian
import WgLink.Library.Parse
import WgLink.Node

/-!
# Captured control packets

`shortcut/base_control.rs` reads control messages from packets captured on the
WireGuard interface, with or without an Ethernet header in front.  Decoding the
message itself is an argument.
-/

namespace WgLink

open WgLink.Library
open WgLink.Library.Parsed

/-- `CONTROL_PORT`. -/
def controlPort : UInt16 := 51821

/-- The first bytes are those of an IP packet of version 4. -/
def startsIpv4 (packet : List UInt8) : Bool :=
  match packet.head? with
  | none => false
  | some byte => byte >>> 4 == 4

/-- Where the IP header of a captured packet starts: at once, or behind an
Ethernet header. -/
def ipv4Offset (packet : List UInt8) : Parsed Nat :=
  if startsIpv4 packet then
    .accept 0
  else if packet.length ≥ 14 then do
    let byte ← byteAt packet 14
    if byte >>> 4 = 4 then .accept 14 else .reject
  else
    .reject

/-- Source and payload of the IP packet. -/
def datagramPayload (packet : List UInt8) : Parsed (IpAddr × List UInt8) :=
  if packet.length < 20 then
    .reject
  else do
    let protocol ← byteAt packet 9
    if protocol ≠ 17 then
      .reject
    else do
      let first ← byteAt packet 0
      let headerLen := (first &&& 0x0f).toNat * 4
      if headerLen < 20 ∨ packet.length < headerLen + 8 then
        .reject
      else do
        let first ← byteAt packet 12
        let second ← byteAt packet 13
        let third ← byteAt packet 14
        let fourth ← byteAt packet 15
        let payload ← sliceFrom packet headerLen
        .accept (ipv4Addr [first, second, third, fourth], payload)

/-- `ipv4_udp_payload`. -/
def ipv4UdpPayload (packet : List UInt8) : Parsed (IpAddr × List UInt8) := do
  let offset ← ipv4Offset packet
  let packet ← sliceFrom packet offset
  datagramPayload packet

/-- What the loop of `capture_interface` does with one packet. -/
def captureInterface
    (decode : List UInt8 → Except String ControlMessage)
    (packet : List UInt8) : Parsed ReceivedControl := do
  let found ← ipv4UdpPayload packet
  if found.2.length < 8 then
    .reject
  else do
    let high ← byteAt found.2 2
    let low ← byteAt found.2 3
    if UInt16.ofNat (beValue [high, low]) ≠ controlPort then
      .reject
    else do
      let body ← sliceFrom found.2 8
      match decode body with
      | .error _ => .reject
      | .ok message => .accept ⟨found.1, message⟩

/-! ## What is accepted -/

/-- An IPv4 header of a UDP packet, options included. -/
structure Ipv4UdpHeader (header : List UInt8) : Prop where
  version : startsIpv4 header = true
  longEnough : 20 ≤ header.length
  length :
    (header[0]?.map fun byte => (byte &&& 0x0f).toNat * 4) =
      some header.length
  protocol : header[9]? = some 17

/-- From `offset` on the packet is the IPv4 header of a UDP packet, whose bytes
12 to 16 are the source, and then the payload of at least eight bytes. -/
def CapturedAt
    (packet : List UInt8) (offset : Nat) (source : IpAddr)
    (payload : List UInt8) : Prop :=
  ∃ header,
    packet.drop offset = header ++ payload ∧
    Ipv4UdpHeader header ∧
    source = ipv4Addr ((header.drop 12).take 4) ∧
    8 ≤ payload.length

section

variable {packet payload : List UInt8} {source : IpAddr}

theorem datagramPayload_ne_abort (packet : List UInt8) :
    datagramPayload packet ≠ abort := by
  unfold datagramPayload
  by_cases short : packet.length < 20
  · rw [if_pos short]
    exact reject_ne_abort
  · rw [if_neg short]
    apply bind_ne_abort (byteAt_ne_abort (by omega))
    intro protocol _
    by_cases other : protocol ≠ 17
    · rw [if_pos other]
      exact reject_ne_abort
    · rw [if_neg other]
      apply bind_ne_abort (byteAt_ne_abort (by omega))
      intro first _
      simp only
      by_cases refused :
          (first &&& 0x0f).toNat * 4 < 20 ∨
            packet.length < (first &&& 0x0f).toNat * 4 + 8
      · rw [if_pos refused]
        exact reject_ne_abort
      · rw [if_neg refused]
        apply bind_ne_abort (byteAt_ne_abort (by omega))
        intro _ _
        apply bind_ne_abort (byteAt_ne_abort (by omega))
        intro _ _
        apply bind_ne_abort (byteAt_ne_abort (by omega))
        intro _ _
        apply bind_ne_abort (byteAt_ne_abort (by omega))
        intro _ _
        apply bind_ne_abort (sliceFrom_ne_abort (by omega))
        intro _ _
        exact accept_ne_abort _

/-- Four bytes that are read one after another are a slice. -/
theorem take_drop_of_getElem?
    {bytes : List UInt8} {start : Nat} {first second third fourth : UInt8}
    (firstRead : bytes[start]? = some first)
    (secondRead : bytes[start + 1]? = some second)
    (thirdRead : bytes[start + 2]? = some third)
    (fourthRead : bytes[start + 3]? = some fourth) :
    (bytes.drop start).take 4 = [first, second, third, fourth] := by
  apply List.ext_getElem?
  intro index
  rw [List.getElem?_take]
  rcases index with _ | _ | _ | _ | index
  · simpa using firstRead
  · simpa using secondRead
  · simpa using thirdRead
  · simpa using fourthRead
  · simp

/-- What is accepted behind the framing is an IPv4 header and its payload. -/
theorem capturedAt_of_datagramPayload
    (version : startsIpv4 packet = true)
    (accepted : datagramPayload packet = accept (source, payload)) :
    CapturedAt packet 0 source payload := by
  unfold datagramPayload at accepted
  split at accepted
  · cases accepted
  rename_i long
  obtain ⟨protocol, protocolRead, accepted⟩ := bind_eq_accept.mp accepted
  split at accepted
  · cases accepted
  rename_i udp
  obtain ⟨byte, byteRead, accepted⟩ := bind_eq_accept.mp accepted
  simp only at accepted
  split at accepted
  · cases accepted
  rename_i roomy
  obtain ⟨first, firstRead, accepted⟩ := bind_eq_accept.mp accepted
  obtain ⟨second, secondRead, accepted⟩ := bind_eq_accept.mp accepted
  obtain ⟨third, thirdRead, accepted⟩ := bind_eq_accept.mp accepted
  obtain ⟨fourth, fourthRead, accepted⟩ := bind_eq_accept.mp accepted
  obtain ⟨rest, restRead, accepted⟩ := bind_eq_accept.mp accepted
  cases accepted
  rw [byteAt_eq_accept] at protocolRead byteRead
  rw [byteAt_eq_accept] at firstRead secondRead thirdRead fourthRead
  rw [not_or] at roomy
  rw [sliceFrom_eq_accept (by omega)] at restRead
  subst restRead
  have inHeader :
      ∀ index, index < 20 →
        (packet.take ((byte &&& 0x0f).toNat * 4))[index]? =
          packet[index]? := by
    intro index small
    rw [List.getElem?_take, if_pos (by omega)]
  have headerLength :
      (packet.take ((byte &&& 0x0f).toNat * 4)).length =
        (byte &&& 0x0f).toNat * 4 := by
    rw [List.length_take]
    omega
  refine ⟨packet.take ((byte &&& 0x0f).toNat * 4), ?_, ?_, ?_, ?_⟩
  · rw [List.drop_zero, List.take_append_drop]
  · constructor
    · unfold startsIpv4 at version ⊢
      rw [List.head?_eq_getElem?] at version ⊢
      rw [inHeader 0 (by omega)]
      exact version
    · rw [headerLength]
      omega
    · rw [inHeader 0 (by omega), byteRead, headerLength]
      rfl
    · rw [inHeader 9 (by omega), protocolRead]
      rw [not_not] at udp
      rw [udp]
  · rw [take_drop_of_getElem? ((inHeader 12 (by omega)).trans firstRead)
      ((inHeader 13 (by omega)).trans secondRead)
      ((inHeader 14 (by omega)).trans thirdRead)
      ((inHeader 15 (by omega)).trans fourthRead)]
  · rw [List.length_drop]
    omega

/-- The offset that is found is one of the two, with a version nibble there. -/
theorem ipv4Offset_accept
    {offset : Nat} (found : ipv4Offset packet = accept offset) :
    (offset = 0 ∨ offset = 14) ∧ offset < packet.length ∧
      startsIpv4 (packet.drop offset) = true := by
  unfold ipv4Offset at found
  by_cases direct : startsIpv4 packet = true
  · rw [if_pos direct] at found
    cases found
    refine ⟨Or.inl rfl, ?_, direct⟩
    apply Nat.pos_of_ne_zero
    intro empty
    rw [List.length_eq_zero_iff] at empty
    rw [empty] at direct
    cases direct
  · rw [if_neg direct] at found
    split at found
    · obtain ⟨byte, byteRead, found⟩ := bind_eq_accept.mp found
      split at found
      · rename_i version
        cases found
        rw [byteAt_eq_accept] at byteRead
        refine ⟨Or.inr rfl, ?_, ?_⟩
        · exact (List.getElem?_eq_some_iff.mp byteRead).1
        · unfold startsIpv4
          rw [List.head?_eq_getElem?, List.getElem?_drop, byteRead]
          exact beq_iff_eq.mpr version
      · cases found
    · cases found

/-- Looking for the offset reads out of range on 14 bytes without a version
nibble in front. -/
theorem ipv4Offset_eq_abort :
    ipv4Offset packet = abort ↔
      packet.length = 14 ∧ startsIpv4 packet = false := by
  unfold ipv4Offset
  by_cases direct : startsIpv4 packet = true
  · rw [if_pos direct, direct]
    constructor
    · intro aborted
      cases aborted
    · intro impossible
      cases impossible.2
  · rw [if_neg direct]
    rw [Bool.not_eq_true] at direct
    by_cases framed : packet.length ≥ 14
    · rw [if_pos framed]
      cases read : byteAt packet 14 with
      | abort =>
          have short := byteAt_eq_abort.mp read
          exact iff_of_true rfl ⟨by omega, direct⟩
      | reject =>
          unfold byteAt at read
          split at read <;> cases read
      | accept byte =>
          have present := byteAt_eq_accept.mp read
          have inside := (List.getElem?_eq_some_iff.mp present).1
          apply iff_of_false
          · rw [accept_bind]
            split
            · exact accept_ne_abort 14
            · exact reject_ne_abort
          · intro short
            omega
    · rw [if_neg framed]
      apply iff_of_false reject_ne_abort
      intro short
      omega

theorem ipv4UdpPayload_eq_abort :
    ipv4UdpPayload packet = abort ↔ ipv4Offset packet = abort := by
  unfold ipv4UdpPayload
  constructor
  · intro aborted
    by_contra found
    revert aborted
    apply bind_ne_abort found
    intro offset accepted
    obtain ⟨_, inside, _⟩ := ipv4Offset_accept accepted
    apply bind_ne_abort (sliceFrom_ne_abort (by omega))
    intro datagram _
    exact datagramPayload_ne_abort datagram
  · intro aborted
    rw [aborted]
    rfl

theorem capturedAt_of_ipv4UdpPayload
    (accepted : ipv4UdpPayload packet = accept (source, payload)) :
    ∃ offset, (offset = 0 ∨ offset = 14) ∧
      CapturedAt packet offset source payload := by
  obtain ⟨offset, found, accepted⟩ := bind_eq_accept.mp accepted
  obtain ⟨datagram, sliced, accepted⟩ := bind_eq_accept.mp accepted
  obtain ⟨framing, inside, version⟩ := ipv4Offset_accept found
  rw [sliceFrom_eq_accept (by omega)] at sliced
  subst sliced
  exact ⟨offset, framing, capturedAt_of_datagramPayload version accepted⟩

/-- The slices that `capture_interface` takes are within what was accepted. -/
theorem captureInterface_ne_abort
    (decode : List UInt8 → Except String ControlMessage)
    (found : ipv4UdpPayload packet ≠ abort) :
    captureInterface decode packet ≠ abort := by
  unfold captureInterface
  apply bind_ne_abort found
  intro entry _
  by_cases short : entry.2.length < 8
  · rw [if_pos short]
    exact reject_ne_abort
  · rw [if_neg short]
    apply bind_ne_abort (byteAt_ne_abort (by omega))
    intro high _
    apply bind_ne_abort (byteAt_ne_abort (by omega))
    intro low _
    by_cases other : UInt16.ofNat (beValue [high, low]) ≠ controlPort
    · rw [if_pos other]
      exact reject_ne_abort
    · rw [if_neg other]
      apply bind_ne_abort (sliceFrom_ne_abort (by omega))
      intro body _
      cases decode body with
      | error error =>
          exact reject_ne_abort
      | ok message =>
          exact accept_ne_abort _

end

/-- No read is out of range, and what is returned is a UDP packet at one of
the two offsets. -/
structure CaptureExact (packet : List UInt8) : Prop where
  payloadInRange : ipv4UdpPayload packet ≠ abort
  captureInRange : ∀ decode, captureInterface decode packet ≠ abort
  returned :
    ∀ source payload,
      ipv4UdpPayload packet = accept (source, payload) →
      ∃ offset, (offset = 0 ∨ offset = 14) ∧
        CapturedAt packet offset source payload

/-- The parser is total and exact except on packets of exactly 14 bytes that
do not start with an IPv4 header. -/
theorem captureExact_iff (packet : List UInt8) :
    CaptureExact packet ↔
      ¬ (packet.length = 14 ∧ startsIpv4 packet = false) := by
  rw [← ipv4Offset_eq_abort, ← ipv4UdpPayload_eq_abort]
  constructor
  · intro captured
    exact captured.payloadInRange
  · intro found
    constructor
    · exact found
    · intro decode
      exact captureInterface_ne_abort decode found
    · intro source payload accepted
      exact capturedAt_of_ipv4UdpPayload accepted

/-- An Ethernet header with nothing behind it. -/
theorem bare_header_aborts :
    ¬ CaptureExact
      [0xFF, 0xFF, 0xFF, 0xFF, 0xFF, 0xFF, 0x02, 0, 0, 0, 0, 1, 0x08, 0] := by
  intro captured
  exact captured.payloadInRange (by decide)

/-- A control packet behind an Ethernet header is read at offset 14. -/
example :
    ipv4UdpPayload
      ([0xFF, 0xFF, 0xFF, 0xFF, 0xFF, 0xFF, 0x02, 0, 0, 0, 0, 1, 0x08, 0] ++
        [0x45, 0, 0, 28, 0, 0, 0, 0, 64, 17, 0, 0, 10, 0, 0, 2, 10, 0, 0, 1] ++
        [0, 1, 0xCA, 0x6D, 0, 8, 0, 0]) =
      accept (.v4 0x0A000002#32, [0, 1, 0xCA, 0x6D, 0, 8, 0, 0]) := by
  decide

end WgLink
