import WgLink.HubIssues
import WgLink.Library.Fallible
import WgLink.Library.Machine
import WgLink.Library.Utf8
import WgLink.PacketCapture

/-!
# The control channel

Control messages travel as UDP datagrams inside of WireGuard.  A node takes
them up twice: from its sockets, and from the packets that it captures on the
interface.  Both ways give what was sent, and nothing else.
-/

namespace WgLink

open WgLink.Library
open WgLink.Library.Parsed

/-- `serde_json` on control messages. -/
structure ControlJson where
  toVec : ControlMessage → Except String (List UInt8)
  fromSlice : List UInt8 → Except String ControlMessage

/-- `CONTROL_MAGIC`. -/
def controlMagic : List UInt8 := asBytes "WGLINKC1"

/-- `MAX_CONTROL_FRAME_SIZE`. -/
def maxControlFrameSize : Nat := 64 * 1024

/-- `ControlMessage::encode`. -/
def ControlMessage.encode (json : ControlJson) (self : ControlMessage) :
    Except String (List UInt8) := do
  let body ← json.toVec self
  if body.length > maxControlFrameSize then
    .error "shortcut control frame is too large"
  else
    .ok (controlMagic ++ body)

/-- `ControlMessage::decode`. -/
def ControlMessage.decode (json : ControlJson) (frame : List UInt8) :
    Except String ControlMessage :=
  if frame.length ≤ controlMagic.length ∨
      frame.length > controlMagic.length + maxControlFrameSize ∨
      controlMagic.isPrefixOf frame = false then
    .error "invalid shortcut control frame"
  else
    json.fromSlice (frame.drop controlMagic.length)

/-! ## Sending and receiving -/

/-- A datagram of the control channel; UDP carries no longer bodies. -/
structure ControlDatagram where
  source : SocketAddr
  target : SocketAddr
  body : List UInt8
  fits : body.length ≤ 65527
deriving DecidableEq

/-- `base_control::send`.  The system opens a socket at a port or does not,
and may refuse to send. -/
def BaseControl.send
    (json : ControlJson) (opened : Except String UInt16) (refused : Bool)
    (localAddress target : IpAddr) (message : ControlMessage) :
    Except String ControlDatagram :=
  if localAddress.isIpv4 ≠ target.isIpv4 then
    .error "shortcut control address families do not match"
  else do
    let port ← opened
    let frame ← message.encode json
    if sent : refused = false ∧ frame.length ≤ 65527 then
      .ok ⟨⟨localAddress, port⟩, ⟨target, controlPort⟩, frame, sent.2⟩
    else
      .error "failed to send in-band shortcut ticket"

/-- What the task of a socket makes of a datagram. -/
def BaseControl.receive (json : ControlJson) (datagram : ControlDatagram) :
    Option ReceivedControl :=
  (ControlMessage.decode json (datagram.body.take 65535)).toOption.map
    fun message => ⟨datagram.source.ip, message⟩

/-- A datagram as an IP packet; `counts` are its length and its checksum. -/
def ControlDatagram.packet (self : ControlDatagram) (header : List UInt8)
    (counts : ByteVector 4) : List UInt8 :=
  header ++
    (beBytes 2 self.source.port.toNat ++
      (beBytes 2 self.target.port.toNat ++ (counts.toList ++ self.body)))

/-- An IPv4 header for a datagram, bare or behind an Ethernet header. -/
structure ControlDatagram.Carries (datagram : ControlDatagram)
    (link header : List UInt8) : Prop where
  framing : link = [] ∨ link.length = 14 ∧ startsIpv4 link = false
  isHeader : Ipv4UdpHeader header
  sourceOf : datagram.source.ip = ipv4Addr ((header.drop 12).take 4)

instance (header : List UInt8) : Decidable (Ipv4UdpHeader header) :=
  decidable_of_iff
    (startsIpv4 header = true ∧ 20 ≤ header.length ∧
      (header[0]?.map fun byte => (byte &&& 0x0f).toNat * 4) =
        some header.length ∧
      header[9]? = some 17)
    ⟨fun parts => ⟨parts.1, parts.2.1, parts.2.2.1, parts.2.2.2⟩,
      fun parts =>
        ⟨parts.version, parts.longEnough, parts.length, parts.protocol⟩⟩

instance (datagram : ControlDatagram) (link header : List UInt8) :
    Decidable (datagram.Carries link header) :=
  decidable_of_iff
    ((link = [] ∨ link.length = 14 ∧ startsIpv4 link = false) ∧
      Ipv4UdpHeader header ∧
      datagram.source.ip = ipv4Addr ((header.drop 12).take 4))
    ⟨fun parts => ⟨parts.1, parts.2.1, parts.2.2⟩,
      fun parts => ⟨parts.framing, parts.isHeader, parts.sourceOf⟩⟩

/-! ## All nodes -/

/-- What happens: a node sends, a datagram arrives at a socket or is seen on
an interface, or somebody else sends one. -/
inductive ControlEvent where
  | send (opened : Except String UInt16) (refused : Bool)
      (localAddress target : IpAddr) (message : ControlMessage)
  | arrive (datagram : ControlDatagram)
  | capture (link header : List UInt8) (counts : ByteVector 4)
      (datagram : ControlDatagram)
  | stranger (datagram : ControlDatagram)

/-- The datagrams that were sent may get lost, and arrive and be seen late and
often. -/
def controlNetwork (json : ControlJson) :
    Machine (List ControlDatagram) ControlEvent (Option ReceivedControl) where
  start flight := flight = []
  step flight
    | .send opened refused localAddress target message =>
        match
          BaseControl.send json opened refused localAddress target
            message with
        | .ok datagram => some (datagram :: flight, none)
        | .error _ => some (flight, none)
    | .arrive datagram =>
        if datagram ∈ flight ∧ datagram.target.port = controlPort then
          some (flight, BaseControl.receive json datagram)
        else
          none
    | .capture link header counts datagram =>
        if datagram ∈ flight ∧ datagram.Carries link header then
          match
            captureInterface (ControlMessage.decode json)
              (link ++ datagram.packet header counts) with
          | .accept received => some (flight, some received)
          | _ => some (flight, none)
        else
          none
    | .stranger datagram => some (datagram :: flight, none)

abbrev ControlStep :=
  Record (List ControlDatagram) ControlEvent (Option ReceivedControl)

/-- What is written for a message is read as that message. -/
def ReadsBack (json : ControlJson) (message : ControlMessage) : Prop :=
  ∀ body, json.toVec message = .ok body →
    body ≠ [] ∧ json.fromSlice body = .ok message

/-! ## Frames -/

section Frames

variable {json : ControlJson} {message : ControlMessage}

theorem isPrefixOf_append (front rest : List UInt8) :
    front.isPrefixOf (front ++ rest) = true :=
  List.isPrefixOf_iff_prefix.mpr (List.prefix_append front rest)

theorem encode_eq_ok
    {frame : List UInt8} (encoded : message.encode json = .ok frame) :
    ∃ body,
      json.toVec message = .ok body ∧
        body.length ≤ maxControlFrameSize ∧ frame = controlMagic ++ body := by
  obtain ⟨body, written, checked⟩ := except_bind_eq_ok.mp encoded
  split at checked
  next => cases checked
  next small =>
    have same := Except.ok.inj checked
    exact ⟨body, written, Nat.le_of_not_lt small, same.symm⟩

/-- A frame that was encoded is decoded to its message. -/
theorem decode_encoded
    {frame : List UInt8} (readsBack : ReadsBack json message)
    (encoded : message.encode json = .ok frame) :
    ControlMessage.decode json frame = .ok message := by
  obtain ⟨body, written, small, isFrame⟩ := encode_eq_ok encoded
  obtain ⟨nonempty, read⟩ := readsBack body written
  have bodyPositive : 0 < body.length := List.length_pos_iff.mpr nonempty
  have framed := isPrefixOf_append controlMagic body
  have proper :
      ¬(frame.length ≤ controlMagic.length ∨
        frame.length > controlMagic.length + maxControlFrameSize ∨
        controlMagic.isPrefixOf frame = false) := by
    rw [isFrame, framed, List.length_append]
    rintro (short | long | unframed)
    · omega
    · omega
    · cases unframed
  unfold ControlMessage.decode
  rw [if_neg proper, isFrame, List.drop_left]
  exact read

theorem send_eq_ok
    {opened : Except String UInt16} {refused : Bool}
    {localAddress target : IpAddr} {datagram : ControlDatagram}
    (sent :
      BaseControl.send json opened refused localAddress target message =
        .ok datagram) :
    datagram.source.ip = localAddress ∧ datagram.target.port = controlPort ∧
      message.encode json = .ok datagram.body := by
  unfold BaseControl.send at sent
  split at sent
  next => cases sent
  next =>
    obtain ⟨port, _, afterOpen⟩ := except_bind_eq_ok.mp sent
    obtain ⟨frame, encoded, afterEncode⟩ := except_bind_eq_ok.mp afterOpen
    split at afterEncode
    next =>
      have same := Except.ok.inj afterEncode
      rw [← same]
      exact ⟨rfl, rfl, encoded⟩
    next => cases afterEncode

end Frames

/-! ## Captured packets -/

section Capture

variable {link header payload : List UInt8}

theorem getElem?_header
    (isHeader : Ipv4UdpHeader header) {index : Nat} (small : index < 20) :
    (header ++ payload)[index]? = header[index]? :=
  List.getElem?_append_left
    (Nat.lt_of_lt_of_le small isHeader.longEnough)

/-- The parts of a UDP packet are found. -/
theorem datagramPayload_append
    (isHeader : Ipv4UdpHeader header) (whole : 8 ≤ payload.length) :
    datagramPayload (header ++ payload) =
      accept (ipv4Addr ((header.drop 12).take 4), payload) := by
  have long := isHeader.longEnough
  have readByte (index : Nat) (small : index < 20) :
      ∃ byte, header[index]? = some byte ∧
        byteAt (header ++ payload) index = accept byte := by
    obtain ⟨byte, read⟩ :=
      @exists_byteAt (header ++ payload) index
        (by rw [List.length_append]; omega)
    have present := byteAt_eq_accept.mp read
    rw [getElem?_header isHeader small] at present
    exact ⟨byte, present, read⟩
  obtain ⟨protocol, protocolHere, protocolRead⟩ := readByte 9 (by omega)
  obtain ⟨first, firstHere, firstRead⟩ := readByte 0 (by omega)
  obtain ⟨one, oneHere, oneRead⟩ := readByte 12 (by omega)
  obtain ⟨two, twoHere, twoRead⟩ := readByte 13 (by omega)
  obtain ⟨three, threeHere, threeRead⟩ := readByte 14 (by omega)
  obtain ⟨four, fourHere, fourRead⟩ := readByte 15 (by omega)
  have isUdp : protocol = 17 :=
    Option.some.inj (protocolHere.symm.trans isHeader.protocol)
  have isLength : (first &&& 0x0f).toNat * 4 = header.length := by
    have length := isHeader.length
    rw [firstHere] at length
    exact Option.some.inj length
  have source := take_drop_of_getElem? oneHere twoHere threeHere fourHere
  have rest :
      sliceFrom (header ++ payload) header.length = accept payload := by
    rw [sliceFrom_of_le (by rw [List.length_append]; omega), List.drop_left]
  have roomy :
      ¬(header.length < 20 ∨
        (header ++ payload).length < header.length + 8) := by
    rw [List.length_append]
    omega
  unfold datagramPayload
  rw [if_neg (by rw [List.length_append]; omega), protocolRead, accept_bind,
    if_neg (not_not.mpr isUdp), firstRead, accept_bind]
  simp only [isLength]
  rw [if_neg roomy, oneRead, accept_bind, twoRead, accept_bind, threeRead,
    accept_bind, fourRead, accept_bind, rest, accept_bind, source]

theorem startsIpv4_append
    {front : List UInt8} (nonempty : 0 < front.length) (rest : List UInt8) :
    startsIpv4 (front ++ rest) = startsIpv4 front := by
  cases front with
  | nil => cases nonempty
  | cons byte tail => rfl

/-- The IP packet is found, with or without an Ethernet header. -/
theorem ipv4Offset_append
    (framing : link = [] ∨ link.length = 14 ∧ startsIpv4 link = false)
    (isHeader : Ipv4UdpHeader header) :
    ipv4Offset (link ++ (header ++ payload)) = accept link.length := by
  have long := isHeader.longEnough
  have version : startsIpv4 (header ++ payload) = true := by
    rw [startsIpv4_append (by omega)]
    exact isHeader.version
  rcases framing with bare | ⟨ethernet, unversioned⟩
  · rw [bare, List.nil_append]
    unfold ipv4Offset
    rw [if_pos version]
    rfl
  · have direct : startsIpv4 (link ++ (header ++ payload)) = false := by
      rw [startsIpv4_append (by omega)]
      exact unversioned
    obtain ⟨byte, read⟩ :=
      @exists_byteAt (header ++ payload) 0
        (by rw [List.length_append]; omega)
    have there := byteAt_append link (header ++ payload) 0
    rw [ethernet, read] at there
    have nibble : byte >>> 4 = 4 := by
      unfold startsIpv4 at version
      rw [List.head?_eq_getElem?, byteAt_eq_accept.mp read] at version
      exact beq_iff_eq.mp version
    unfold ipv4Offset
    rw [direct, if_neg Bool.false_ne_true,
      if_pos (by rw [List.length_append]; omega), there, accept_bind,
      if_pos nibble, ethernet]

theorem ipv4UdpPayload_append
    (framing : link = [] ∨ link.length = 14 ∧ startsIpv4 link = false)
    (isHeader : Ipv4UdpHeader header) (whole : 8 ≤ payload.length) :
    ipv4UdpPayload (link ++ (header ++ payload)) =
      accept (ipv4Addr ((header.drop 12).take 4), payload) := by
  unfold ipv4UdpPayload
  rw [ipv4Offset_append framing isHeader, accept_bind,
    sliceFrom_of_le (by rw [List.length_append]; omega), accept_bind,
    List.drop_left]
  exact datagramPayload_append isHeader whole

/-- What a UDP packet carries: its target port, and the body. -/
theorem payload_parts
    (sourcePort targetPort : UInt16) (counts : ByteVector 4)
    (body : List UInt8) :
    let payload :=
      beBytes 2 sourcePort.toNat ++
        (beBytes 2 targetPort.toNat ++ (counts.toList ++ body))
    8 ≤ payload.length ∧
      wordAt payload 2 = accept targetPort ∧
      sliceFrom payload 8 = accept body := by
  intro payload
  have sourceLength := length_beBytes 2 sourcePort.toNat
  have targetLength := length_beBytes 2 targetPort.toNat
  have countsLength := counts.toList_length
  have length : payload.length = 8 + body.length := by
    rw [List.length_append, List.length_append, List.length_append,
      sourceLength, targetLength, countsLength]
    omega
  have whole : 8 ≤ payload.length := by omega
  have port := wordAt_append (beBytes 2 sourcePort.toNat)
    (beBytes 2 targetPort.toNat ++ (counts.toList ++ body)) 0
  rw [wordAt_beBytes, sourceLength] at port
  have split :
      payload =
        (beBytes 2 sourcePort.toNat ++
          (beBytes 2 targetPort.toNat ++ counts.toList)) ++ body := by
    rw [List.append_assoc, List.append_assoc]
  refine ⟨whole, port, ?_⟩
  rw [sliceFrom_of_le whole, split, List.drop_left']
  rw [List.length_append, List.length_append, sourceLength, targetLength,
    countsLength]

/-- A datagram that is seen on the interface is taken for what it is. -/
theorem captureInterface_packet
    (decode : List UInt8 → Except String ControlMessage)
    {datagram : ControlDatagram} (carries : datagram.Carries link header)
    (counts : ByteVector 4) :
    captureInterface decode (link ++ datagram.packet header counts) =
      if datagram.target.port = controlPort then
        ofOption
          ((decode datagram.body).toOption.map fun message =>
            ⟨datagram.source.ip, message⟩)
      else
        reject := by
  obtain ⟨whole, port, rest⟩ :=
    payload_parts datagram.source.port datagram.target.port counts
      datagram.body
  have found :=
    ipv4UdpPayload_append carries.framing carries.isHeader whole
  obtain ⟨high, highRead, lowPart⟩ := bind_eq_accept.mp port
  obtain ⟨low, lowRead, isPort⟩ := bind_eq_accept.mp lowPart
  have samePort :
      UInt16.ofNat (beValue [high, low]) = datagram.target.port :=
    Parsed.accept.inj isPort
  unfold captureInterface ControlDatagram.packet
  rw [found, accept_bind, if_neg (Nat.not_lt.mpr whole), highRead,
    accept_bind, lowRead, accept_bind, samePort, carries.sourceOf]
  by_cases toControl : datagram.target.port = controlPort
  · rw [if_neg (not_not.mpr toControl), if_pos toControl, rest, accept_bind]
    cases decode datagram.body with
    | error error => rfl
    | ok message => rfl
  · rw [if_pos toControl, if_neg toControl]

end Capture

/-! ## Whole runs -/

section Runs

variable {json : ControlJson} {flight : List ControlDatagram}
  {log : List ControlStep}

/-- The step in which a node put a datagram on its way. -/
def SendsControl (json : ControlJson) (step : ControlStep) (source : IpAddr)
    (message : ControlMessage) (datagram : ControlDatagram) : Prop :=
  ∃ opened refused target,
    step.input = .send opened refused source target message ∧
      BaseControl.send json opened refused source target message =
        .ok datagram

/-- What a step puts on the way. -/
theorem flight_of_takes
    {record : ControlStep} (taken : (controlNetwork json).Takes record) :
    record.after = record.before ∨
      ∃ datagram,
        record.after = datagram :: record.before ∧
          ((∃ source message,
              SendsControl json record source message datagram) ∨
            record.input = .stranger datagram) := by
  unfold Machine.Takes controlNetwork at taken
  cases isInput : record.input with
  | send opened refused source target message =>
      rw [isInput] at taken
      simp only at taken
      split at taken
      next datagram isSent =>
        have after := congrArg Prod.fst (Option.some.inj taken)
        exact .inr ⟨datagram, after.symm, .inl
          ⟨source, message, opened, refused, target, isInput, isSent⟩⟩
      next =>
        exact .inl (congrArg Prod.fst (Option.some.inj taken)).symm
  | arrive datagram =>
      rw [isInput] at taken
      simp only at taken
      split at taken
      next => exact .inl (congrArg Prod.fst (Option.some.inj taken)).symm
      next => cases taken
  | capture link header counts datagram =>
      rw [isInput] at taken
      simp only at taken
      split at taken
      next =>
        split at taken
        next => exact .inl (congrArg Prod.fst (Option.some.inj taken)).symm
        next => exact .inl (congrArg Prod.fst (Option.some.inj taken)).symm
      next => cases taken
  | stranger datagram =>
      rw [isInput] at taken
      have after := congrArg Prod.fst (Option.some.inj taken)
      exact .inr ⟨datagram, after.symm, .inr rfl⟩

/-- Every datagram on its way was sent. -/
theorem origin_of_flight
    (execution : (controlNetwork json).Execution log flight)
    {datagram : ControlDatagram} (onWay : datagram ∈ flight) :
    ∃ past ∈ log,
      (∃ source message,
          SendsControl json past source message datagram) ∨
        past.input = .stranger datagram := by
  induction execution with
  | start started =>
      rw [started] at onWay
      cases onWay
  | @step older record earlier taken inductionHypothesis =>
      have before (wasOnWay : datagram ∈ record.before) :
          ∃ past ∈ record :: older,
            (∃ source message,
                SendsControl json past source message datagram) ∨
              past.input = .stranger datagram := by
        obtain ⟨past, member, origin⟩ := inductionHypothesis wasOnWay
        exact ⟨past, List.mem_cons_of_mem record member, origin⟩
      rcases flight_of_takes taken with same | ⟨added, after, origin⟩
      · rw [same] at onWay
        exact before onWay
      · rw [after] at onWay
        rcases List.mem_cons.mp onWay with isAdded | wasOnWay
        · rw [isAdded]
          exact ⟨record, List.mem_cons_self, origin⟩
        · exact before wasOnWay

/-- The step takes a datagram up, from a socket or from the interface. -/
def TakesUpControl (step : ControlStep) (datagram : ControlDatagram) : Prop :=
  step.input = .arrive datagram ∨
    ∃ link header counts, step.input = .capture link header counts datagram

theorem receive_eq
    (json : ControlJson) (datagram : ControlDatagram) :
    BaseControl.receive json datagram =
      (ControlMessage.decode json datagram.body).toOption.map fun message =>
        ⟨datagram.source.ip, message⟩ := by
  unfold BaseControl.receive
  rw [List.take_of_length_le (Nat.le_trans datagram.fits (by decide))]

/-- Both ways make the same of a datagram for the control port. -/
theorem output_of_takesUp
    {record : ControlStep} {datagram : ControlDatagram}
    (taken : (controlNetwork json).Takes record)
    (takesUp : TakesUpControl record datagram) :
    datagram ∈ record.before ∧
      (datagram.target.port = controlPort →
        record.output = BaseControl.receive json datagram) := by
  unfold Machine.Takes controlNetwork at taken
  rcases takesUp with isArrive | ⟨link, header, counts, isCapture⟩
  · rw [isArrive] at taken
    simp only at taken
    split at taken
    next arrives =>
      have output := congrArg Prod.snd (Option.some.inj taken)
      exact ⟨arrives.1, fun _ => output.symm⟩
    next => cases taken
  · rw [isCapture] at taken
    simp only at taken
    split at taken
    next seen =>
      refine ⟨seen.1, ?_⟩
      intro toControl
      rw [captureInterface_packet _ seen.2 counts, if_pos toControl] at taken
      rw [receive_eq]
      cases decoded : ControlMessage.decode json datagram.body with
      | error error =>
          rw [decoded] at taken
          exact (congrArg Prod.snd (Option.some.inj taken)).symm
      | ok message =>
          rw [decoded] at taken
          exact (congrArg Prod.snd (Option.some.inj taken)).symm
    next => cases taken

/-- A datagram that a node has sent is received as what was sent. -/
theorem receive_of_sends
    {step : ControlStep} {source : IpAddr} {message : ControlMessage}
    {datagram : ControlDatagram} (readsBack : ReadsBack json message)
    (sends : SendsControl json step source message datagram) :
    datagram.target.port = controlPort ∧
      BaseControl.receive json datagram = some ⟨source, message⟩ := by
  obtain ⟨opened, refused, target, _, sent⟩ := sends
  obtain ⟨isSource, isPort, encoded⟩ := send_eq_ok sent
  rw [receive_eq, decode_encoded readsBack encoded, isSource]
  exact ⟨isPort, rfl⟩

/-- What a node takes up, from a socket or from a captured packet, is exactly
the message that was sent, in the name of the address it was sent from. -/
theorem control_received_as_sent
    {newer older : List ControlStep} {record : ControlStep}
    {datagram : ControlDatagram}
    (execution :
      (controlNetwork json).Execution (newer ++ record :: older) flight)
    (takesUp : TakesUpControl record datagram)
    (unforged : ∀ past ∈ older, past.input ≠ .stranger datagram)
    (readsBack :
      ∀ past ∈ older, ∀ source message,
        SendsControl json past source message datagram →
          ReadsBack json message)
    (received : ReceivedControl) :
    record.output = some received ↔
      ∃ past ∈ older,
        SendsControl json past received.source received.message datagram := by
  obtain ⟨earlier, taken⟩ := Machine.Execution.split execution
  obtain ⟨onWay, toControl⟩ := output_of_takesUp taken takesUp
  obtain ⟨past, member, origin⟩ := origin_of_flight earlier onWay
  rcases origin with ⟨source, message, sends⟩ | forged
  · obtain ⟨isPort, isReceived⟩ :=
      receive_of_sends (readsBack past member source message sends) sends
    have output := (toControl isPort).trans isReceived
    constructor
    · intro outputs
      have same : (⟨source, message⟩ : ReceivedControl) = received :=
        Option.some.inj (output.symm.trans outputs)
      rw [← same]
      exact ⟨past, member, sends⟩
    · rintro ⟨other, otherMember, otherSends⟩
      have isOther :=
        (receive_of_sends
          (readsBack other otherMember _ _ otherSends) otherSends).2
      exact (toControl isPort).trans isOther
  · exact absurd forged (unforged past member)

end Runs

/-! ## A keepalive -/

/-- What is written for a keepalive that asks for a reply. -/
def keepaliveText : List UInt8 :=
  asBytes "\x7b\"type\":\"keepalive\",\"reply_requested\":true\x7d"

/-- The writer and the reader on this message. -/
def keepaliveJson : ControlJson where
  toVec message :=
    if message = .keepalive true then .ok keepaliveText
    else .error "unexpected message"
  fromSlice bytes :=
    if bytes = keepaliveText then .ok (.keepalive true)
    else .error "expected value at line 1 column 1"

/-- The keepalive on its way from one node to another. -/
def keepaliveDatagram : ControlDatagram where
  source := ⟨.v4 0x0A000001#32, 40000⟩
  target := ⟨.v4 0x0A000002#32, controlPort⟩
  body := controlMagic ++ keepaliveText
  fits := by decide +kernel

/-- A node sends the keepalive, and another one sees it on its interface. -/
def keepaliveCaptured : List ControlEvent :=
  [.send (.ok 40000) false (.v4 0x0A000001#32) (.v4 0x0A000002#32)
      (.keepalive true),
    .capture []
      [0x45, 0, 0, 79, 0, 0, 0x40, 0, 1, 17, 0, 0, 10, 0, 0, 1, 10, 0, 0, 2]
      (.ofFn fun index => [0, 59, 0, 0].getD index 0) keepaliveDatagram]

/-- The other node receives it. -/
theorem control_received_as_sent_keepalive :
    ∃ record older flight,
      (controlNetwork keepaliveJson).Execution (record :: older) flight ∧
        TakesUpControl record keepaliveDatagram ∧
        record.output =
          some ⟨.v4 0x0A000001#32, .keepalive true⟩ := by
  have ran :
      ((controlNetwork keepaliveJson).run [] keepaliveCaptured).map
          (fun result => result.1.length) =
        some 2 := by
    decide +kernel
  obtain ⟨⟨log, flight⟩, completed, observed⟩ :=
    Option.map_eq_some_iff.mp ran
  have execution := Machine.execution_of_run rfl completed
  have inputs := Machine.inputs_of_run completed
  have sent :
      BaseControl.send keepaliveJson (.ok 40000) false (.v4 0x0A000001#32)
          (.v4 0x0A000002#32) (.keepalive true) =
        .ok keepaliveDatagram := by
    decide +kernel
  cases log with
  | nil =>
      cases observed
  | cons record older =>
      obtain ⟨isCapture, earlier⟩ := List.cons.inj inputs
      have isInput :
          ∀ past ∈ older,
            past.input =
              .send (.ok 40000) false (.v4 0x0A000001#32) (.v4 0x0A000002#32)
                (.keepalive true) := by
        intro past member
        have listed := List.mem_map_of_mem (f := Record.input) member
        rw [earlier] at listed
        exact List.mem_singleton.mp listed
      have unforged :
          ∀ past ∈ older, past.input ≠ .stranger keepaliveDatagram := by
        intro past member isStranger
        cases (isInput past member).symm.trans isStranger
      have readsBack :
          ∀ past ∈ older, ∀ source message,
            SendsControl keepaliveJson past source message keepaliveDatagram →
              ReadsBack keepaliveJson message := by
        rintro past member source message ⟨_, _, _, isSend, _⟩
        cases (isInput past member).symm.trans isSend
        intro body written
        cases written
        exact ⟨by decide +kernel, by decide +kernel⟩
      have takesUp : TakesUpControl record keepaliveDatagram :=
        .inr ⟨_, _, _, isCapture⟩
      refine ⟨record, older, flight, execution, takesUp, ?_⟩
      apply
        (@control_received_as_sent keepaliveJson flight [] older record
          keepaliveDatagram execution takesUp unforged readsBack _).mpr
      cases older with
      | nil =>
          cases earlier
      | cons past rest =>
          exact ⟨past, List.mem_cons_self, .ok 40000, false,
            .v4 0x0A000002#32, isInput past List.mem_cons_self, sent⟩

end WgLink
