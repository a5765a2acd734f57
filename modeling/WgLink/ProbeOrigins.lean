import WgLink.Relay

/-!
# What the loop of a relay starts to send

The send tasks that each turn of `run_relay` starts, and the turns that record
the success of a probe.
-/

namespace WgLink

open WgLink.Library

namespace Relay

variable {hash : Hash} {spec : RelaySpec} {relay : Relay}

/-- The frame of a probe for one of the peers. -/
def Request (spec : RelaySpec) (send : ProbeSend) : Prop :=
  ∃ peer ∈ spec.peers, ∃ nonce sentMicros,
    send.frame =
      encodeFrame spec.localPublicKey peer
        (.pathProbe nonce sentMicros false) (asBytes "p")

/-- The frame of the response to a probe. -/
def Response (spec : RelaySpec) (packet : InboundRelayPacket)
    (send : ProbeSend) : Prop :=
  ∃ nonce sentMicros,
    packet.channel = .pathProbe nonce sentMicros false ∧
      send.frame =
        encodeFrame spec.localPublicKey packet.sourceKey
          (.pathProbe nonce sentMicros true) (asBytes "p")

/-- A turn starts tasks of one kind and ends none. -/
def StartsSends (Kind : ProbeSend → Prop) (before after : Relay) : Prop :=
  ∃ started,
    after.probeSends = before.probeSends ++ started ∧
      ∀ send ∈ started, Kind send

theorem StartsSends.none
    {Kind : ProbeSend → Prop} {before after : Relay}
    (same : after.probeSends = before.probeSends) :
    StartsSends Kind before after := by
  refine ⟨[], ?_, ?_⟩
  · rw [same, List.append_nil]
  · intro send member
    cases member

theorem queueProbeSend_sends
    {Kind : ProbeSend → Prop} {sends : List ProbeSend} {frame : Bytes}
    {dstPeerId : UInt32} {request : Option (UInt64 × String)}
    (kind : Kind ⟨frame, dstPeerId, request⟩) :
    ∃ started,
      (queueProbeSend sends frame dstPeerId request).1 = sends ++ started ∧
        ∀ send ∈ started, Kind send := by
  unfold queueProbeSend
  split
  · refine ⟨[], (List.append_nil sends).symm, ?_⟩
    intro send member
    cases member
  · refine ⟨_, rfl, ?_⟩
    intro send member
    rw [List.mem_singleton.mp member]
    exact kind

theorem expireProbes_probeSends
    (now : Instant) (order : List UInt64) :
    (relay.expireProbes spec now order).1.probeSends = relay.probeSends := by
  have keeps :=
    @emitAll_keeps Relay UInt64 ProbeEvent (expireProbe spec now)
      (fun _ visited => visited.probeSends = relay.probeSends)
      (by
        intro nonce past visited same
        unfold expireProbe
        split
        · exact same
        · exact same)
      [] relay rfl (order.filter (relay.overdue now))
  exact keeps

theorem probePeer_sends
    {latencies : HashMap String Int} {now : Instant}
    {entry : String × PeerClock} (listed : entry.1 ∈ spec.peers) :
    StartsSends (Request spec) relay
      (relay.probePeer hash spec latencies now entry).1 := by
  unfold probePeer
  simp only
  split
  · exact StartsSends.none rfl
  rename_i hostname dstPeerId resolved
  have queued :=
    @queueProbeSend_sends (Request spec) relay.probeSends
      (encodeFrame spec.localPublicKey entry.1
        (.pathProbe relay.nextProbeNonce entry.2.unixMicros false)
        (asBytes "p"))
      dstPeerId (some (relay.nextProbeNonce, entry.1))
      ⟨entry.1, listed, _, _, rfl⟩
  split
  · exact queued
  · exact queued

theorem probePeers_sends
    {routes : List Route} {now : Instant} {clocks : List PeerClock} :
    StartsSends (Request spec) relay
      (relay.probePeers hash spec routes now clocks).1 := by
  have rule :=
    @emitAll_invariant Relay (String × PeerClock) ProbeEvent
      (probePeer hash spec (discoveredLatencies routes) now)
      (fun rest _ visited =>
        (∀ entry ∈ rest, entry.1 ∈ spec.peers) ∧
          StartsSends (Request spec) relay visited)
      (by
        rintro entry rest past visited ⟨listed, earlier, same, kind⟩
        refine ⟨fun later member =>
          listed later (List.mem_cons_of_mem entry member), ?_⟩
        obtain ⟨started, extended, startedKind⟩ :=
          @probePeer_sends hash spec visited (discoveredLatencies routes) now
            entry (listed entry List.mem_cons_self)
        refine ⟨earlier ++ started, ?_, ?_⟩
        · rw [extended, same, List.append_assoc]
        · intro send member
          rcases List.mem_append.mp member with before | here
          · exact kind send before
          · exact startedKind send here)
      (spec.peers.zip clocks) [] relay
  apply (rule ⟨?_, StartsSends.none rfl⟩).2
  intro entry member
  exact (List.of_mem_zip member).1

/-- A refresh starts tasks that send probes to the peers. -/
theorem refresh_sends
    {routes : List Route} {now : Instant} {order : List UInt64}
    {clocks : List PeerClock} {turn : Relay × List ProbeEvent}
    (taken : relay.refresh hash spec routes now order clocks = some turn) :
    StartsSends (Request spec) relay turn.1 := by
  unfold refresh at taken
  split at taken
  · cases taken
    obtain ⟨started, extended, kind⟩ :=
      @probePeers_sends hash spec
        ((relay.discover routes).expireProbes spec now order).1 routes now
        clocks
    rw [expireProbes_probeSends] at extended
    exact ⟨started, extended, kind⟩
  · cases taken

/-- A refresh records no success. -/
theorem refresh_not_successful
    {routes : List Route} {now : Instant} {order : List UInt64}
    {clocks : List PeerClock} {turn : Relay × List ProbeEvent}
    (taken : relay.refresh hash spec routes now order clocks = some turn)
    (nonce : UInt64) (peerKey : String) (rtt : Duration) :
    ProbeEvent.recorded nonce peerKey (some rtt) ∉ turn.2 := by
  unfold refresh at taken
  split at taken
  · cases taken
    rw [List.mem_append, not_or]
    constructor
    · apply not_mem_emitAll
      intro visited expired
      unfold expireProbe
      split
      · exact List.not_mem_nil
      · simp [settle]
    · apply not_mem_emitAll
      intro visited entry
      unfold probePeer
      simp only
      split
      · exact List.not_mem_nil
      · split
        · simp
        · simp
  · cases taken

/-- The end of a send task starts no other one and records no success. -/
theorem sendCompleted_ends
    {index : Nat} {outcome : Except String (Option String)} {now : Instant}
    {turn : Relay × List ProbeEvent}
    (taken : relay.sendCompleted spec index outcome now = some turn) :
    turn.1.probeSends.length ≤ relay.probeSends.length ∧
      ∀ nonce peerKey rtt,
        ProbeEvent.recorded nonce peerKey (some rtt) ∉ turn.2 := by
  have shorter :
      (relay.probeSends.eraseIdx index).length ≤ relay.probeSends.length :=
    (List.eraseIdx_sublist _ _).length_le
  unfold sendCompleted at taken
  split at taken
  · cases taken
  · simp only at taken
    split at taken
    · split at taken
      · cases taken
        exact ⟨shorter, by simp [settle]⟩
      · cases taken
        exact ⟨shorter, by simp⟩
    · cases taken
      exact ⟨shorter, by simp⟩

/-- A probe that is received starts at most its response. -/
theorem probeReceived_sends
    {packet : InboundRelayPacket} {now : Instant} {unixNow : UInt64} :
    StartsSends (Response spec packet) relay
      (relay.probeReceived hash spec packet now unixNow).1 := by
  unfold probeReceived
  split
  · rename_i nonce sentMicros reply channel
    cases reply with
    | true =>
        simp only [if_true]
        split
        · exact StartsSends.none rfl
        · split
          · exact StartsSends.none rfl
          · exact StartsSends.none rfl
    | false =>
        simp only [Bool.false_eq_true, if_false]
        split
        · exact StartsSends.none rfl
        · exact queueProbeSend_sends ⟨nonce, sentMicros, channel, rfl⟩
  · exact StartsSends.none rfl

/-- A success is recorded for the source of a reply with its nonce. -/
theorem probeReceived_successful
    {packet : InboundRelayPacket} {now : Instant} {unixNow nonce : UInt64}
    {peerKey : String} {rtt : Duration}
    (recorded :
      ProbeEvent.recorded nonce peerKey (some rtt) ∈
        (relay.probeReceived hash spec packet now unixNow).2) :
    peerKey = packet.sourceKey ∧
      ∃ sentMicros, packet.channel = .pathProbe nonce sentMicros true := by
  unfold probeReceived at recorded
  split at recorded
  · rename_i replyNonce sentMicros reply channel
    cases reply with
    | true =>
        simp only [if_true] at recorded
        split at recorded
        · cases recorded
        · split at recorded
          · rename_i same
            simp only [settle, List.mem_singleton,
              ProbeEvent.recorded.injEq] at recorded
            obtain ⟨rfl, rfl, _⟩ := recorded
            exact ⟨same, sentMicros, channel⟩
          · cases recorded
    | false =>
        simp only [Bool.false_eq_true, if_false] at recorded
        split at recorded
        · cases recorded
        · cases recorded
  · cases recorded

end Relay

end WgLink
