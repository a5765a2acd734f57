import WgLink.Library.Ledger
import WgLink.Relay

/-!
# Probe accounting

Every probe that `run_relay` queues stays pending until its outcome is
recorded.  The one leak is a reply whose nonce is pending and whose source is
not the probed peer: it takes the probe out of the pending ones and records
nothing.
-/

namespace WgLink

open WgLink.Library

namespace ProbeEvent

/-- The nonce of a probe that was drawn. -/
def drawn : ProbeEvent → Option UInt64
  | .accepted nonce _ => some nonce
  | .refused nonce _ => some nonce
  | .recorded _ _ _ => none

/-- The nonce of a probe that went to `record_probe`. -/
def settled : ProbeEvent → Option UInt64
  | .accepted _ _ => none
  | .refused nonce _ => some nonce
  | .recorded nonce _ _ => some nonce

/-- The nonce of a probe that was queued. -/
def queued : ProbeEvent → Option UInt64
  | .accepted nonce _ => some nonce
  | .refused _ _ => none
  | .recorded _ _ _ => none

/-- The nonce of a queued probe that went to `record_probe`. -/
def concluded : ProbeEvent → Option UInt64
  | .accepted _ _ => none
  | .refused _ _ => none
  | .recorded nonce _ _ => some nonce

end ProbeEvent

/-- The steps of the loop. -/
abbrev RelayStep := Record Relay RelayEvent (List ProbeEvent)

/-- What became of the probes of a run, the oldest first. -/
def history (log : List RelayStep) : List ProbeEvent :=
  log.reverse.flatMap Record.output

theorem history_cons (record : RelayStep) (log : List RelayStep) :
    history (record :: log) = history log ++ record.output := by
  unfold history
  rw [List.reverse_cons, List.flatMap_append, List.flatMap_singleton]

/-! ## The invariant -/

/-- Both ledgers balance, for the probes that were drawn and for those that
were queued, and every nonce drawn so far is below the next one. -/
structure Accounted (events : List ProbeEvent) (relay : Relay) : Prop where
  all :
    Balanced (events.filterMap ProbeEvent.drawn)
      (events.filterMap ProbeEvent.settled) relay.pendingProbes
  queued :
    Balanced (events.filterMap ProbeEvent.queued)
      (events.filterMap ProbeEvent.concluded) relay.pendingProbes
  below :
    ∀ nonce ∈ events.filterMap ProbeEvent.drawn,
      nonce.toNat < relay.nextProbeNonce.toNat

namespace Accounted

variable {events : List ProbeEvent} {relay next : Relay} {nonce : UInt64}
  {peerKey : String}

theorem start {relay : Relay} (starts : relay.Starts) : Accounted [] relay := by
  obtain ⟨_, noPending, _, _⟩ := starts
  constructor
  · rw [noPending]
    exact Balanced.empty
  · rw [noPending]
    exact Balanced.empty
  · intro nonce member
    cases member

theorem of_same
    (accounted : Accounted events relay)
    (samePending : next.pendingProbes = relay.pendingProbes)
    (sameNonce : next.nextProbeNonce = relay.nextProbeNonce) :
    Accounted events next := by
  constructor
  · rw [samePending]
    exact accounted.all
  · rw [samePending]
    exact accounted.queued
  · rw [sameNonce]
    exact accounted.below

/-- Steps that leave the pending probes and the counter alone. -/
theorem silent
    (accounted : Accounted events relay)
    (samePending : next.pendingProbes = relay.pendingProbes)
    (sameNonce : next.nextProbeNonce = relay.nextProbeNonce) :
    Accounted (events ++ []) next := by
  rw [List.append_nil]
  exact accounted.of_same samePending sameNonce

theorem queued_subset_drawn (events : List ProbeEvent) :
    events.filterMap ProbeEvent.queued ⊆
      events.filterMap ProbeEvent.drawn := by
  intro nonce member
  obtain ⟨event, eventMember, isQueued⟩ := List.mem_filterMap.mp member
  apply List.mem_filterMap.mpr
  refine ⟨event, eventMember, ?_⟩
  cases event with
  | accepted other peerKey =>
      exact isQueued
  | refused other peerKey =>
      cases isQueued
  | recorded other peerKey rtt =>
      cases isQueued

theorem fresh (accounted : Accounted events relay) :
    relay.nextProbeNonce ∉ events.filterMap ProbeEvent.drawn := by
  intro member
  exact Nat.lt_irrefl _ (accounted.below _ member)

/-- Drawing one more nonce. -/
theorem below_succ
    (accounted : Accounted events relay) {event : ProbeEvent}
    (draws : event.drawn = some relay.nextProbeNonce)
    (counted :
      next.nextProbeNonce.toNat = relay.nextProbeNonce.toNat + 1) :
    ∀ nonce ∈ (events ++ [event]).filterMap ProbeEvent.drawn,
      nonce.toNat < next.nextProbeNonce.toNat := by
  intro nonce member
  rw [List.filterMap_append, List.mem_append] at member
  rw [counted]
  rcases member with earlier | here
  · have before := accounted.below nonce earlier
    omega
  · rw [List.filterMap_cons_some draws] at here
    rw [List.mem_singleton.mp here]
    omega

/-- A queued probe becomes pending. -/
theorem accept
    (accounted : Accounted events relay) (now : Instant)
    (pending :
      next.pendingProbes =
        relay.pendingProbes.insert relay.nextProbeNonce (peerKey, now))
    (counted :
      next.nextProbeNonce.toNat = relay.nextProbeNonce.toNat + 1) :
    Accounted (events ++ [.accepted relay.nextProbeNonce peerKey]) next := by
  have fresh := accounted.fresh
  constructor
  · rw [List.filterMap_append, List.filterMap_append, pending]
    have opened := accounted.all.opens fresh (peerKey, now)
    rw [← List.append_nil (events.filterMap ProbeEvent.settled)] at opened
    exact opened
  · rw [List.filterMap_append, List.filterMap_append, pending]
    have opened :=
      accounted.queued.opens
        (fun member => fresh (queued_subset_drawn events member))
        (peerKey, now)
    rw [← List.append_nil (events.filterMap ProbeEvent.concluded)] at opened
    exact opened
  · exact accounted.below_succ rfl counted

/-- A refused probe is recorded at once. -/
theorem refuse
    (accounted : Accounted events relay)
    (pending : next.pendingProbes = relay.pendingProbes)
    (counted :
      next.nextProbeNonce.toNat = relay.nextProbeNonce.toNat + 1) :
    Accounted (events ++ [.refused relay.nextProbeNonce peerKey]) next := by
  constructor
  · rw [List.filterMap_append, List.filterMap_append, pending]
    exact accounted.all.passes accounted.fresh
  · rw [List.filterMap_append, List.filterMap_append, pending]
    have same := accounted.queued
    rw [← List.append_nil (events.filterMap ProbeEvent.queued),
      ← List.append_nil (events.filterMap ProbeEvent.concluded)] at same
    exact same
  · exact accounted.below_succ rfl counted

/-- A pending probe is settled. -/
theorem settle
    (accounted : Accounted events relay) (rtt : Option Duration)
    (present : nonce ∈ relay.pendingProbes)
    (pending : next.pendingProbes = relay.pendingProbes.erase nonce)
    (sameNonce : next.nextProbeNonce = relay.nextProbeNonce) :
    Accounted (events ++ [.recorded nonce peerKey rtt]) next := by
  have sameDrawn :
      (events ++ [ProbeEvent.recorded nonce peerKey rtt]).filterMap
          ProbeEvent.drawn =
        events.filterMap ProbeEvent.drawn := by
    rw [List.filterMap_append]
    exact List.append_nil _
  have sameQueued :
      (events ++ [ProbeEvent.recorded nonce peerKey rtt]).filterMap
          ProbeEvent.queued =
        events.filterMap ProbeEvent.queued := by
    rw [List.filterMap_append]
    exact List.append_nil _
  constructor
  · rw [sameDrawn, List.filterMap_append, pending]
    exact accounted.all.closes present
  · rw [sameQueued, List.filterMap_append, pending]
    exact accounted.queued.closes present
  · rw [sameDrawn, sameNonce]
    exact accounted.below

end Accounted

/-! ## What the turns do to the pending probes -/

namespace Relay

variable {hash : Hash} {spec : RelaySpec} {relay : Relay} {now : Instant}
  {events : List ProbeEvent}

/-- A round for an expired nonce settles it, unless it is gone. -/
theorem expireProbe_accounted
    (accounted : Accounted events relay) (nonce : UInt64) :
    Accounted (events ++ (relay.expireProbe spec now nonce).2)
      (relay.expireProbe spec now nonce).1 := by
  unfold expireProbe
  split
  · exact accounted.silent rfl rfl
  · rename_i probe found
    have present : nonce ∈ relay.pendingProbes := by
      rw [HashMap.mem_iff_lookup_isSome, found]
      rfl
    exact accounted.settle none present rfl rfl

theorem expireProbe_nextProbeNonce (nonce : UInt64) :
    (relay.expireProbe spec now nonce).1.nextProbeNonce =
      relay.nextProbeNonce := by
  unfold expireProbe
  split <;> rfl

/-- A round for a peer draws no nonce, or draws one and queues it, or draws
one that is refused. -/
theorem probePeer_cases
    {latencies : HashMap String Int} {entry : String × PeerClock}
    {turn : Relay × List ProbeEvent}
    (taken : relay.probePeer hash spec latencies now entry = turn) :
    (turn.2 = [] ∧
        turn.1.pendingProbes = relay.pendingProbes ∧
        turn.1.nextProbeNonce = relay.nextProbeNonce) ∨
      (turn.2 = [.accepted relay.nextProbeNonce entry.1] ∧
        turn.1.pendingProbes =
          relay.pendingProbes.insert relay.nextProbeNonce (entry.1, now) ∧
        turn.1.nextProbeNonce = max (relay.nextProbeNonce + 1) 1) ∨
      (turn.2 = [.refused relay.nextProbeNonce entry.1] ∧
        turn.1.pendingProbes = relay.pendingProbes ∧
        turn.1.nextProbeNonce = max (relay.nextProbeNonce + 1) 1) := by
  unfold probePeer at taken
  simp only at taken
  split at taken
  · subst taken
    exact Or.inl ⟨rfl, rfl, rfl⟩
  · split at taken
    · subst taken
      exact Or.inr (Or.inl ⟨rfl, rfl, rfl⟩)
    · subst taken
      exact Or.inr (Or.inr ⟨rfl, rfl, rfl⟩)

theorem toNat_next
    {nonce : UInt64} (room : nonce.toNat + 1 < 2 ^ 64) :
    (max (nonce + 1) 1).toNat = nonce.toNat + 1 := by
  rw [toNat_max, UInt64.toNat_add, UInt64.toNat_one, Nat.mod_eq_of_lt room]
  omega

/-- The account balances and the counter has room for the rest of a loop. -/
def AccountedWithRoom
    (rest : List (String × PeerClock)) (events : List ProbeEvent)
    (relay : Relay) : Prop :=
  Accounted events relay ∧
    relay.nextProbeNonce.toNat + rest.length < 2 ^ 64

theorem probePeer_accounted
    (latencies : HashMap String Int) (entry : String × PeerClock)
    (rest : List (String × PeerClock)) (events : List ProbeEvent)
    (relay : Relay)
    (accounted : AccountedWithRoom (entry :: rest) events relay) :
    AccountedWithRoom rest
      (events ++ (relay.probePeer hash spec latencies now entry).2)
      (relay.probePeer hash spec latencies now entry).1 := by
  obtain ⟨accounted, room⟩ := accounted
  rw [List.length_cons] at room
  have counted :
      (max (relay.nextProbeNonce + 1) 1).toNat =
        relay.nextProbeNonce.toNat + 1 :=
    toNat_next (by omega)
  generalize taken : relay.probePeer hash spec latencies now entry = turn
  unfold AccountedWithRoom
  rcases probePeer_cases taken with
    ⟨nothing, pending, nonce⟩ | ⟨accepted, pending, nonce⟩ |
      ⟨refused, pending, nonce⟩
  · rw [nothing, nonce]
    exact ⟨accounted.silent pending nonce, by omega⟩
  · rw [← nonce] at counted
    rw [accepted, counted]
    exact ⟨accounted.accept now pending counted, by omega⟩
  · rw [← nonce] at counted
    rw [refused, counted]
    exact ⟨accounted.refuse pending counted, by omega⟩

/-- The loop over the expired nonces. -/
theorem expireProbes_accounted
    (accounted : Accounted events relay) (order : List UInt64) :
    Accounted (events ++ (relay.expireProbes spec now order).2)
        (relay.expireProbes spec now order).1 ∧
      (relay.expireProbes spec now order).1.nextProbeNonce =
        relay.nextProbeNonce := by
  have keeps :
      ∀ nonce past (current : Relay),
        Accounted past current ∧
          current.nextProbeNonce = relay.nextProbeNonce →
        Accounted (past ++ (current.expireProbe spec now nonce).2)
            (current.expireProbe spec now nonce).1 ∧
          (current.expireProbe spec now nonce).1.nextProbeNonce =
            relay.nextProbeNonce := by
    intro nonce past current held
    refine ⟨expireProbe_accounted held.1 nonce, ?_⟩
    rw [expireProbe_nextProbeNonce, held.2]
  exact emitAll_keeps keeps ⟨accounted, rfl⟩ _

/-- The loop over the peers, while the counter has room for all of them. -/
theorem probePeers_accounted
    {routes : List Route} {clocks : List PeerClock}
    (accounted : Accounted events relay)
    (room : relay.nextProbeNonce.toNat + spec.peers.length < 2 ^ 64) :
    Accounted (events ++ (relay.probePeers hash spec routes now clocks).2)
      (relay.probePeers hash spec routes now clocks).1 := by
  have enough :
      AccountedWithRoom (spec.peers.zip clocks) events relay := by
    refine ⟨accounted, ?_⟩
    rw [List.length_zip]
    omega
  have final :
      AccountedWithRoom []
        (events ++ (relay.probePeers hash spec routes now clocks).2)
        (relay.probePeers hash spec routes now clocks).1 :=
    emitAll_invariant (probePeer_accounted (discoveredLatencies routes))
      enough
  exact final.1

/-- A refresh tick keeps the account while the counter does not wrap. -/
theorem refresh_accounted
    {routes : List Route} {order : List UInt64} {clocks : List PeerClock}
    {turn : Relay × List ProbeEvent}
    (accounted : Accounted events relay)
    (room : relay.nextProbeNonce.toNat + spec.peers.length < 2 ^ 64)
    (taken : relay.refresh hash spec routes now order clocks = some turn) :
    Accounted (events ++ turn.2) turn.1 := by
  unfold refresh at taken
  split at taken
  · cases taken
    have discovered : Accounted events (relay.discover routes) :=
      accounted.of_same rfl rfl
    obtain ⟨expired, sameNonce⟩ := expireProbes_accounted discovered order
    rw [← List.append_assoc]
    apply probePeers_accounted expired
    rw [sameNonce]
    exact room
  · cases taken

theorem sendCompleted_accounted
    {index : Nat} {outcome : Except String (Option String)}
    {turn : Relay × List ProbeEvent}
    (accounted : Accounted events relay)
    (taken : relay.sendCompleted spec index outcome now = some turn) :
    Accounted (events ++ turn.2) turn.1 := by
  unfold sendCompleted at taken
  split at taken
  · cases taken
  simp only at taken
  split at taken
  · split at taken
    · rename_i present
      cases taken
      exact accounted.settle none present rfl rfl
    · cases taken
      exact accounted.silent rfl rfl
  · cases taken
    exact accounted.silent rfl rfl

/-- A reply whose nonce is pending for another peer than its source. -/
def foreignReply (relay : Relay) : RelayEvent → Bool
  | .probe packet _ _ =>
      match packet.channel with
      | .pathProbe nonce _ true =>
          (relay.pendingProbes.lookup nonce).any fun probe =>
            probe.1 ≠ packet.sourceKey
      | _ => false
  | _ => false

/-- A refresh tick that may draw more nonces than the counter has left. -/
def counterWraps (spec : RelaySpec) (relay : Relay) : RelayEvent → Bool
  | .refresh _ _ _ _ =>
      relay.nextProbeNonce.toNat + spec.peers.length ≥ 2 ^ 64
  | _ => false

/-- A reply settles the probe of its source, is ignored, or drops the probe of
another peer. -/
theorem reply_cases
    {packet : InboundRelayPacket} {unixNow nonce sentMicros : UInt64}
    {turn : Relay × List ProbeEvent}
    (reply : packet.channel = .pathProbe nonce sentMicros true)
    (taken : relay.probeReceived hash spec packet now unixNow = turn) :
    (relay.pendingProbes.lookup nonce = none ∧ turn = (relay, [])) ∨
      (∃ sent,
        relay.pendingProbes.lookup nonce = some (packet.sourceKey, sent) ∧
          turn =
            relay.settle spec nonce packet.sourceKey (some (now - sent))
              now) ∨
      ∃ peerKey sent,
        relay.pendingProbes.lookup nonce = some (peerKey, sent) ∧
          peerKey ≠ packet.sourceKey ∧
          turn =
            ({ relay with
                pendingProbes := relay.pendingProbes.erase nonce }, []) := by
  unfold probeReceived at taken
  simp only [reply, if_true] at taken
  split at taken
  · rename_i absent
    exact Or.inl ⟨absent, taken.symm⟩
  · rename_i peerKey sent found
    split at taken
    · rename_i same
      subst same
      exact Or.inr (Or.inl ⟨sent, found, taken.symm⟩)
    · rename_i different
      exact Or.inr (Or.inr ⟨peerKey, sent, found, different, taken.symm⟩)

/-- A packet that is not a reply leaves the pending probes alone. -/
theorem probeReceived_silent
    {packet : InboundRelayPacket} {unixNow : UInt64}
    {turn : Relay × List ProbeEvent}
    (notReply :
      ∀ nonce sentMicros, packet.channel ≠ .pathProbe nonce sentMicros true)
    (taken : relay.probeReceived hash spec packet now unixNow = turn) :
    turn.2 = [] ∧ turn.1.pendingProbes = relay.pendingProbes ∧
      turn.1.nextProbeNonce = relay.nextProbeNonce := by
  unfold probeReceived at taken
  split at taken
  · rename_i nonce sentMicros reply channel
    split at taken
    · rename_i isReply
      rw [isReply] at channel
      exact absurd channel (notReply nonce sentMicros)
    · split at taken <;> subst taken <;> exact ⟨rfl, rfl, rfl⟩
  · subst taken
    exact ⟨rfl, rfl, rfl⟩

/-- A received packet settles the probe of its source, drops the probe of
another peer, or leaves the pending probes alone. -/
theorem probeReceived_cases
    {packet : InboundRelayPacket} {unixNow : UInt64}
    {turn : Relay × List ProbeEvent}
    (taken : relay.probeReceived hash spec packet now unixNow = turn) :
    (turn.2 = [] ∧ turn.1.pendingProbes = relay.pendingProbes ∧
        turn.1.nextProbeNonce = relay.nextProbeNonce) ∨
      (∃ nonce sentMicros sent,
        packet.channel = .pathProbe nonce sentMicros true ∧
          relay.pendingProbes.lookup nonce = some (packet.sourceKey, sent) ∧
          turn =
            relay.settle spec nonce packet.sourceKey (some (now - sent))
              now) ∨
      ∃ nonce sentMicros peerKey sent,
        packet.channel = .pathProbe nonce sentMicros true ∧
          relay.pendingProbes.lookup nonce = some (peerKey, sent) ∧
          peerKey ≠ packet.sourceKey ∧
          turn =
            ({ relay with
                pendingProbes := relay.pendingProbes.erase nonce }, []) := by
  by_cases isReply :
      ∃ nonce sentMicros, packet.channel = .pathProbe nonce sentMicros true
  · obtain ⟨nonce, sentMicros, reply⟩ := isReply
    rcases reply_cases reply taken with
      ⟨_, rfl⟩ | ⟨sent, found, settled⟩ |
        ⟨peerKey, sent, found, different, dropped⟩
    · exact Or.inl ⟨rfl, rfl, rfl⟩
    · exact Or.inr (Or.inl ⟨nonce, sentMicros, sent, reply, found, settled⟩)
    · exact Or.inr (Or.inr
        ⟨nonce, sentMicros, peerKey, sent, reply, found, different, dropped⟩)
  · left
    apply probeReceived_silent ?_ taken
    intro nonce sentMicros reply
    exact isReply ⟨nonce, sentMicros, reply⟩

theorem foreignReply_of_reply
    {packet : InboundRelayPacket} {unixNow nonce sentMicros : UInt64}
    (reply : packet.channel = .pathProbe nonce sentMicros true) :
    relay.foreignReply (.probe packet now unixNow) =
      (relay.pendingProbes.lookup nonce).any fun probe =>
        probe.1 ≠ packet.sourceKey := by
  unfold foreignReply
  simp only [reply]

theorem probeReceived_accounted
    {packet : InboundRelayPacket} {unixNow : UInt64}
    {turn : Relay × List ProbeEvent}
    (accounted : Accounted events relay)
    (notForeign : relay.foreignReply (.probe packet now unixNow) = false)
    (taken : relay.probeReceived hash spec packet now unixNow = turn) :
    Accounted (events ++ turn.2) turn.1 := by
  rcases probeReceived_cases taken with
    ⟨nothing, pending, counter⟩ | ⟨nonce, sentMicros, sent, _, found, rfl⟩ |
      ⟨nonce, sentMicros, peerKey, sent, reply, found, different, _⟩
  · rw [nothing]
    exact accounted.silent pending counter
  · have present : nonce ∈ relay.pendingProbes := by
      rw [HashMap.mem_iff_lookup_isSome, found]
      rfl
    exact accounted.settle _ present rfl rfl
  · rw [foreignReply_of_reply reply, found] at notForeign
    exact absurd notForeign (by simpa using different)

theorem sendOutbound_silent
    (packet : RelayPacket) (unixNow : UInt64) (error : Option String) :
    (relay.sendOutbound hash spec packet unixNow error).pendingProbes =
        relay.pendingProbes ∧
      (relay.sendOutbound hash spec packet unixNow error).nextProbeNonce =
        relay.nextProbeNonce := by
  unfold sendOutbound
  split
  · exact ⟨rfl, rfl⟩
  · split <;> exact ⟨rfl, rfl⟩

/-- A step keeps the account unless it is a foreign reply to a pending probe
or the counter may wrap. -/
theorem step_accounted
    {event : RelayEvent} {turn : Relay × List ProbeEvent}
    (accounted : Accounted events relay)
    (notForeign : relay.foreignReply event = false)
    (notWrapping : relay.counterWraps spec event = false)
    (taken : relay.step hash spec event = some turn) :
    Accounted (events ++ turn.2) turn.1 := by
  cases event with
  | refresh routes now order clocks =>
      apply refresh_accounted accounted ?_ taken
      simpa [counterWraps] using notWrapping
  | sent index outcome now =>
      exact sendCompleted_accounted accounted taken
  | probe packet now unixNow =>
      exact probeReceived_accounted accounted notForeign
        (Option.some.inj taken)
  | outbound packet unixNow error =>
      cases taken
      obtain ⟨pending, nonce⟩ := sendOutbound_silent packet unixNow error
      exact accounted.silent pending nonce
  | elsewhere metrics =>
      cases taken
      exact accounted.silent rfl rfl

/-! ### Successes -/

section Successes

variable {nonce : UInt64} {peerKey : String} {rtt : Duration}

theorem expireProbe_lost (expired : UInt64) :
    ProbeEvent.recorded nonce peerKey (some rtt) ∉
      (relay.expireProbe spec now expired).2 := by
  unfold expireProbe
  split
  · exact List.not_mem_nil
  · intro member
    cases List.mem_singleton.mp member

theorem probePeer_lost
    (latencies : HashMap String Int) (entry : String × PeerClock) :
    ProbeEvent.recorded nonce peerKey (some rtt) ∉
      (relay.probePeer hash spec latencies now entry).2 := by
  generalize taken : relay.probePeer hash spec latencies now entry = turn
  intro member
  rcases probePeer_cases taken with
    ⟨output, _⟩ | ⟨output, _⟩ | ⟨output, _⟩
  · rw [output] at member
    cases member
  · rw [output] at member
    cases List.mem_singleton.mp member
  · rw [output] at member
    cases List.mem_singleton.mp member

theorem refresh_lost
    {routes : List Route} {order : List UInt64} {clocks : List PeerClock}
    {turn : Relay × List ProbeEvent}
    (taken : relay.refresh hash spec routes now order clocks = some turn) :
    ProbeEvent.recorded nonce peerKey (some rtt) ∉ turn.2 := by
  unfold refresh at taken
  split at taken
  · cases taken
    rw [List.mem_append, not_or]
    constructor
    · exact not_mem_emitAll (fun _ => expireProbe_lost) _ _
    · exact not_mem_emitAll (fun _ => probePeer_lost _) _ _
  · cases taken

theorem sendCompleted_lost
    {index : Nat} {outcome : Except String (Option String)}
    {turn : Relay × List ProbeEvent}
    (taken : relay.sendCompleted spec index outcome now = some turn) :
    ProbeEvent.recorded nonce peerKey (some rtt) ∉ turn.2 := by
  unfold sendCompleted at taken
  split at taken
  · cases taken
  simp only at taken
  intro member
  split at taken
  · split at taken
    · cases taken
      cases List.mem_singleton.mp member
    · cases taken
      cases member
  · cases taken
    cases member

/-- A success is recorded by a reply from the probed peer. -/
theorem step_success
    {event : RelayEvent} {turn : Relay × List ProbeEvent}
    (taken : relay.step hash spec event = some turn)
    (success : ProbeEvent.recorded nonce peerKey (some rtt) ∈ turn.2) :
    ∃ packet now unixNow sentMicros sent,
      event = .probe packet now unixNow ∧
        packet.channel = .pathProbe nonce sentMicros true ∧
        packet.sourceKey = peerKey ∧
        relay.pendingProbes.lookup nonce = some (peerKey, sent) := by
  cases event with
  | refresh routes now order clocks =>
      exact absurd success (refresh_lost taken)
  | sent index outcome now =>
      exact absurd success (sendCompleted_lost taken)
  | probe packet now unixNow =>
      rcases probeReceived_cases (Option.some.inj taken) with
        ⟨nothing, _, _⟩ | ⟨asked, sentMicros, sent, reply, found, rfl⟩ |
          ⟨_, _, _, _, _, _, _, rfl⟩
      · rw [nothing] at success
        cases success
      · cases List.mem_singleton.mp success
        exact ⟨packet, now, unixNow, sentMicros, sent, rfl, reply, rfl, found⟩
      · cases success
  | outbound packet unixNow error =>
      cases taken
      cases success
  | elsewhere metrics =>
      cases taken
      cases success

end Successes

end Relay

/-! ## Runs -/

/-- The account of a run that has reached a state. -/
structure ProbesConserved (log : List RelayStep) (state : Relay) : Prop where
  /-- Every queued probe is pending or recorded. -/
  conserved :
    ((history log).filterMap ProbeEvent.queued).length =
      state.pendingProbes.keys.card +
        ((history log).filterMap ProbeEvent.concluded).length
  /-- Only queued probes are recorded after having been pending. -/
  ofQueued :
    (history log).filterMap ProbeEvent.concluded ⊆
      (history log).filterMap ProbeEvent.queued
  /-- No nonce is recorded twice. -/
  once : ((history log).filterMap ProbeEvent.settled).Nodup
  /-- A success belongs to a reply from the probed peer. -/
  successes :
    ∀ record ∈ log, ∀ nonce peerKey rtt,
      ProbeEvent.recorded nonce peerKey (some rtt) ∈ record.output →
      ∃ packet now unixNow sentMicros sent,
        record.input = .probe packet now unixNow ∧
          packet.channel = .pathProbe nonce sentMicros true ∧
          packet.sourceKey = peerKey ∧
          record.before.pendingProbes.lookup nonce = some (peerKey, sent)
  /-- A reply from any other source changes nothing. -/
  foreign :
    ∀ record ∈ log, ∀ packet now unixNow nonce sentMicros,
      record.input = .probe packet now unixNow →
      packet.channel = .pathProbe nonce sentMicros true →
      (∀ sent,
        record.before.pendingProbes.lookup nonce ≠
          some (packet.sourceKey, sent)) →
      record.after.pendingProbes = record.before.pendingProbes ∧
        record.after.metrics = record.before.metrics

section Runs

variable {hash : Hash} {spec : RelaySpec} {log : List RelayStep}
  {state : Relay}

theorem accounted_of_execution
    (execution : (relayLoop hash spec).Execution log state)
    (meets :
      ∀ record ∈ log,
        record.before.foreignReply record.input = false ∧
          record.before.counterWraps spec record.input = false) :
    Accounted (history log) state := by
  apply Machine.Execution.invariant (fun _ => Accounted.start) ?_ execution
    meets
  intro older record accounted met taken
  rw [history_cons]
  exact Relay.step_accounted accounted met.1 met.2 taken

theorem turn_of_probe
    {record : RelayStep} {packet : InboundRelayPacket} {now : Instant}
    {unixNow : UInt64}
    (taken : (relayLoop hash spec).Takes record)
    (received : record.input = .probe packet now unixNow) :
    record.before.probeReceived hash spec packet now unixNow =
      (record.after, record.output) := by
  unfold Machine.Takes at taken
  rw [received] at taken
  exact Option.some.inj taken

/-- A reply that is not foreign and not from the probed peer is ignored. -/
theorem unchanged_of_not_foreign
    {record : RelayStep} {packet : InboundRelayPacket} {now : Instant}
    {unixNow nonce sentMicros : UInt64}
    (taken : (relayLoop hash spec).Takes record)
    (notForeign : record.before.foreignReply record.input = false)
    (received : record.input = .probe packet now unixNow)
    (reply : packet.channel = .pathProbe nonce sentMicros true)
    (notProbed :
      ∀ sent,
        record.before.pendingProbes.lookup nonce ≠
          some (packet.sourceKey, sent)) :
    record.after.pendingProbes = record.before.pendingProbes ∧
      record.after.metrics = record.before.metrics := by
  rw [received, Relay.foreignReply_of_reply reply] at notForeign
  rcases Relay.reply_cases reply (turn_of_probe taken received) with
    ⟨_, same⟩ | ⟨sent, found, _⟩ | ⟨peerKey, sent, found, different, _⟩
  · rw [(Prod.mk.inj same).1]
    exact ⟨rfl, rfl⟩
  · exact absurd found (notProbed sent)
  · rw [found] at notForeign
    exact absurd notForeign (by simpa using different)

/-- A foreign reply takes a probe of another peer out of the pending ones. -/
theorem changed_of_foreign
    {record : RelayStep}
    (taken : (relayLoop hash spec).Takes record)
    (isForeign : record.before.foreignReply record.input = true) :
    ∃ packet now unixNow nonce sentMicros,
      record.input = .probe packet now unixNow ∧
        packet.channel = .pathProbe nonce sentMicros true ∧
        (∀ sent,
          record.before.pendingProbes.lookup nonce ≠
            some (packet.sourceKey, sent)) ∧
        record.after.pendingProbes ≠ record.before.pendingProbes := by
  unfold Relay.foreignReply at isForeign
  split at isForeign
  · rename_i packet now unixNow received
    split at isForeign
    · rename_i nonce sentMicros reply
      refine ⟨packet, now, unixNow, nonce, sentMicros, received, reply, ?_⟩
      rcases Relay.reply_cases reply (turn_of_probe taken received) with
        ⟨absent, _⟩ | ⟨sent, found, _⟩ |
          ⟨peerKey, sent, found, different, same⟩
      · rw [absent] at isForeign
        cases isForeign
      · rw [found] at isForeign
        simp at isForeign
      · constructor
        · intro other probed
          rw [found] at probed
          exact different (congrArg Prod.fst (Option.some.inj probed))
        · intro unchanged
          have erased :
              record.before.pendingProbes.erase nonce =
                record.before.pendingProbes := by
            rw [(Prod.mk.inj same).1] at unchanged
            exact unchanged
          have absent :=
            Finmap.lookup_erase nonce record.before.pendingProbes
          rw [erased, found] at absent
          cases absent
    · cases isForeign
  · cases isForeign

/-- Probes are conserved in every state that a run reaches, exactly when no
reply in it came from another source than the pending probe's peer. -/
theorem probes_conserved_iff
    (execution : (relayLoop hash spec).Execution log state)
    (notWrapping :
      ∀ record ∈ log,
        record.before.counterWraps spec record.input = false) :
    ProbesConserved log state ↔
      ∀ record ∈ log, record.before.foreignReply record.input = false := by
  constructor
  · intro conserved record member
    by_contra isForeign
    obtain ⟨_, _, _, taken⟩ := execution.earlier_of_mem member
    obtain ⟨packet, now, unixNow, nonce, sentMicros, received, reply,
      notProbed, changed⟩ :=
      changed_of_foreign taken (Bool.eq_true_of_not_eq_false isForeign)
    exact changed (conserved.foreign record member packet now unixNow nonce
      sentMicros received reply notProbed).1
  · intro noneForeign
    have accounted : Accounted (history log) state :=
      accounted_of_execution execution fun record member =>
        ⟨noneForeign record member, notWrapping record member⟩
    constructor
    · exact accounted.queued.length_opened
    · intro nonce member
      exact (accounted.queued.mem_opened nonce).mpr (Or.inr member)
    · exact accounted.all.closedOnce
    · intro record member nonce peerKey rtt success
      obtain ⟨_, _, _, taken⟩ := execution.earlier_of_mem member
      exact Relay.step_success taken success
    · intro record member packet now unixNow nonce sentMicros received reply
        notProbed
      obtain ⟨_, _, _, taken⟩ := execution.earlier_of_mem member
      exact unchanged_of_not_foreign taken (noneForeign record member)
        received reply notProbed

end Runs

def testSpec : RelaySpec := ⟨"local", "path", ["peer"]⟩

/-- The loop before its first turn, without metrics. -/
def testRelay : Relay := ⟨∅, ∅, [], 1, ∅⟩

/-- The peer is probed once, and a reply comes from the given source. -/
def probedOnce (source : String) : List RelayEvent :=
  [.refresh [⟨"wgl-a782a88472c58ea1", 7, 12⟩] 0 [] [⟨7200, 0⟩],
    .probe ⟨source, .pathProbe 1 0 true, asBytes "p"⟩ 1000 7200]

/-- What is asked of the runs below: no wrapping, no foreign reply, and the
numbers of queued, pending and recorded probes. -/
def account (run : List RelayStep × Relay) : Bool × Bool × Nat × Nat × Nat :=
  (run.1.all fun record =>
      !record.before.counterWraps testSpec record.input,
    run.1.all fun record => !record.before.foreignReply record.input,
    ((history run.1).filterMap ProbeEvent.queued).length,
    run.2.pendingProbes.keys.card,
    ((history run.1).filterMap ProbeEvent.concluded).length)

theorem testRelay_starts : (relayLoop stationHash testSpec).start testRelay :=
  ⟨rfl, rfl, rfl, rfl⟩

/-- The probed peer replies, and its probe is recorded. -/
theorem probes_conserved_of_reply :
    ∃ log state,
      (relayLoop stationHash testSpec).Execution log state ∧
        ((history log).filterMap ProbeEvent.queued).length = 1 ∧
        state.pendingProbes.keys.card = 0 ∧
        ProbesConserved log state := by
  have ran :
      ((relayLoop stationHash testSpec).run testRelay (probedOnce "peer")).map
          account =
        some (true, true, 1, 0, 1) := by
    decide
  obtain ⟨log, state, execution, observed⟩ :=
    Machine.exists_execution_of_run testRelay_starts ran
  simp only [account, Prod.mk.injEq, List.all_eq_true,
    Bool.not_eq_true'] at observed
  obtain ⟨notWrapping, notForeign, queued, pending, _⟩ := observed
  exact ⟨log, state, execution, queued, pending,
    (probes_conserved_iff execution notWrapping).mpr notForeign⟩

/-- Another source replies with the nonce of a pending probe: the probe is
neither pending nor recorded any more. -/
theorem probe_lost_by_foreign_reply :
    ∃ log state,
      (relayLoop stationHash testSpec).Execution log state ∧
        (∀ record ∈ log,
          record.before.counterWraps testSpec record.input = false) ∧
        ((history log).filterMap ProbeEvent.queued).length = 1 ∧
        state.pendingProbes.keys.card = 0 ∧
        ((history log).filterMap ProbeEvent.concluded).length = 0 ∧
        ¬ ProbesConserved log state := by
  have ran :
      ((relayLoop stationHash testSpec).run testRelay
          (probedOnce "mallory")).map account =
        some (true, false, 1, 0, 0) := by
    decide
  obtain ⟨log, state, execution, observed⟩ :=
    Machine.exists_execution_of_run testRelay_starts ran
  simp only [account, Prod.mk.injEq, List.all_eq_true,
    Bool.not_eq_true'] at observed
  obtain ⟨notWrapping, _, queued, pending, concluded⟩ := observed
  refine ⟨log, state, execution, notWrapping, queued, pending, concluded, ?_⟩
  intro conserved
  have balance := conserved.conserved
  omega

end WgLink
