import WgLink.Library.HashMap
import WgLink.Library.Machine
import WgLink.WireguardShow

/-!
# Endpoints of the peers

Every tick of the poll in `run_generation_inner` reads the peers of the
interface, sets the endpoints that are not those of the brokers, and reports
handshakes that are new.  WireGuard follows its peers to other endpoints, and
the administrator adds and removes peers, at any time between two calls of
`wg`.
-/

namespace WgLink

open WgLink.Library

/-- The endpoint that `set_endpoint` gives to a peer. -/
def brokerEndpoint (port : UInt16) : String :=
  "127.0.0.1:" ++ String.ofList (Nat.toDigits 10 port.toNat)

/-- The arguments of the call in `set_endpoint`. -/
def setArguments (interface publicKey : String) (port : UInt16) :
    List String :=
  ["set", interface, "peer", publicKey, "endpoint", brokerEndpoint port]

/-- An interface that `wg` shows and sets. -/
class WgDevice (D : Type) where
  state : D → WireguardSnapshot
  reads : D → WgTool
  set : D → List String → D × Except String IpOutput

section Device

variable {D : Type} [WgDevice D]

/-- The endpoint of a peer, if the peer is there. -/
def endpointOf (device : D) (publicKey : String) : Option (Option String) :=
  ((WgDevice.state device).peer publicKey).map WireguardPeer.endpoint

/-- `set_endpoint`. -/
def setEndpoint
    (interface : String) (device : D) (publicKey : String) (port : UInt16) :
    D × Except String Unit :=
  let called := WgDevice.set device (setArguments interface publicKey port)
  (called.1,
    match called.2 with
    | .error _ => .error ("failed to set endpoint for " ++ publicKey)
    | .ok result =>
        if result.success then
          .ok ()
        else
          .error
            ("wg set endpoint failed for " ++ publicKey ++ ": " ++
              trimText result.stderr))

end Device

/-- What is relied on of `wg`: it shows the interface as it is, and a call
that sets an endpoint and succeeds gives it to its peer, which it adds if need
be, and to no other.  A call for the key of the interface itself has no
effect, and no peer has that key. -/
structure LawfulWgDevice (D : Type) [WgDevice D] (interface : String)
    (display : IpNet → List Char) (parse : List Char → Option IpNet) :
    Prop where
  valid : ∀ device : D, ValidDevice display parse (WgDevice.state device)
  not_own :
    ∀ (device : D) (peer : WireguardPeer),
      peer ∈ (WgDevice.state device).peers →
        peer.publicKey ≠ (WgDevice.state device).publicKey
  shows :
    ∀ (device : D) (field : WgField) (result : IpOutput),
      WgDevice.reads device ["show", interface, field.name] = .ok result →
      result.success = true →
        result.stdout =
          String.ofList (printField display field (WgDevice.state device))
  set_gives :
    ∀ (device : D) (publicKey : String) (port : UInt16) (result : IpOutput),
      publicKey ≠ (WgDevice.state device).publicKey →
      (WgDevice.set device (setArguments interface publicKey port)).2 =
        .ok result →
      result.success = true →
        endpointOf
            (WgDevice.set device (setArguments interface publicKey port)).1
            publicKey =
          some (some (brokerEndpoint port))
  set_others :
    ∀ (device : D) (publicKey other : String) (port : UInt16),
      other ≠ publicKey →
        endpointOf
            (WgDevice.set device (setArguments interface publicKey port)).1
            other =
          endpointOf device other

/-- Where the loop of a tick is. -/
inductive RepairPhase where
  | waiting
  | repairing (remaining : List WireguardPeer)
  | failed (error : String)
deriving DecidableEq

/-- The peers that the loop has still to visit. -/
def RepairPhase.remaining : RepairPhase → List WireguardPeer
  | .repairing remaining => remaining
  | _ => []

/-- The interface and the variables of the loop. -/
structure Repair (D : Type) where
  device : D
  managedPorts : HashMap String UInt16
  baselines : HashMap String UInt64
  phase : RepairPhase

/-- What happens: somebody else changes the interface, a tick reads it, or the
loop goes on to the next peer.  A tick asks for the endpoints when it happens,
and for the other fields before and after that. -/
inductive RepairEvent (D : Type) where
  | change (next : D)
  | poll (others : List String → D)
  | visit

namespace Repair

section Steps

variable {D : Type} (self : Repair D)

/-- The baseline of a peer, and whether its handshake is reported. -/
def recordHandshake (peer : WireguardPeer) : Repair D × Option UInt64 :=
  let baseline := (self.baselines.lookup peer.publicKey).getD 0
  if peer.latestHandshake > baseline then
    ({ self with
        baselines :=
          self.baselines.insert peer.publicKey peer.latestHandshake },
      some peer.latestHandshake)
  else
    ({ self with
        baselines := self.baselines.insert peer.publicKey baseline },
      none)

/-- The loop goes on with the peers that are left, if any. -/
def goOn (remaining : List WireguardPeer) : Repair D :=
  match remaining with
  | [] => { self with phase := .waiting }
  | _ => { self with phase := .repairing remaining }

variable [WgDevice D] (interface : String)

/-- The calls of a tick. -/
def pollTool (others : List String → D) : WgTool :=
  fun arguments =>
    WgDevice.reads
      (if arguments = ["show", interface, WgField.endpoints.name] then
        self.device
      else
        others arguments)
      arguments

/-- The start of a tick. -/
def poll (parse : List Char → Option IpNet) (others : List String → D) :
    Repair D :=
  match wireguardSnapshot (self.pollTool interface others) interface parse
  with
  | .error error => { self with phase := .failed error }
  | .ok current => self.goOn current.peers

/-- The body of the loop over the peers. -/
def visit (peer : WireguardPeer) (remaining : List WireguardPeer) :
    Repair D × Option UInt64 :=
  let next := self.goOn remaining
  match self.managedPorts.lookup peer.publicKey with
  | none => (next, none)
  | some port =>
      if peer.endpoint ≠ some (brokerEndpoint port) then
        let done := setEndpoint interface self.device peer.publicKey port
        match done.2 with
        | .error error =>
            ({ self with device := done.1, phase := .failed error }, none)
        | .ok () => { next with device := done.1 }.recordHandshake peer
      else
        next.recordHandshake peer

def step (parse : List Char → Option IpNet) :
    RepairEvent D → Option (Repair D × Option UInt64)
  | .change next => some ({ self with device := next }, none)
  | .poll others =>
      match self.phase with
      | .waiting => some (self.poll interface parse others, none)
      | _ => none
  | .visit =>
      match self.phase with
      | .repairing (peer :: remaining) =>
          some (self.visit interface peer remaining)
      | _ => none

end Steps

end Repair

section Log

variable {D : Type} [WgDevice D]

/-- The ticks of a generation. -/
def endpointRepair
    (interface : String) (parse : List Char → Option IpNet)
    (first : Repair D) :
    Machine (Repair D) (RepairEvent D) (Option UInt64) where
  start state := state = first ∧ first.phase = .waiting
  step state := state.step interface parse

abbrev RepairStep (D : Type) :=
  Record (Repair D) (RepairEvent D) (Option UInt64)

/-- Somebody else has changed the endpoint of a peer, or added or removed the
peer, since the last tick asked for the endpoints. -/
def changedSince (publicKey : String) : List (RepairStep D) → Bool
  | [] => false
  | step :: older =>
      match step.input with
      | .change next =>
          decide
              (endpointOf next publicKey ≠
                endpointOf step.before.device publicKey) ||
            changedSince publicKey older
      | .poll _ => false
      | .visit => changedSince publicKey older

/-- The last tick found a peer, with its endpoint and in the list of the
peers. -/
def foundLast (publicKey : String) : List (RepairStep D) → Bool
  | [] => false
  | step :: older =>
      match step.input with
      | .poll _ =>
          (endpointOf step.before.device publicKey).isSome &&
            step.after.phase.remaining.any fun peer =>
              decide (peer.publicKey = publicKey)
      | _ => foundLast publicKey older

/-- The endpoint of a peer as others have left it. -/
def lastChange (first : Repair D) (publicKey : String) :
    List (RepairStep D) → Option (Option String)
  | [] => endpointOf first.device publicKey
  | step :: older =>
      match step.input with
      | .change next => endpointOf next publicKey
      | _ => lastChange first publicKey older

end Log

/-! ## One step -/

section Calls

variable {D : Type} [WgDevice D] {interface : String}
  {display : IpNet → List Char} {parse : List Char → Option IpNet}
  (lawful : LawfulWgDevice D interface display parse)

include lawful

/-- A peer that is there has another key than the interface. -/
theorem LawfulWgDevice.ne_own
    {device : D} {publicKey : String}
    (present : (endpointOf device publicKey).isSome = true) :
    publicKey ≠ (WgDevice.state device).publicKey := by
  unfold endpointOf at present
  rw [Option.isSome_map] at present
  obtain ⟨peer, found⟩ := Option.isSome_iff_exists.mp present
  unfold WireguardSnapshot.peer at found
  have accepted := List.find?_some found
  have isKey : peer.publicKey = publicKey := of_decide_eq_true accepted
  rw [← isKey]
  exact lawful.not_own device peer (List.mem_of_find?_eq_some found)

theorem LawfulWgDevice.setEndpoint_others
    {device after : D} {publicKey other : String} {port : UInt16}
    {outcome : Except String Unit}
    (different : other ≠ publicKey)
    (done : setEndpoint interface device publicKey port = (after, outcome)) :
    endpointOf after other = endpointOf device other := by
  have isAfter : (setEndpoint interface device publicKey port).1 = after :=
    congrArg Prod.fst done
  rw [← isAfter]
  exact lawful.set_others device publicKey other port different

theorem LawfulWgDevice.setEndpoint_gives
    {device after : D} {publicKey : String} {port : UInt16}
    (present : (endpointOf device publicKey).isSome = true)
    (done : setEndpoint interface device publicKey port = (after, .ok ())) :
    endpointOf after publicKey = some (some (brokerEndpoint port)) := by
  have result := congrArg Prod.snd done
  have isAfter := congrArg Prod.fst done
  unfold setEndpoint at result isAfter
  simp only at result isAfter
  split at result
  next => cases result
  next called answered =>
    split at result
    next success =>
      rw [← isAfter]
      exact
        lawful.set_gives device publicKey port called
          (lawful.ne_own present) answered success
    next => cases result

/-- The endpoint of each peer that a tick reads is the one at the call for the
endpoints. -/
theorem LawfulWgDevice.endpoint_of_snapshot
    {self : Repair D} {others : List String → D}
    {current : WireguardSnapshot}
    (read :
      wireguardSnapshot (self.pollTool interface others) interface parse =
        .ok current)
    {peer : WireguardPeer} (member : peer ∈ current.peers) :
    peer.endpoint = (endpointOf self.device peer.publicKey).join := by
  let at_ : WgField → WireguardSnapshot := fun field =>
    WgDevice.state
      (if ["show", interface, field.name] =
          ["show", interface, WgField.endpoints.name] then
        self.device
      else
        others ["show", interface, field.name])
  have prints :
      PrintsState display (self.pollTool interface others) interface at_ := by
    intro field
    obtain ⟨text, output⟩ := wgOutput_of_snapshot read field
    obtain ⟨result, called, success⟩ := call_of_wgOutput output
    have shown : result.stdout = _ :=
      lawful.shows _ field result called success
    refine ⟨result.stderr, ?_⟩
    rw [called, ← success, ← shown]
  have merged :=
    (snapshot_merges_fields (fun field => lawful.valid _) prints).1
  rw [read] at merged
  rw [Except.ok.inj merged] at member
  obtain ⟨listed, _, same⟩ := List.mem_map.mp member
  have atCall : at_ .endpoints = WgDevice.state self.device := by
    unfold at_
    rw [if_pos rfl]
  have isEndpoint :
      peer.endpoint =
        ((at_ .endpoints).peer listed.publicKey).bind
          WireguardPeer.endpoint := by
    rw [← same]
  have isKey : listed.publicKey = peer.publicKey := by
    rw [← same]
  rw [isEndpoint, atCall, isKey]
  unfold endpointOf
  cases (WgDevice.state self.device).peer peer.publicKey with
  | none => rfl
  | some found => rfl

end Calls

namespace Repair

section Effects

variable {D : Type} (self : Repair D) (peer : WireguardPeer)

theorem recordHandshake_fst :
    ((self.recordHandshake peer).1.device = self.device ∧
      (self.recordHandshake peer).1.managedPorts = self.managedPorts) ∧
      (self.recordHandshake peer).1.phase = self.phase := by
  unfold recordHandshake
  simp only
  split
  · exact ⟨⟨rfl, rfl⟩, rfl⟩
  · exact ⟨⟨rfl, rfl⟩, rfl⟩

theorem goOn_fields (remaining : List WireguardPeer) :
    ((self.goOn remaining).device = self.device ∧
      (self.goOn remaining).managedPorts = self.managedPorts) ∧
      (self.goOn remaining).baselines = self.baselines ∧
      (self.goOn remaining).phase.remaining = remaining := by
  cases remaining with
  | nil => exact ⟨⟨rfl, rfl⟩, rfl, rfl⟩
  | cons first rest => exact ⟨⟨rfl, rfl⟩, rfl, rfl⟩

variable [WgDevice D] (interface : String)

/-- What visiting a peer does to the interface: it is left alone, because the
peer is not managed or has the endpoint it should have, or a call sets the
endpoint, and the loop stops if the call fails. -/
inductive VisitEffect (remaining : List WireguardPeer) (after : Repair D) :
    Prop
  | left
      (device : after.device = self.device)
      (phase : after.phase.remaining = remaining)
      (right :
        ∀ port, self.managedPorts.lookup peer.publicKey = some port →
          peer.endpoint = some (brokerEndpoint port))
  | set
      (port : UInt16)
      (managed : self.managedPorts.lookup peer.publicKey = some port)
      (done :
        setEndpoint interface self.device peer.publicKey port =
          (after.device, .ok ()))
      (phase : after.phase.remaining = remaining)
  | refused
      (port : UInt16) (error : String)
      (managed : self.managedPorts.lookup peer.publicKey = some port)
      (done :
        setEndpoint interface self.device peer.publicKey port =
          (after.device, .error error))
      (phase : after.phase = .failed error)

section Visits

variable {self peer} {remaining : List WireguardPeer}

theorem visit_unmanaged
    (unmanaged : self.managedPorts.lookup peer.publicKey = none) :
    self.visit interface peer remaining = (self.goOn remaining, none) := by
  unfold visit
  rw [unmanaged]

variable {port : UInt16} {device : D}
  (managed : self.managedPorts.lookup peer.publicKey = some port)

include managed

theorem visit_right
    (right : peer.endpoint = some (brokerEndpoint port)) :
    self.visit interface peer remaining =
      (self.goOn remaining).recordHandshake peer := by
  unfold visit
  rw [managed]
  simp only
  rw [if_neg (not_not.mpr right)]

variable (wrong : peer.endpoint ≠ some (brokerEndpoint port))

include wrong

theorem visit_set
    (done :
      setEndpoint interface self.device peer.publicKey port =
        (device, .ok ())) :
    self.visit interface peer remaining =
      { self.goOn remaining with device := device }.recordHandshake peer := by
  unfold visit
  rw [managed]
  simp only
  rw [if_pos wrong, done]

theorem visit_refused
    {error : String}
    (done :
      setEndpoint interface self.device peer.publicKey port =
        (device, .error error)) :
    self.visit interface peer remaining =
      ({ self with device := device, phase := .failed error }, none) := by
  unfold visit
  rw [managed]
  simp only
  rw [if_pos wrong, done]

end Visits

theorem visit_effect (remaining : List WireguardPeer) :
    (self.visit interface peer remaining).1.managedPorts =
        self.managedPorts ∧
      self.VisitEffect peer interface remaining
        (self.visit interface peer remaining).1 := by
  let next := self.goOn remaining
  obtain ⟨⟨nextDevice, nextPorts⟩, _, nextRemaining⟩ :=
    self.goOn_fields remaining
  cases managed : self.managedPorts.lookup peer.publicKey with
  | none =>
      rw [visit_unmanaged interface managed]
      refine ⟨nextPorts, .left nextDevice nextRemaining ?_⟩
      intro port impossible
      rw [managed] at impossible
      cases impossible
  | some port =>
      by_cases right : peer.endpoint = some (brokerEndpoint port)
      · obtain ⟨⟨device, ports⟩, phase⟩ := next.recordHandshake_fst peer
        rw [visit_right interface managed right, ports]
        refine ⟨nextPorts, .left ?_ ?_ ?_⟩
        · rw [device]
          exact nextDevice
        · rw [phase]
          exact nextRemaining
        · intro other same
          rw [managed] at same
          rw [← Option.some.inj same]
          exact right
      · cases done :
            setEndpoint interface self.device peer.publicKey port with
        | mk device outcome =>
            cases outcome with
            | error error =>
                rw [visit_refused interface managed right done]
                exact ⟨rfl, .refused port error managed done rfl⟩
            | ok _ =>
                obtain ⟨⟨sameDevice, ports⟩, phase⟩ :=
                  { next with device := device }.recordHandshake_fst peer
                rw [visit_set interface managed right done, ports]
                refine ⟨nextPorts, .set port managed ?_ ?_⟩
                · rw [sameDevice]
                  exact done
                · rw [phase]
                  exact nextRemaining

section Outcomes

variable {self peer interface} {remaining : List WireguardPeer}
  {after : Repair D}

theorem VisitEffect.remaining_eq
    (effect : self.VisitEffect peer interface remaining after)
    (running : ∀ error, after.phase ≠ .failed error) :
    after.phase.remaining = remaining := by
  cases effect with
  | left _ phase _ => exact phase
  | set _ _ _ phase => exact phase
  | refused _ error _ _ isFailed => exact absurd isFailed (running error)

variable {display : IpNet → List Char} {parse : List Char → Option IpNet}
  (lawful : LawfulWgDevice D interface display parse)
  (effect : self.VisitEffect peer interface remaining after)

include lawful effect

/-- A visit leaves every other peer as it was, and so the visited one if it is
not managed. -/
theorem VisitEffect.endpointOf_others
    {publicKey : String}
    (other :
      ∀ port, self.managedPorts.lookup peer.publicKey = some port →
        publicKey ≠ peer.publicKey) :
    endpointOf after.device publicKey =
      endpointOf self.device publicKey := by
  cases effect with
  | left device _ _ => rw [device]
  | set port managed done _ =>
      exact lawful.setEndpoint_others (other port managed) done
  | refused port _ managed done _ =>
      exact lawful.setEndpoint_others (other port managed) done

/-- After a visit a managed peer has the endpoint it should have, or it has
been found to have it and is as it was. -/
theorem VisitEffect.endpointOf_managed
    {port : UInt16}
    (managed : self.managedPorts.lookup peer.publicKey = some port)
    (present : (endpointOf self.device peer.publicKey).isSome = true)
    (running : ∀ error, after.phase ≠ .failed error) :
    endpointOf after.device peer.publicKey =
        some (some (brokerEndpoint port)) ∨
      after.device = self.device ∧
        peer.endpoint = some (brokerEndpoint port) := by
  cases effect with
  | left device _ right => exact .inr ⟨device, right port managed⟩
  | set written isWritten done _ =>
      have same : written = port :=
        Option.some.inj (isWritten.symm.trans managed)
      rw [← same]
      exact .inl (lawful.setEndpoint_gives present done)
  | refused _ error _ _ isFailed => exact absurd isFailed (running error)

end Outcomes

end Effects

section Polls

variable {D : Type} [WgDevice D] (self : Repair D)

theorem poll_fields
    (interface : String) (parse : List Char → Option IpNet)
    (others : List String → D) :
    ((self.poll interface parse others).device = self.device ∧
      (self.poll interface parse others).managedPorts =
        self.managedPorts) ∧
      (self.poll interface parse others).baselines = self.baselines := by
  unfold poll
  split
  · exact ⟨⟨rfl, rfl⟩, rfl⟩
  · next current _ =>
      obtain ⟨fields, baselines, _⟩ := self.goOn_fields current.peers
      exact ⟨fields, baselines⟩

/-- A tick starts its loop over peers with the endpoints they have. -/
theorem endpoint_of_poll
    {interface : String} {display : IpNet → List Char}
    {parse : List Char → Option IpNet} (others : List String → D)
    (lawful : LawfulWgDevice D interface display parse)
    {peer : WireguardPeer}
    (member :
      peer ∈ (self.poll interface parse others).phase.remaining) :
    peer.endpoint = (endpointOf self.device peer.publicKey).join := by
  unfold poll at member
  split at member
  next => cases member
  next current read =>
    rw [(self.goOn_fields current.peers).2.2] at member
    exact lawful.endpoint_of_snapshot read member

end Polls

end Repair

section Taken

variable {D : Type} [WgDevice D] {interface : String}
  {parse : List Char → Option IpNet} {first : Repair D}
  {record : RepairStep D}
  (taken : (endpointRepair interface parse first).Takes record)

include taken

theorem change_of_takes
    {next : D} (isChange : record.input = .change next) :
    record.after = { record.before with device := next } ∧
      record.output = none := by
  unfold Machine.Takes endpointRepair Repair.step at taken
  rw [isChange] at taken
  have pair := Option.some.inj taken
  exact ⟨(congrArg Prod.fst pair).symm, (congrArg Prod.snd pair).symm⟩

theorem poll_of_takes
    {others : List String → D} (isPoll : record.input = .poll others) :
    record.after = record.before.poll interface parse others ∧
      record.output = none := by
  unfold Machine.Takes endpointRepair Repair.step at taken
  rw [isPoll] at taken
  simp only at taken
  split at taken
  next =>
    have pair := Option.some.inj taken
    exact ⟨(congrArg Prod.fst pair).symm, (congrArg Prod.snd pair).symm⟩
  next => cases taken

theorem visit_of_takes
    (isVisit : record.input = .visit) :
    ∃ peer remaining,
      record.before.phase = .repairing (peer :: remaining) ∧
        (record.after, record.output) =
          record.before.visit interface peer remaining := by
  unfold Machine.Takes endpointRepair Repair.step at taken
  rw [isVisit] at taken
  simp only at taken
  split at taken
  next peer remaining isPhase =>
    exact ⟨peer, remaining, isPhase, (Option.some.inj taken).symm⟩
  next => cases taken

end Taken

/-! ## Whole runs -/

/-- What holds between a tick and the next one: a managed peer has the
endpoint of its broker, or the loop has still to visit it. -/
structure Repairs {D : Type} [WgDevice D] (first : Repair D)
    (log : List (RepairStep D)) (state : Repair D) : Prop where
  ports : state.managedPorts = first.managedPorts
  managed :
    ∀ publicKey port,
      first.managedPorts.lookup publicKey = some port →
      foundLast publicKey log = true →
      changedSince publicKey log = false →
      (∀ error, state.phase ≠ .failed error) →
        endpointOf state.device publicKey =
            some (some (brokerEndpoint port)) ∨
          (endpointOf state.device publicKey).isSome = true ∧
            ∃ peer ∈ state.phase.remaining,
              peer.publicKey = publicKey ∧
                peer.endpoint ≠ some (brokerEndpoint port)
  unmanaged :
    ∀ publicKey,
      first.managedPorts.lookup publicKey = none →
        endpointOf state.device publicKey = lastChange first publicKey log

section Runs

variable {D : Type} [WgDevice D] {interface : String}
  {display : IpNet → List Char} {parse : List Char → Option IpNet}
  {first : Repair D} {log : List (RepairStep D)} {record : RepairStep D}

theorem Repairs.change
    (repairs : Repairs first log record.before)
    (taken : (endpointRepair interface parse first).Takes record)
    {next : D} (isChange : record.input = .change next) :
    Repairs first (record :: log) record.after := by
  have after := (change_of_takes taken isChange).1
  constructor
  · rw [after]
    exact repairs.ports
  · intro publicKey port isManaged found calm running
    rw [changedSince, isChange] at calm
    rw [foundLast, isChange] at found
    obtain ⟨unchanged, calmBefore⟩ := Bool.or_eq_false_iff.mp calm
    have same :
        endpointOf next publicKey =
          endpointOf record.before.device publicKey :=
      not_not.mp (of_decide_eq_false unchanged)
    rw [after] at running ⊢
    simp only at running ⊢
    rw [same]
    exact repairs.managed publicKey port isManaged found calmBefore running
  · intro publicKey _
    rw [after, lastChange, isChange]

theorem Repairs.poll
    (repairs : Repairs first log record.before)
    (lawful : LawfulWgDevice D interface display parse)
    (taken : (endpointRepair interface parse first).Takes record)
    {others : List String → D} (isPoll : record.input = .poll others) :
    Repairs first (record :: log) record.after := by
  have after := (poll_of_takes taken isPoll).1
  obtain ⟨⟨device, ports⟩, _⟩ :=
    record.before.poll_fields interface parse others
  rw [← after] at device ports
  constructor
  · rw [ports]
    exact repairs.ports
  · intro publicKey port _ found _ _
    rw [foundLast, isPoll] at found
    obtain ⟨present, listed⟩ := Bool.and_eq_true_iff.mp found
    obtain ⟨peer, member, sameKey⟩ := List.any_eq_true.mp listed
    have isPeer : peer.publicKey = publicKey := of_decide_eq_true sameKey
    rw [device]
    by_cases right : peer.endpoint = some (brokerEndpoint port)
    · have inLoop := member
      rw [after] at inLoop
      have shown := record.before.endpoint_of_poll others lawful inLoop
      rw [right, isPeer] at shown
      exact .inl (Option.join_eq_some_iff.mp shown.symm)
    · exact .inr ⟨present, peer, member, isPeer, right⟩
  · intro publicKey isUnmanaged
    rw [device, lastChange, isPoll]
    exact repairs.unmanaged publicKey isUnmanaged

/-- A peer that has the endpoint it should have need not be visited. -/
theorem pending_tail
    {settled present : Prop} {peer : WireguardPeer}
    {remaining : List WireguardPeer} {publicKey : String}
    {endpoint : Option String}
    (before :
      settled ∨
        present ∧
          ∃ pending ∈ peer :: remaining,
            pending.publicKey = publicKey ∧ pending.endpoint ≠ endpoint)
    (passed : peer.publicKey = publicKey → peer.endpoint = endpoint) :
    settled ∨
      present ∧
        ∃ pending ∈ remaining,
          pending.publicKey = publicKey ∧ pending.endpoint ≠ endpoint := by
  rcases before with settled | ⟨present, pending, member, isPending, wrong⟩
  · exact .inl settled
  · rcases List.mem_cons.mp member with isHead | inTail
    · rw [isHead] at isPending wrong
      exact absurd (passed isPending) wrong
    · exact .inr ⟨present, pending, inTail, isPending, wrong⟩

theorem Repairs.visit
    (repairs : Repairs first log record.before)
    (lawful : LawfulWgDevice D interface display parse)
    (taken : (endpointRepair interface parse first).Takes record)
    (isVisit : record.input = .visit) :
    Repairs first (record :: log) record.after := by
  obtain ⟨peer, remaining, isPhase, visited⟩ := visit_of_takes taken isVisit
  obtain ⟨ports, effect⟩ :=
    record.before.visit_effect peer interface remaining
  rw [← visited] at ports effect
  simp only at ports effect
  constructor
  · rw [ports]
    exact repairs.ports
  · intro publicKey port isManaged found calm running
    rw [changedSince, isVisit] at calm
    rw [foundLast, isVisit] at found
    have notFailed : ∀ error, record.before.phase ≠ .failed error := by
      intro error isFailed
      rw [isPhase] at isFailed
      cases isFailed
    have before :=
      repairs.managed publicKey port isManaged found calm notFailed
    have present :
        (endpointOf record.before.device publicKey).isSome = true := by
      rcases before with right | ⟨present, _⟩
      · rw [right]
        rfl
      · exact present
    rw [isPhase] at before
    rw [effect.remaining_eq running]
    by_cases visitedHere : peer.publicKey = publicKey
    · subst visitedHere
      rw [← repairs.ports] at isManaged
      rcases effect.endpointOf_managed lawful isManaged present running with
        given | ⟨device, right⟩
      · exact .inl given
      · rw [device]
        exact pending_tail before fun _ => right
    · rw [effect.endpointOf_others lawful
        fun _ _ same => visitedHere same.symm]
      exact pending_tail before fun same => absurd same visitedHere
  · intro publicKey isUnmanaged
    have untouched :
        endpointOf record.after.device publicKey =
          endpointOf record.before.device publicKey := by
      apply effect.endpointOf_others lawful
      intro port isManaged same
      rw [repairs.ports, ← same, isUnmanaged] at isManaged
      cases isManaged
    rw [lastChange, isVisit, untouched]
    exact repairs.unmanaged publicKey isUnmanaged

theorem repairs_of_execution
    (lawful : LawfulWgDevice D interface display parse)
    {state : Repair D}
    (execution :
      (endpointRepair interface parse first).Execution log state) :
    Repairs first log state := by
  induction execution with
  | start started =>
      rw [started.1]
      exact ⟨rfl, nofun, fun _ _ => rfl⟩
  | @step log record earlier taken inductionHypothesis =>
      cases isInput : record.input with
      | change next =>
          exact inductionHypothesis.change taken isInput
      | poll others =>
          exact inductionHypothesis.poll lawful taken isInput
      | visit =>
          exact inductionHypothesis.visit lawful taken isInput

/-- Between two ticks every managed peer that the last tick found, and that
nobody else has changed since, has the endpoint of its broker, and a peer that
is not managed is as others have left it. -/
theorem endpoints_repaired
    (lawful : LawfulWgDevice D interface display parse)
    {state : Repair D}
    (execution : (endpointRepair interface parse first).Execution log state)
    (waiting : state.phase = .waiting) (publicKey : String) :
    (∀ port,
      first.managedPorts.lookup publicKey = some port →
      foundLast publicKey log = true →
      changedSince publicKey log = false →
        endpointOf state.device publicKey =
          some (some (brokerEndpoint port))) ∧
      (first.managedPorts.lookup publicKey = none →
        endpointOf state.device publicKey =
          lastChange first publicKey log) := by
  have repairs := repairs_of_execution lawful execution
  refine ⟨?_, repairs.unmanaged publicKey⟩
  intro port isManaged found calm
  have notFailed : ∀ error, state.phase ≠ .failed error := by
    intro error isFailed
    rw [waiting] at isFailed
    cases isFailed
  rcases repairs.managed publicKey port isManaged found calm notFailed with
    right | ⟨_, peer, member, _⟩
  · exact right
  · rw [waiting] at member
    cases member

end Runs

/-! ## Handshakes -/

section Compared

variable {D : Type} [WgDevice D] (interface : String)

/-- The handshake of a visited peer is compared with its baseline: the peer
is managed, and its endpoint is right or could be set. -/
def Repair.compares (self : Repair D) (peer : WireguardPeer) : Bool :=
  match self.managedPorts.lookup peer.publicKey with
  | none => false
  | some port =>
      decide (peer.endpoint = some (brokerEndpoint port)) ||
        (setEndpoint interface self.device peer.publicKey port).2.isOk

/-- The peer whose handshake a step compares. -/
def comparedPeer (step : RepairStep D) : Option WireguardPeer :=
  match step.input, step.before.phase.remaining with
  | .visit, peer :: _ =>
      if step.before.compares interface peer = true then
        some peer
      else
        none
  | _, _ => none

/-- The newest handshake of a peer that was compared so far. -/
def newestHandshake (first : Repair D) (publicKey : String) :
    List (RepairStep D) → UInt64
  | [] => (first.baselines.lookup publicKey).getD 0
  | step :: older =>
      match comparedPeer interface step with
      | none => newestHandshake first publicKey older
      | some peer =>
          if peer.publicKey = publicKey ∧
              newestHandshake first publicKey older <
                peer.latestHandshake then
            peer.latestHandshake
          else
            newestHandshake first publicKey older

end Compared

namespace Repair

section Baselines

variable {D : Type} (self : Repair D) (peer : WireguardPeer)

/-- The baseline of a peer. -/
def baseline (publicKey : String) : UInt64 :=
  (self.baselines.lookup publicKey).getD 0

theorem recordHandshake_baseline (publicKey : String) :
    (self.recordHandshake peer).1.baseline publicKey =
      if peer.publicKey = publicKey ∧
          self.baseline publicKey < peer.latestHandshake then
        peer.latestHandshake
      else
        self.baseline publicKey := by
  unfold recordHandshake
  simp only
  by_cases same : peer.publicKey = publicKey
  · subst same
    by_cases newer :
        peer.latestHandshake >
          (self.baselines.lookup peer.publicKey).getD 0
    · rw [if_pos newer, if_pos ⟨rfl, newer⟩]
      unfold baseline
      simp only
      rw [HashMap.lookup_insert_eq_ite, if_pos rfl]
      rfl
    · rw [if_neg newer, if_neg fun both => newer both.2]
      unfold baseline
      simp only
      rw [HashMap.lookup_insert_eq_ite, if_pos rfl]
      rfl
  · have other :
        ¬(peer.publicKey = publicKey ∧
          self.baseline publicKey < peer.latestHandshake) :=
      fun both => same both.1
    rw [if_neg other]
    split
    all_goals
      unfold baseline
      simp only
      rw [HashMap.lookup_insert_eq_ite, if_neg (Ne.symm same)]

theorem recordHandshake_snd :
    (self.recordHandshake peer).2 =
      if self.baseline peer.publicKey < peer.latestHandshake then
        some peer.latestHandshake
      else
        none := by
  unfold recordHandshake
  simp only
  by_cases newer :
      peer.latestHandshake > (self.baselines.lookup peer.publicKey).getD 0
  · rw [if_pos newer]
    exact (if_pos newer).symm
  · rw [if_neg newer]
    exact (if_neg newer).symm

variable [WgDevice D] (interface : String)

/-- A visit compares a handshake, or leaves the baselines alone. -/
theorem visit_handshake (remaining : List WireguardPeer) :
    (self.compares interface peer = true ∧
      ∃ base : Repair D,
        base.baselines = self.baselines ∧
          self.visit interface peer remaining = base.recordHandshake peer) ∨
      self.compares interface peer = false ∧
        (self.visit interface peer remaining).1.baselines =
          self.baselines ∧
        (self.visit interface peer remaining).2 = none := by
  let next := self.goOn remaining
  have nextBaselines : next.baselines = self.baselines :=
    (self.goOn_fields remaining).2.1
  cases managed : self.managedPorts.lookup peer.publicKey with
  | none =>
      unfold compares
      rw [managed, visit_unmanaged interface managed]
      exact .inr ⟨rfl, nextBaselines, rfl⟩
  | some port =>
      unfold compares
      rw [managed]
      simp only
      by_cases right : peer.endpoint = some (brokerEndpoint port)
      · rw [decide_eq_true right]
        exact .inl ⟨rfl, next, nextBaselines,
          visit_right interface managed right⟩
      · rw [decide_eq_false right]
        cases done :
            setEndpoint interface self.device peer.publicKey port with
        | mk device outcome =>
            cases outcome with
            | error error =>
                rw [visit_refused interface managed right done]
                exact .inr ⟨rfl, rfl, rfl⟩
            | ok _ =>
                exact .inl ⟨rfl, { next with device := device },
                  nextBaselines, visit_set interface managed right done⟩

end Baselines

end Repair

section Reports

variable {D : Type}

theorem baseline_congr
    {left right : Repair D} (same : left.baselines = right.baselines)
    (publicKey : String) :
    left.baseline publicKey = right.baseline publicKey := by
  unfold Repair.baseline
  rw [same]

variable [WgDevice D] {interface : String}
  {parse : List Char → Option IpNet} {first : Repair D}
  {log : List (RepairStep D)} {state : Repair D}

/-- What a step does to the baselines, and what it reports. -/
theorem baseline_of_takes
    {record : RepairStep D}
    (taken : (endpointRepair interface parse first).Takes record) :
    (comparedPeer interface record = none ∧
      record.after.baselines = record.before.baselines ∧
      record.output = none) ∨
      ∃ peer,
        ∃ base : Repair D,
          comparedPeer interface record = some peer ∧
            base.baselines = record.before.baselines ∧
            (record.after, record.output) = base.recordHandshake peer := by
  cases isInput : record.input with
  | change next =>
      obtain ⟨after, quiet⟩ := change_of_takes taken isInput
      refine .inl ⟨?_, ?_, quiet⟩
      · unfold comparedPeer
        rw [isInput]
      · rw [after]
  | poll others =>
      obtain ⟨after, quiet⟩ := poll_of_takes taken isInput
      refine .inl ⟨?_, ?_, quiet⟩
      · unfold comparedPeer
        rw [isInput]
      · rw [after]
        exact (record.before.poll_fields interface parse others).2
  | visit =>
      obtain ⟨peer, remaining, isPhase, visited⟩ :=
        visit_of_takes taken isInput
      have compared :
          comparedPeer interface record =
            if record.before.compares interface peer = true then some peer
            else none := by
        unfold comparedPeer
        rw [isInput, isPhase]
        rfl
      rcases record.before.visit_handshake peer interface remaining with
        ⟨compares, base, same, records⟩ | ⟨passes, same, quiet⟩
      · rw [if_pos compares] at compared
        exact .inr ⟨peer, base, compared, same, visited.trans records⟩
      · rw [if_neg (by rw [passes]; exact Bool.false_ne_true)] at compared
        rw [← visited] at same quiet
        exact .inl ⟨compared, same, quiet⟩

/-- The baseline of a peer is the newest handshake that was compared. -/
theorem baseline_of_execution
    (execution : (endpointRepair interface parse first).Execution log state)
    (publicKey : String) :
    state.baseline publicKey =
      newestHandshake interface first publicKey log := by
  induction execution with
  | start started =>
      rw [started.1]
      rfl
  | @step log record earlier taken inductionHypothesis =>
      rw [newestHandshake]
      rcases baseline_of_takes taken with
        ⟨compared, same, _⟩ | ⟨peer, base, compared, same, recorded⟩
      · rw [compared, baseline_congr same]
        exact inductionHypothesis
      · have after : record.after = (base.recordHandshake peer).1 :=
          congrArg Prod.fst recorded
        rw [compared, after, Repair.recordHandshake_baseline,
          baseline_congr same, inductionHypothesis]

/-- A handshake is reported exactly if it is newer than the one with which
its peer started and than all that were seen of this peer before. -/
theorem new_handshakes_reported
    {newer older : List (RepairStep D)} {record : RepairStep D}
    (execution :
      (endpointRepair interface parse first).Execution
        (newer ++ record :: older) state)
    (handshake : UInt64) :
    record.output = some handshake ↔
      ∃ peer,
        comparedPeer interface record = some peer ∧
          peer.latestHandshake = handshake ∧
          newestHandshake interface first peer.publicKey older <
            handshake := by
  obtain ⟨earlier, taken⟩ := Machine.Execution.split execution
  rcases baseline_of_takes taken with
    ⟨compared, _, quiet⟩ | ⟨peer, base, compared, same, recorded⟩
  · rw [compared, quiet]
    constructor
    · nofun
    · rintro ⟨_, impossible, _⟩
      cases impossible
  · have output : record.output = (base.recordHandshake peer).2 :=
      congrArg Prod.snd recorded
    have seen :
        base.baseline peer.publicKey =
          newestHandshake interface first peer.publicKey older := by
      rw [baseline_congr same]
      exact baseline_of_execution earlier peer.publicKey
    rw [output, Repair.recordHandshake_snd, seen, compared]
    constructor
    · intro reported
      split at reported
      next isNewer =>
        have same := Option.some.inj reported
        exact ⟨peer, rfl, same, same ▸ isNewer⟩
      next => cases reported
    · rintro ⟨other, isOther, same, isNewer⟩
      cases isOther
      subst same
      rw [if_pos isNewer]

end Reports

/-! ## One peer -/

/-- An interface with one peer. -/
structure OnePeer where
  endpoint : Option String
  word :
    ∀ text, endpoint = some text →
      IsWord text.toList ∧ text.toList ≠ noneText

def OnePeer.snapshot (self : OnePeer) : WireguardSnapshot :=
  ⟨"own", 51820, [⟨"right", self.endpoint, [], 7, 0, 0⟩]⟩

/-- The peer with the endpoint of its broker. -/
def OnePeer.connected : OnePeer where
  endpoint := some (brokerEndpoint 42008)
  word text isEndpoint := by
    rw [← Option.some.inj isEndpoint]
    decide +kernel

instance : WgDevice OnePeer where
  state := OnePeer.snapshot
  reads device := showTool displayNine fun _ => device.snapshot
  set device arguments :=
    if arguments = setArguments "wg0" "right" 42008 then
      (.connected, .ok ⟨true, "", ""⟩)
    else
      (device, .ok ⟨false, "", "not supported"⟩)

theorem setArguments_inj
    {interface firstKey secondKey : String} {firstPort secondPort : UInt16}
    (same :
      setArguments interface firstKey firstPort =
        setArguments interface secondKey secondPort) :
    firstKey = secondKey ∧
      brokerEndpoint firstPort = brokerEndpoint secondPort := by
  simp only [setArguments, List.cons.injEq, true_and, and_true] at same
  exact same

theorem OnePeer.endpointOf_right (device : OnePeer) :
    endpointOf device "right" = some device.endpoint :=
  rfl

theorem OnePeer.endpointOf_other
    (device : OnePeer) {other : String} (different : other ≠ "right") :
    endpointOf device other = none := by
  have absent : device.snapshot.peer other = none := by
    apply List.find?_eq_none.mpr
    intro peer member
    rw [List.mem_singleton.mp member]
    exact fun same => different (of_decide_eq_true same).symm
  exact congrArg (Option.map WireguardPeer.endpoint) absent

theorem OnePeer.set_cases
    (device : OnePeer) (publicKey : String) (port : UInt16) :
    (publicKey = "right" ∧ brokerEndpoint port = brokerEndpoint 42008 ∧
      WgDevice.set device (setArguments "wg0" publicKey port) =
        (OnePeer.connected, .ok ⟨true, "", ""⟩)) ∨
      WgDevice.set device (setArguments "wg0" publicKey port) =
        (device, .ok ⟨false, "", "not supported"⟩) := by
  by_cases supported :
      setArguments "wg0" publicKey port = setArguments "wg0" "right" 42008
  · obtain ⟨isKey, isEndpoint⟩ := setArguments_inj supported
    exact .inl ⟨isKey, isEndpoint, if_pos supported⟩
  · exact .inr (if_neg supported)

theorem onePeer_lawful :
    LawfulWgDevice OnePeer "wg0" displayNine parseNine where
  valid device := by
    have key : IsWord "own".toList := by
      decide
    have port : (51820 : UInt16) ≠ 0 := by
      decide
    have peerKey : IsWord "right".toList := by
      decide
    refine ⟨key, port, ?_, ?_, ?_, List.nodup_singleton "right"⟩
    · intro peer member
      rw [List.mem_singleton.mp member]
      exact peerKey
    · intro peer member endpoint present
      rw [List.mem_singleton.mp member] at present
      exact device.word endpoint present
    · intro peer member network listed
      rw [List.mem_singleton.mp member] at listed
      cases listed
  not_own device peer member := by
    have different : "right" ≠ "own" := by
      decide
    rw [List.mem_singleton.mp member]
    exact different
  shows device field result called _ := by
    obtain ⟨stderr, printed⟩ :=
      showTool_prints displayNine "wg0" (fun _ => device.snapshot) field
    have same := called.symm.trans printed
    rw [Except.ok.inj same]
    rfl
  set_gives device publicKey port result _ called success := by
    rcases device.set_cases publicKey port with
      ⟨isKey, isEndpoint, isSet⟩ | isSet
    · rw [isSet, isKey, isEndpoint]
      exact OnePeer.connected.endpointOf_right
    · rw [isSet] at called
      rw [← Except.ok.inj called] at success
      cases success
  set_others device publicKey other port different := by
    rcases device.set_cases publicKey port with ⟨isKey, _, isSet⟩ | isSet
    · rw [isKey] at different
      rw [isSet, OnePeer.endpointOf_other _ different,
        OnePeer.endpointOf_other _ different]
    · rw [isSet]

/-- A peer without an endpoint, whose broker listens at a port. -/
def unconnected : Repair OnePeer where
  device := ⟨none, nofun⟩
  managedPorts := (∅ : HashMap String UInt16).insert "right" 42008
  baselines := ∅
  phase := .waiting

/-- One tick gives the peer the endpoint of its broker. -/
theorem endpoints_repaired_unconnected :
    ∃ log state,
      (endpointRepair "wg0" parseNine unconnected).Execution log state ∧
        endpointOf state.device "right" = some (some "127.0.0.1:42008") := by
  have ran :
      ((endpointRepair "wg0" parseNine unconnected).run unconnected
          [.poll fun _ => unconnected.device, .visit]).map
        (fun result =>
          (result.2.phase, foundLast "right" result.1,
            changedSince "right" result.1)) =
        some (.waiting, true, false) := by
    decide +kernel
  have starts :
      (endpointRepair "wg0" parseNine unconnected).start unconnected :=
    ⟨rfl, rfl⟩
  obtain ⟨log, state, execution, observed⟩ :=
    Machine.exists_execution_of_run starts ran
  obtain ⟨waiting, others⟩ := Prod.mk.inj observed
  obtain ⟨found, calm⟩ := Prod.mk.inj others
  have managed : unconnected.managedPorts.lookup "right" = some 42008 := by
    decide +kernel
  have endpoint : brokerEndpoint 42008 = "127.0.0.1:42008" := by
    decide +kernel
  have repaired :=
    (endpoints_repaired onePeer_lawful execution waiting "right").1 42008
      managed found calm
  rw [endpoint] at repaired
  exact ⟨log, state, execution, repaired⟩

end WgLink
