import WgLink.Tunnels

/-!
# Commands and what they leave

The sessions that the device will hold once it has carried out some commands.
An arm of the loop changes the sessions of the manager and the commands
together, and a step of the device does what its command says unless it breaks
a session.
-/

namespace WgLink

open WgLink.Library

/-! ## What commands will have done -/

/-- Whether the device holds a tunnel of the session after a command. -/
def DeviceCommand.Settle (session : SessionKey) (held : Prop) :
    DeviceCommand → Prop
  | .prepare other _ => held ∨ other = session
  | .remove other => held ∧ other ≠ session
  | .receive _ _ _ => held

/-- Whether the device holds a tunnel of the session after some commands. -/
def Settles
    (session : SessionKey) (held : Prop) (commands : List DeviceCommand) :
    Prop :=
  commands.foldl (DeviceCommand.Settle session) held

@[simp]
theorem settles_nil (session : SessionKey) (held : Prop) :
    Settles session held [] ↔ held := Iff.rfl

@[simp]
theorem settles_cons
    (session : SessionKey) (held : Prop) (command : DeviceCommand)
    (commands : List DeviceCommand) :
    Settles session held (command :: commands) ↔
      Settles session (command.Settle session held) commands := Iff.rfl

theorem settles_append
    (session : SessionKey) (held : Prop)
    (first second : List DeviceCommand) :
    Settles session held (first ++ second) ↔
      Settles session (Settles session held first) second := by
  unfold Settles
  rw [List.foldl_append]

theorem settles_congr
    {session : SessionKey} {held other : Prop} (same : held ↔ other)
    (commands : List DeviceCommand) :
    Settles session held commands ↔ Settles session other commands := by
  rw [propext same]

theorem settles_mono
    {session : SessionKey} {held other : Prop} (implies : held → other)
    {commands : List DeviceCommand}
    (settled : Settles session held commands) :
    Settles session other commands := by
  induction commands generalizing held other with
  | nil =>
      exact implies settled
  | cons command rest inductionHypothesis =>
      refine inductionHypothesis ?_ settled
      cases command with
      | prepare prepared key =>
          exact Or.imp_left implies
      | receive received source datagram =>
          exact implies
      | remove removed =>
          exact And.imp_left implies

theorem settles_removes
    (session : SessionKey) (held : Prop) (sessions : List SessionKey) :
    Settles session held (sessions.map .remove) ↔
      held ∧ session ∉ sessions := by
  induction sessions generalizing held with
  | nil =>
      simp
  | cons other rest inductionHypothesis =>
      rw [List.map_cons, settles_cons, inductionHypothesis]
      simp only [DeviceCommand.Settle, List.mem_cons, not_or]
      constructor
      · intro kept
        obtain ⟨⟨stays, apart⟩, outside⟩ := kept
        exact ⟨stays, fun same => apart same.symm, outside⟩
      · intro kept
        obtain ⟨stays, apart, outside⟩ := kept
        exact ⟨⟨stays, fun same => apart same.symm⟩, outside⟩

/-- Nothing is held in the end without a `prepare`. -/
theorem not_settles_false
    {session : SessionKey} {commands : List DeviceCommand}
    (unprepared : ∀ key, .prepare session key ∉ commands) :
    ¬ Settles session False commands := by
  induction commands with
  | nil =>
      exact fun settled => settled
  | cons command rest inductionHypothesis =>
      have later : ∀ key, .prepare session key ∉ rest :=
        fun key member => unprepared key (List.mem_cons_of_mem _ member)
      have released : command.Settle session False ↔ False := by
        cases command with
        | prepare other key =>
            have apart : other ≠ session := by
              intro same
              exact unprepared key (same ▸ List.mem_cons_self)
            simp [DeviceCommand.Settle, apart]
        | receive other source datagram =>
            exact Iff.rfl
        | remove other =>
            simp [DeviceCommand.Settle]
      rw [settles_cons, settles_congr released]
      exact inductionHypothesis later

/-! ## What the loop does to sessions and commands -/

/-- The loop is inside `DeviceHandle::prepare`. -/
def LoopPhase.Calling : LoopPhase → Prop
  | .preparing _ _ | .awaiting _ => True
  | .selecting | .sending _ | .stopped _ => False

namespace Node

variable {R : Type}

/-- What an arm of the loop does to the sessions and to the commands. -/
inductive Account (self : Node R) (next : Node R) : NodeInput → Prop
  /-- The manager lets go of sessions and the device is told so. -/
  | dropped (arm : NodeInput) (sessions : List SessionKey) :
      (∀ session now order,
        arm ≠ .event (.sessionFailed session) now order) →
      ¬ next.phase.Calling →
      next.phase.unsent = sessions.map .remove →
      (∀ session,
        next.manager.sessions.lookup session = none ↔
          self.manager.sessions.lookup session = none ∨
            session ∈ sessions) →
      Account self next arm
  /-- A datagram is passed on. -/
  | relayed (packet : InboundRelayPacket) (session : SessionKey)
      (source : String) (datagram : Bytes) :
      next.phase = .sending [.receive session source datagram] →
      next.manager = self.manager →
      Account self next (.inbound packet)
  /-- A tunnel is asked for. -/
  | accepted (source : IpAddr) (ticket : ShortcutTicket) (now : UInt64)
      (sender : Peer) :
      self.Accepts source ticket now sender →
      next.manager = self.accepting ticket →
      next.phase =
        .preparing ticket.session
          (.prepare ticket.session ticket.remotePublicKey) →
      Account self next (.control ⟨source, .ticket ticket⟩ now)
  /-- The device has removed a session on its own. -/
  | failed (session : SessionKey) (now : UInt64) (order : List SessionKey) :
      next.phase = .selecting →
      (∀ query,
        next.manager.sessions.lookup query = none ↔
          self.manager.sessions.lookup query = none ∨ query = session) →
      Account self next (.event (.sessionFailed session) now order)

theorem Account.unchanged
    {self : Node R} (selecting : self.phase = .selecting) {arm : NodeInput}
    (other :
      ∀ session now order,
        arm ≠ .event (.sessionFailed session) now order) :
    Account self self arm :=
  .dropped arm [] other (by simp [selecting, LoopPhase.Calling])
    (by simp [selecting]) (by simp)

variable [RouteManager R]

/-- The arms of the `select!` are taken at the `select!`. -/
theorem Turn.selecting
    {self next : Node R} {arm : NodeInput} {output : Option DeviceCommand}
    (turn : self.Turn arm next output) (notSent : arm ≠ .sent)
    (notReplied : ∀ result, arm ≠ .replied result) :
    self.phase = .selecting := by
  cases turn with
  | accepted source ticket now sender accepts =>
      exact accepts.selecting
  | sent command rest sending =>
      exact absurd rfl notSent
  | sentPrepare session command preparing =>
      exact absurd rfl notSent
  | prepared session awaiting =>
      exact absurd rfl (notReplied _)
  | prepareFailed session error awaiting =>
      exact absurd rfl (notReplied _)
  | _ =>
      assumption

theorem Turn.account
    {self next : Node R} {arm : NodeInput}
    (turn : self.Turn arm next none) (selecting : self.phase = .selecting) :
    Account self next arm := by
  have idle :
      ∀ keys : List SessionKey,
        ¬ (LoopPhase.ofCommands (keys.map .remove)).Calling := by
    intro keys
    cases keys <;> simp [LoopPhase.ofCommands, LoopPhase.Calling]
  cases turn with
  | expired snapshot now order expired _ iterates outcome =>
      refine .dropped _ expired (by simp) (idle expired) (by simp) ?_
      intro session
      change (self.manager.expire now order).1.sessions.lookup session =
        none ↔ _
      rcases ShortcutManager.expire_cases self.manager now order with
        ⟨error, _, reached⟩ | ⟨_, reached⟩
      · rw [reached] at outcome
        cases outcome
      · rw [reached] at outcome ⊢
        cases outcome
        exact HashMap.lookup_eraseAll_eq_none_iff _ _ session
  | stopped snapshot now order error _ iterates outcome =>
      refine .dropped _ [] (by simp) (fun calling => calling) rfl ?_
      intro session
      change (self.manager.expire now order).1.sessions.lookup session =
        none ↔ _
      rcases ShortcutManager.expire_cases self.manager now order with
        ⟨error, _, reached⟩ | ⟨_, reached⟩
      · rw [reached, (ShortcutManager.removeExpiredRoutes_effect _ _).2]
        simp
      · rw [reached] at outcome
        cases outcome
  | ignored input _ passive =>
      refine .unchanged selecting ?_
      intro session now order same
      subst same
      exact passive
  | accepted source ticket now sender accepts =>
      exact .accepted source ticket now sender accepts rfl rfl
  | relayed packet session _ channel =>
      exact .relayed packet session packet.sourceKey packet.payload rfl rfl
  | failed session now order _ =>
      refine .failed session now order rfl ?_
      intro query
      rw [manager_withManager, ShortcutManager.fail_sessions,
        HashMap.lookup_erase_eq_ite]
      by_cases same : query = session <;> simp [same]
  | confirmed session now order _ active =>
      exact .unchanged selecting (by simp)
  | activated session now order _ outcome iterates =>
      refine .dropped _
        ((self.manager.authenticatedHandshake session now).1.drainingSessions
          order) (by simp) (idle _) (by simp) ?_
      intro query
      have retired :=
        HashMap.lookup_eraseAll_eq_none_iff
          (self.manager.authenticatedHandshake session now).1.sessions
          ((self.manager.authenticatedHandshake session
            now).1.drainingSessions order) query
      rw [ShortcutManager.authenticatedHandshake_lookup_eq_none] at retired
      exact retired
  | rejected session now order error _ outcome =>
      refine .dropped _ [session] (by simp) (fun calling => calling) rfl ?_
      intro query
      rw [manager_withManager, ShortcutManager.fail_sessions,
        HashMap.lookup_erase_eq_ite]
      by_cases same : query = session
      · simp [same]
      · rw [if_neg same,
          ShortcutManager.authenticatedHandshake_lookup_eq_none]
        simp [same]
  | prepared session awaiting =>
      rw [selecting] at awaiting
      cases awaiting
  | prepareFailed session error awaiting =>
      rw [selecting] at awaiting
      cases awaiting

end Node

/-! ## What the device does -/

namespace DeviceTask

/-- The device holds a tunnel of the session, or is setting one up. -/
def Holds (self : DeviceTask) (session : SessionKey) : Prop :=
  self.sessions.lookup session ≠ none ∨
    ∃ runtime packets,
      .initiate session runtime packets ∈ self.pending

/-- The step ends a tunnel of the session, or the attempt to set one up. -/
inductive Breaks
    (self : DeviceTask) (command : Option DeviceCommand) (next : DeviceTask)
    (session : SessionKey) : Prop
  | failed (rest : List DeviceAction) :
      command = none →
      next = self.failSession session rest →
      (∀ action ∈ rest, action ∈ self.pending) →
      Breaks self command next session
  | unprepared (key error : String) :
      self.pending = [] →
      command = some (.prepare session key) →
      next = { self with pending := [.reply (.error error)] } →
      Breaks self command next session
  | refused (runtime : SessionRuntime) (packets : List Bytes)
      (rest : List DeviceAction) :
      command = none →
      self.pending = .initiate session runtime packets :: rest →
      next =
        { self with pending := .reply (.error transportStopped) :: rest } →
      Breaks self command next session

/-- An answered datagram leaves every tunnel in its place. -/
theorem holds_received
    {self : DeviceTask} {other : SessionKey} {datagram : Bytes}
    {results : List TunnResult} {runtime : SessionRuntime}
    {output : TunnelOutput} (source : String)
    (idle : self.pending = [])
    (present : self.sessions.lookup other = some runtime)
    (answered : ShortcutTunnel.receive datagram results = some (.ok output))
    (session : SessionKey) :
    (self.received other runtime output).Holds session ↔
      self.Holds session := by
  have sameTunnels :
      (self.received other runtime output).sessions.lookup session = none ↔
        self.sessions.lookup session = none := by
    simp only [DeviceTask.received, HashMap.lookup_insert_eq_ite]
    by_cases same : session = other
    · subst same
      simp [present]
    · rw [if_neg same]
  have nothingSetUp :
      ¬ ∃ held packets,
        .initiate session held packets ∈
          (self.received other runtime output).pending := by
    intro initiating
    obtain ⟨held, packets, member⟩ := initiating
    rcases Turn.initiate_pending
        (.received other source datagram results runtime output idle
          present answered) member with
      ⟨earlier, pending⟩ | ⟨key, same⟩
    · simp [idle] at pending
    · cases same
  simp [Holds, idle, sameTunnels, nothingSetUp]

/-- A failure takes no tunnel but its own away. -/
theorem holds_failSession
    {self : DeviceTask} {session other : SessionKey}
    {rest : List DeviceAction}
    (origin :
      (self.Serves other rest ∧ self.sessions.lookup other ≠ none) ∨
        ∃ peerKey packets,
          self.pending = .transmit other peerKey packets :: rest)
    (apart : session ≠ other) :
    (self.failSession other rest).Holds session ↔ self.Holds session := by
  have kept :
      (self.sessions.erase other).lookup session =
        self.sessions.lookup session :=
    Finmap.lookup_erase_ne apart
  have initiating :
      ∀ runtime packets,
        .initiate session runtime packets ∈ self.pending ↔
          .initiate session runtime packets ∈ rest := by
    intro runtime packets
    exact mem_iff_of_failed origin (by simp) (by simp)
  simp [Holds, failSession, kept, initiating]

/-- A step that does not break a session does to it what its command says. -/
theorem Turn.settles
    {self next : DeviceTask} {command : Option DeviceCommand}
    {effect : DeviceEffect} (turn : self.Turn command next effect)
    {session : SessionKey} (sound : ¬ self.Breaks command next session) :
    Settles session (self.Holds session) command.toList ↔
      next.Holds session := by
  cases turn with
  | ignored other source datagram idle =>
      simp [DeviceCommand.Settle]
  | unrouted idle =>
      simp
  | missing destination idle =>
      simp [Holds, idle]
  | served other peerKey packets rest serves =>
      have initiating :
          ∀ runtime others,
            .initiate session runtime others ∈ self.pending ↔
              .initiate session runtime others ∈ rest := by
        intro runtime others
        exact serves.mem_iff (by simp)
      simp [Holds, initiating]
  | failed other rest origin =>
      have apart : session ≠ other := by
        intro same
        subst same
        exact sound (.failed rest rfl rfl (mem_of_failed origin))
      rw [holds_failSession origin apart]
      simp
  | preparing other remotePublicKey packets idle =>
      simp [Holds, idle, DeviceCommand.Settle, eq_comm]
  | unprepared other remotePublicKey error idle =>
      have apart : other ≠ session := by
        intro same
        subst same
        exact sound (.unprepared remotePublicKey error idle rfl rfl)
      simp [Holds, idle, DeviceCommand.Settle, apart]
  | received other source datagram results runtime output idle present
      answered =>
      rw [holds_received source idle present answered session]
      simp [DeviceCommand.Settle]
  | removed other idle =>
      by_cases same : session = other
      · subst same
        simp [Holds, idle, DeviceCommand.Settle]
      · have apart : other ≠ session := fun equal => same equal.symm
        simp [Holds, idle, DeviceCommand.Settle, same, apart]
  | ticked order idle iterates =>
      simp [Holds, idle]
  | emitted event rest first =>
      simp [Holds, first]
  | dropped action rest first spent =>
      cases action with
      | initiate other runtime packets =>
          cases spent
      | _ =>
          simp [Holds, first]
  | transmitted other peerKey packet packets rest first =>
      simp [Holds, first]
  | initiated other runtime packet packets rest first =>
      by_cases same : session = other
      · subst same
        exact iff_of_true
          (Or.inr ⟨runtime, packet :: packets, by simp [first]⟩)
          (Or.inr ⟨runtime, packets, List.mem_cons_self⟩)
      · simp [Holds, first, same]
  | inserted other runtime rest first =>
      by_cases same : session = other
      · subst same
        simp only [Holds, first, List.mem_cons, DeviceAction.initiate.injEq,
          true_and, Finmap.lookup_insert]
        exact iff_of_true (Or.inr ⟨runtime, [], Or.inl ⟨rfl, rfl⟩⟩)
          (Or.inl (by simp))
      · simp [Holds, first, same]
  | refused other runtime packets rest first =>
      have apart : session ≠ other := by
        intro same
        subst same
        exact sound (.refused runtime packets rest rfl first rfl)
      simp [Holds, first, apart]
  | replied result rest first =>
      simp [Holds, first]

/-- What is held after a step has been held before, or its command says so. -/
theorem Turn.settles_of_holds
    {self next : DeviceTask} {command : Option DeviceCommand}
    {effect : DeviceEffect} (turn : self.Turn command next effect)
    {session : SessionKey} (held : next.Holds session) :
    Settles session (self.Holds session) command.toList := by
  by_cases breaks : self.Breaks command next session
  · cases breaks with
    | failed rest none same later =>
        subst none same
        rcases held with present | ⟨runtime, packets, member⟩
        · simp [failSession] at present
        · simp only [failSession, List.mem_cons, reduceCtorEq,
            false_or] at member
          exact Or.inr ⟨runtime, packets, later _ member⟩
    | unprepared key error idle prepare same =>
        subst prepare
        exact Or.inr rfl
    | refused runtime packets rest none first same =>
        subst none
        exact Or.inr ⟨runtime, packets, by simp [first]⟩
  · exact (turn.settles breaks).mpr held

/-- A session that the commands release is released by those that remain once
the first one has been carried out. -/
theorem Turn.released
    {self next : DeviceTask} {command : Option DeviceCommand}
    {effect : DeviceEffect} (turn : self.Turn command next effect)
    {session : SessionKey} {later : List DeviceCommand}
    (released :
      ¬ Settles session (self.Holds session) (command.toList ++ later)) :
    ¬ Settles session (next.Holds session) later := by
  intro settled
  apply released
  rw [settles_append]
  exact settles_mono turn.settles_of_holds settled

/-- An event that is about to be sent is sent, or stays so. -/
theorem Turn.emit_kept
    {self next : DeviceTask} {command : Option DeviceCommand}
    {effect : DeviceEffect} (turn : self.Turn command next effect)
    {event : DeviceEvent} (member : .emit event ∈ self.pending) :
    event ∈ effect.events ∨ .emit event ∈ next.pending := by
  have busy : self.pending ≠ [] := List.ne_nil_of_mem member
  cases turn with
  | served other peerKey packets rest serves =>
      rw [serves.mem_iff (by simp)] at member
      exact Or.inr (List.mem_cons_of_mem _ member)
  | failed other rest origin =>
      rw [mem_iff_of_failed origin (by simp) (by simp)] at member
      exact Or.inr (List.mem_cons_of_mem _ member)
  | emitted other rest first =>
      rw [first] at member
      simpa [DeviceEffect.events] using member
  | dropped action rest first spent =>
      rw [first, List.mem_cons] at member
      rcases member with rfl | later
      · cases spent
      · exact Or.inr later
  | transmitted other peerKey packet packets rest first =>
      rw [first] at member
      exact Or.inr (by simpa using member)
  | initiated other runtime packet packets rest first =>
      rw [first] at member
      exact Or.inr (by simpa using member)
  | inserted other runtime rest first =>
      rw [first] at member
      have later : .emit event ∈ rest := by simpa using member
      simp [later]
  | refused other runtime packets rest first =>
      rw [first] at member
      exact Or.inr (by simpa using member)
  | replied result rest first =>
      rw [first] at member
      exact Or.inr (by simpa using member)
  | _ =>
      contradiction

end DeviceTask

end WgLink
