import WgLink.Commands

/-!
# The call of `prepare`

The loop waits for the device in `DeviceHandle::prepare` only.  At most one such
call is under way, and every part of the system shows how far it has come.
-/

namespace WgLink

open WgLink.Library

namespace DeviceTask

/-- The device is not busy with a `prepare`. -/
def Free (self : DeviceTask) : Prop :=
  ∀ action ∈ self.pending,
    (∀ session runtime packets,
      action ≠ .initiate session runtime packets) ∧
    ∀ result, action ≠ .reply result

theorem Free.not_replying
    {self : DeviceTask} (free : self.Free) (result : Except String Unit) :
    .reply result ∉ self.pending := by
  intro member
  exact (free _ member).2 result rfl

/-- The device stays free until it takes a `prepare`. -/
theorem Turn.free
    {self next : DeviceTask} {command : Option DeviceCommand}
    {effect : DeviceEffect} (turn : self.Turn command next effect)
    (free : self.Free)
    (unprepared : ∀ session key, command ≠ some (.prepare session key)) :
    next.Free ∧ ∀ earlier, effect.answer earlier = earlier := by
  constructor
  · intro action member
    rcases turn.mem_pending member with before | added
    · exact free action before
    · cases added with
      | preparation session key packets =>
          exact absurd rfl (unprepared session key)
      | refusal session key error =>
          exact absurd rfl (unprepared session key)
      | initiation session runtime packet packets before =>
          exact absurd rfl ((free _ before).1 session runtime _)
      | answer session runtime packets result before =>
          exact absurd rfl ((free _ before).1 session runtime packets)
      | _ =>
          simp
  · intro earlier
    cases turn with
    | replied result rest pending =>
        have first : .reply result ∈ self.pending := by
          rw [pending]
          exact List.mem_cons_self
        exact absurd first (free.not_replying result)
    | _ =>
        rfl

/-- What taking a `prepare` does. -/
theorem Turn.of_prepare
    {self next : DeviceTask} {session : SessionKey} {key : String}
    {effect : DeviceEffect}
    (turn : self.Turn (some (.prepare session key)) next effect) :
    self.pending = [] ∧ effect = .silent ∧
      ((∃ runtime packets,
          next =
            { self with pending := [.initiate session runtime packets] }) ∨
        ∃ error,
          next = { self with pending := [.reply (.error error)] }) := by
  cases turn with
  | preparing _ _ packets idle =>
      exact ⟨idle, rfl, Or.inl ⟨_, packets, rfl⟩⟩
  | unprepared _ _ error idle =>
      exact ⟨idle, rfl, Or.inr ⟨error, rfl⟩⟩

/-- What setting a tunnel up does. -/
theorem Turn.of_initiate
    {self next : DeviceTask} {command : Option DeviceCommand}
    {effect : DeviceEffect} {session : SessionKey}
    {runtime : SessionRuntime} {packets : List Bytes}
    (turn : self.Turn command next effect)
    (pending : self.pending = [.initiate session runtime packets]) :
    (∀ earlier, effect.answer earlier = earlier) ∧
      ((∃ fewer,
          next =
            { self with pending := [.initiate session runtime fewer] }) ∨
        next.pending =
          [.emit (.handshakeStarted session), .reply (.ok ())] ∨
        (command = none ∧
          next =
            { self with pending := [.reply (.error transportStopped)] })) := by
  cases turn with
  | initiated other held packet fewer rest first =>
      rw [pending] at first
      cases first
      exact ⟨fun _ => rfl, Or.inl ⟨fewer, rfl⟩⟩
  | inserted other held rest first =>
      rw [pending] at first
      cases first
      exact ⟨fun _ => rfl, Or.inr (Or.inl rfl)⟩
  | refused other held others rest first =>
      rw [pending] at first
      cases first
      exact ⟨fun _ => rfl, Or.inr (Or.inr ⟨rfl, rfl⟩)⟩
  | served other peerKey others rest serves =>
      simp [Serves, pending] at serves
  | failed other rest origin =>
      simp [Serves, pending] at origin
  | dropped action rest first spent =>
      rw [pending] at first
      cases first
      cases spent
  | _ =>
      simp_all

/-- What answering a `prepare` does. -/
theorem Turn.of_reply
    {self next : DeviceTask} {command : Option DeviceCommand}
    {effect : DeviceEffect} {events : List DeviceEvent}
    {result : Except String Unit}
    (turn : self.Turn command next effect)
    (pending :
      self.pending = events.map .emit ++ [.reply result]) :
    (effect = .reply result ∧ next.pending = []) ∨
      ((∀ earlier, effect.answer earlier = earlier) ∧
        ∃ event later,
          events = event :: later ∧
          next.pending =
            later.map .emit ++ [.reply result]) := by
  have first :
      self.pending.head? = some (.reply result) ∨
        ∃ event, self.pending.head? = some (.emit event) := by
    cases events with
    | nil =>
        exact Or.inl (by simp [pending])
    | cons event later =>
        exact Or.inr ⟨event, by simp [pending]⟩
  cases turn with
  | replied other rest busy =>
      rw [pending] at busy
      cases events with
      | nil =>
          cases busy
          exact Or.inl ⟨rfl, rfl⟩
      | cons event later =>
          cases busy
  | emitted other rest busy =>
      rw [pending] at busy
      cases events with
      | nil =>
          cases busy
      | cons event later =>
          cases busy
          exact Or.inr ⟨fun _ => rfl, _, later, rfl, rfl⟩
  | served other peerKey others rest serves =>
      rcases serves with ⟨idle, _⟩ | busy
      · simp [idle] at first
      · simp [busy] at first
  | failed other rest origin =>
      rcases origin with ⟨⟨idle, _⟩ | busy, _⟩ | ⟨peerKey, others, busy⟩
      · simp [idle] at first
      · simp [busy] at first
      · simp [busy] at first
  | dropped action rest busy spent =>
      cases action with
      | emit event =>
          cases spent
      | reply other =>
          cases spent
      | _ =>
          simp [busy] at first
  | _ =>
      clear pending
      simp_all

end DeviceTask

namespace System

variable {P : Type}

/-- No tunnel is asked for by these commands. -/
def Unprepared (commands : List DeviceCommand) : Prop :=
  ∀ session key, .prepare session key ∉ commands

theorem Unprepared.front
    {command : Option DeviceCommand} {later : List DeviceCommand}
    (unprepared : Unprepared (command.toList ++ later)) :
    (∀ session key, command ≠ some (.prepare session key)) ∧
      Unprepared later := by
  constructor
  · intro session key same
    subst same
    exact unprepared session key List.mem_cons_self
  · intro session key member
    exact unprepared session key (List.mem_append_right _ member)

/-- What is taken from the front of a queue is its last element, or stands
before it. -/
theorem front_of_last
    {ahead rest : List DeviceCommand} {command : Option DeviceCommand}
    {last : DeviceCommand}
    (taken : ahead ++ [last] = command.toList ++ rest) :
    (∃ later, ahead = command.toList ++ later ∧ rest = later ++ [last]) ∨
      (ahead = [] ∧ command = some last ∧ rest = []) := by
  cases command with
  | none =>
      exact Or.inl ⟨ahead, rfl, taken.symm⟩
  | some first =>
      cases ahead with
      | nil =>
          cases taken
          exact Or.inr ⟨rfl, rfl, rfl⟩
      | cons before later =>
          cases taken
          exact Or.inl ⟨later, rfl, rfl⟩

/-- How far the call of `DeviceHandle::prepare` has come, if there is one. -/
inductive Preparation (self : System P) : Prop
  | none :
      ¬ self.node.phase.Calling →
      Unprepared self.outstanding →
      self.device.Free →
      self.reply = .none →
      Preparation self
  | unsent (session : SessionKey) (key : String) :
      self.node.phase = .preparing session (.prepare session key) →
      Unprepared self.commands.items →
      self.device.Free →
      self.reply = .none →
      ¬ Settles session (self.device.Holds session) self.commands.items →
      Preparation self
  | queued (session : SessionKey) (key : String)
      (ahead : List DeviceCommand) :
      self.node.phase = .awaiting session →
      self.commands.items = ahead ++ [.prepare session key] →
      Unprepared ahead →
      self.device.Free →
      self.reply = .none →
      ¬ Settles session (self.device.Holds session) ahead →
      Preparation self
  | initiating (session : SessionKey) (runtime : SessionRuntime)
      (packets : List Bytes) :
      self.node.phase = .awaiting session →
      self.commands.items = [] →
      self.device.pending = [.initiate session runtime packets] →
      self.device.sessions.lookup session = .none →
      self.reply = .none →
      Preparation self
  | answering (session : SessionKey) (events : List DeviceEvent)
      (result : Except String Unit) :
      self.node.phase = .awaiting session →
      self.commands.items = [] →
      self.device.pending = events.map .emit ++ [.reply result] →
      self.reply = .none →
      Preparation self
  | answered (session : SessionKey) (result : Except String Unit) :
      self.node.phase = .awaiting session →
      self.commands.items = [] →
      self.device.Free →
      self.reply = some result →
      Preparation self

theorem Preparation.of_calm
    {self : System P} (preparation : self.Preparation)
    (calm : ¬ self.node.phase.Calling) :
    Unprepared self.outstanding ∧ self.device.Free ∧ self.reply = .none := by
  cases preparation with
  | none _ unprepared free unanswered =>
      exact ⟨unprepared, free, unanswered⟩
  | unsent session key phase =>
      exact absurd (phase ▸ trivial) calm
  | queued session key ahead phase =>
      exact absurd (phase ▸ trivial) calm
  | initiating session runtime packets phase =>
      exact absurd (phase ▸ trivial) calm
  | answering session events result phase =>
      exact absurd (phase ▸ trivial) calm
  | answered session result phase =>
      exact absurd (phase ▸ trivial) calm

theorem Preparation.of_preparing
    {self : System P} (preparation : self.Preparation)
    {session : SessionKey} {command : DeviceCommand}
    (preparing : self.node.phase = .preparing session command) :
    Unprepared self.commands.items ∧ self.device.Free ∧ self.reply = .none ∧
      ¬ Settles session (self.device.Holds session) self.commands.items ∧
      ∃ key, command = .prepare session key := by
  cases preparation with
  | none calm =>
      exact absurd (preparing ▸ trivial) calm
  | unsent other key phase unprepared free unanswered released =>
      rw [preparing] at phase
      cases phase
      exact ⟨unprepared, free, unanswered, released, key, rfl⟩
  | queued other key ahead phase =>
      rw [preparing] at phase
      cases phase
  | initiating other runtime packets phase =>
      rw [preparing] at phase
      cases phase
  | answering other events result phase =>
      rw [preparing] at phase
      cases phase
  | answered other result phase =>
      rw [preparing] at phase
      cases phase

theorem Preparation.of_reply
    {self : System P} (preparation : self.Preparation)
    {result : Except String Unit} (replied : self.reply = some result) :
    self.commands.items = [] ∧ self.device.Free := by
  cases preparation with
  | none calm unprepared free unanswered =>
      rw [replied] at unanswered
      cases unanswered
  | unsent session key phase unprepared free unanswered =>
      rw [replied] at unanswered
      cases unanswered
  | queued session key ahead phase queue unprepared free unanswered =>
      rw [replied] at unanswered
      cases unanswered
  | initiating session runtime packets phase empty pending absent
      unanswered =>
      rw [replied] at unanswered
      cases unanswered
  | answering session events earlier phase empty pending unanswered =>
      rw [replied] at unanswered
      cases unanswered
  | answered session earlier phase empty free =>
      exact ⟨empty, free⟩

theorem Preparation.of_queue
    {self : System P} (preparation : self.Preparation)
    {session : SessionKey} {key : String} {rest : List DeviceCommand}
    (queue : self.commands.items = .prepare session key :: rest) :
    self.node.phase = .awaiting session ∧ rest = [] ∧
      ¬ self.device.Holds session ∧ self.reply = .none := by
  have first : .prepare session key ∈ self.commands.items := by
    rw [queue]
    exact List.mem_cons_self
  cases preparation with
  | none calm unprepared =>
      exact absurd (List.mem_append_left _ first) (unprepared session key)
  | unsent other otherKey phase unprepared =>
      exact absurd first (unprepared session key)
  | queued other otherKey ahead phase items unprepared free unanswered
      released =>
      rw [items] at queue
      cases ahead with
      | nil =>
          cases queue
          exact ⟨phase, rfl, released, unanswered⟩
      | cons before later =>
          cases queue
          exact absurd List.mem_cons_self (unprepared session key)
  | initiating other runtime packets phase empty =>
      rw [empty] at queue
      cases queue
  | answering other events result phase empty =>
      rw [empty] at queue
      cases queue
  | answered other result phase empty =>
      rw [empty] at queue
      cases queue

theorem Preparation.of_initiate
    {self : System P} (preparation : self.Preparation)
    {session : SessionKey} {runtime : SessionRuntime}
    {packets : List Bytes} {rest : List DeviceAction}
    (first :
      self.device.pending = .initiate session runtime packets :: rest) :
    self.node.phase = .awaiting session ∧ rest = [] ∧
      self.commands.items = [] ∧
      self.device.sessions.lookup session = .none := by
  have busy : ¬ self.device.Free := by
    intro free
    exact (free _ (first ▸ List.mem_cons_self)).1 session runtime packets rfl
  cases preparation with
  | none calm unprepared free =>
      contradiction
  | unsent other key phase unprepared free =>
      contradiction
  | queued other key ahead phase items unprepared free =>
      contradiction
  | initiating other held others phase empty pending absent =>
      rw [pending] at first
      cases first
      exact ⟨phase, rfl, empty, absent⟩
  | answering other events result phase empty pending =>
      rw [pending] at first
      cases events with
      | nil =>
          cases first
      | cons event later =>
          cases first
  | answered other result phase empty free =>
      contradiction

/-- Only the phase, the commands, the device and the reply matter. -/
theorem Preparation.congr
    {self next : System P} (preparation : self.Preparation)
    (sameNode : next.node = self.node)
    (sameDevice : next.device = self.device)
    (sameCommands : next.commands = self.commands)
    (sameReply : next.reply = self.reply) : next.Preparation := by
  obtain ⟨node, device, commands, events, reply, pollReady, control,
    inbound⟩ := next
  subst sameNode sameDevice sameCommands sameReply
  cases preparation with
  | none calm unprepared free unanswered =>
      exact .none calm unprepared free unanswered
  | unsent session key phase unprepared free unanswered released =>
      exact .unsent session key phase unprepared free unanswered released
  | queued session key ahead phase queue unprepared free unanswered
      released =>
      exact .queued session key ahead phase queue unprepared free unanswered
        released
  | initiating session runtime packets phase empty pending absent
      unanswered =>
      exact .initiating session runtime packets phase empty pending absent
        unanswered
  | answering session before result phase empty pending unanswered =>
      exact .answering session before result phase empty pending unanswered
  | answered session result phase empty free answered =>
      exact .answered session result phase empty free answered

/-- The device goes on with a `prepare`, or is busy with something else. -/
theorem Preparation.served
    {self next : System P} (preparation : self.Preparation)
    {command : Option DeviceCommand} {effect : DeviceTask.DeviceEffect}
    (sameNode : next.node = self.node)
    (turn : self.device.Turn command next.device effect)
    (taken : self.commands.items = command.toList ++ next.commands.items)
    (answer : next.reply = effect.answer self.reply) :
    next.Preparation := by
  cases preparation with
  | none calm unprepared free unanswered =>
      have outstanding :
          self.outstanding = command.toList ++ next.outstanding := by
        simp [System.outstanding, taken, sameNode]
      rw [outstanding] at unprepared
      obtain ⟨notPrepare, stillUnprepared⟩ := unprepared.front
      obtain ⟨stillFree, silent⟩ := turn.free free notPrepare
      refine .none (sameNode ▸ calm) stillUnprepared stillFree ?_
      rw [answer, silent, unanswered]
  | unsent session key phase unprepared free unanswered released =>
      rw [taken] at unprepared released
      obtain ⟨notPrepare, stillUnprepared⟩ := unprepared.front
      obtain ⟨stillFree, silent⟩ := turn.free free notPrepare
      refine .unsent session key (sameNode ▸ phase) stillUnprepared stillFree
        ?_ (turn.released released)
      rw [answer, silent, unanswered]
  | queued session key ahead phase queue unprepared free unanswered
      released =>
      rw [queue] at taken
      rcases front_of_last taken with
        ⟨later, rfl, rest⟩ | ⟨rfl, rfl, empty⟩
      · obtain ⟨notPrepare, stillUnprepared⟩ := unprepared.front
        obtain ⟨stillFree, silent⟩ := turn.free free notPrepare
        refine .queued session key later (sameNode ▸ phase) rest
          stillUnprepared stillFree ?_ (turn.released released)
        rw [answer, silent, unanswered]
      · -- The device takes the `prepare` itself.
        obtain ⟨idle, rfl, outcome⟩ := turn.of_prepare
        have absent :
            self.device.sessions.lookup session = Option.none := by
          by_contra present
          exact released (Or.inl present)
        have stillUnanswered : next.reply = Option.none :=
          answer.trans unanswered
        rcases outcome with ⟨runtime, packets, same⟩ | ⟨error, same⟩
        · exact .initiating session runtime packets (sameNode ▸ phase) empty
            (by rw [same]) (by rw [same, absent]) stillUnanswered
        · exact .answering session [] (.error error) (sameNode ▸ phase)
            empty (by rw [same]; rfl) stillUnanswered
  | initiating session runtime packets phase empty pending absent
      unanswered =>
      rw [empty] at taken
      have stillEmpty := (List.nil_eq_append_iff.mp taken).2
      obtain ⟨silent, outcome⟩ := turn.of_initiate pending
      have stillUnanswered : next.reply = Option.none := by
        rw [answer, silent, unanswered]
      rcases outcome with ⟨fewer, same⟩ | started | ⟨_, same⟩
      · exact .initiating session runtime fewer (sameNode ▸ phase)
          stillEmpty (by rw [same]) (by rw [same, absent]) stillUnanswered
      · exact .answering session [.handshakeStarted session] (.ok ())
          (sameNode ▸ phase) stillEmpty started stillUnanswered
      · exact .answering session [] (.error DeviceTask.transportStopped)
          (sameNode ▸ phase) stillEmpty (by rw [same]; rfl) stillUnanswered
  | answering session events result phase empty pending unanswered =>
      rw [empty] at taken
      have stillEmpty := (List.nil_eq_append_iff.mp taken).2
      rcases turn.of_reply pending with ⟨rfl, idle⟩ |
        ⟨silent, event, later, _, answering⟩
      · refine .answered session result (sameNode ▸ phase) stillEmpty ?_
          answer
        simp [DeviceTask.Free, idle]
      · refine .answering session later result (sameNode ▸ phase)
          stillEmpty answering ?_
        rw [answer, silent, unanswered]
  | answered session result phase empty free answered =>
      rw [empty] at taken
      obtain ⟨none, stillEmpty⟩ := List.nil_eq_append_iff.mp taken
      rw [Option.toList_eq_nil_iff] at none
      have notPrepare :
          ∀ session key, command ≠ some (.prepare session key) := by
        simp [none]
      obtain ⟨stillFree, silent⟩ := turn.free free notPrepare
      refine .answered session result (sameNode ▸ phase) stillEmpty
        stillFree ?_
      rw [answer, silent, answered]

variable [PolicyRules P]

theorem Preparation.step
    {self next : System P} {input : SystemInput}
    {output : Option RelayPacket}
    (preparation : self.Preparation)
    (tracked :
      ∀ session,
        Settles session (self.device.Holds session) self.outstanding →
        self.Tracks session)
    (turn : self.Turn input next output) : next.Preparation := by
  cases turn with
  | arrived sameNode sameDevice sameCommands sameEvents sameReply =>
      exact preparation.congr sameNode sameDevice sameCommands sameReply
  | selected snapshot now order arm popped isSelect chosen nodeTurn
      sameDevice sameCommands events sameReply =>
      obtain ⟨_, _, _, _, _, notSent, notReplied⟩ := ready_cases chosen
      have selecting := nodeTurn.selecting notSent notReplied
      obtain ⟨unprepared, free, unanswered⟩ :=
        preparation.of_calm (by simp [selecting, LoopPhase.Calling])
      have queue : self.outstanding = self.commands.items := by
        simp [outstanding, selecting]
      rw [queue] at unprepared
      have stillFree : next.device.Free := sameDevice ▸ free
      have stillUnanswered := sameReply.trans unanswered
      cases nodeTurn.account selecting with
      | dropped _ sessions _ calm unsent _ =>
          refine .none calm ?_ stillFree stillUnanswered
          simp only [Unprepared, outstanding, sameCommands, unsent]
          simpa [Unprepared] using unprepared
      | relayed packet session source datagram phase sameManager =>
          refine .none (by simp [phase, LoopPhase.Calling]) ?_ stillFree
            stillUnanswered
          simp only [Unprepared, outstanding, sameCommands, phase]
          simpa [Unprepared] using unprepared
      | accepted source ticket receivedAt sender accepts manager phase =>
          refine .unsent ticket.session ticket.remotePublicKey phase
            (sameCommands ▸ unprepared) stillFree stillUnanswered ?_
          intro settled
          rw [sameDevice, sameCommands, ← queue] at settled
          exact tracked ticket.session settled accepts.absent
      | failed session receivedAt visited phase _ =>
          refine .none (by simp [phase, LoopPhase.Calling]) ?_ stillFree
            stillUnanswered
          simp only [Unprepared, outstanding, sameCommands, phase]
          simpa [Unprepared] using unprepared
  | sent command nodeTurn sameDevice queued sameEvents sameReply =>
      rcases nodeTurn.of_sent with
        ⟨first, rest, sending, same, reached⟩ |
          ⟨session, first, preparing, same, reached⟩
      · obtain ⟨unprepared, free, unanswered⟩ :=
          preparation.of_calm (by simp [sending, LoopPhase.Calling])
        rw [← outstanding_of_sent nodeTurn queued] at unprepared
        refine .none ?_ unprepared (sameDevice ▸ free)
          (sameReply.trans unanswered)
        rw [reached]
        cases rest <;> exact fun calling => calling
      · cases same
        obtain ⟨unprepared, free, unanswered, released, key, rfl⟩ :=
          preparation.of_preparing preparing
        refine .queued session key self.commands.items (by simp [reached])
          queued unprepared (sameDevice ▸ free)
          (sameReply.trans unanswered) ?_
        rw [sameDevice]
        exact released
  | answered result replied nodeTurn sameDevice sameCommands sameEvents
      unanswered =>
      obtain ⟨session, awaiting, outcome⟩ := nodeTurn.of_replied
      have selecting : next.node.phase = .selecting := by
        rcases outcome with ⟨_, reached⟩ | ⟨_, reached⟩
        · simp [reached]
        · simp [reached]
      obtain ⟨empty, free⟩ := preparation.of_reply replied
      refine .none (by simp [selecting, LoopPhase.Calling]) ?_
        (sameDevice ▸ free) unanswered
      simp [Unprepared, outstanding, sameCommands, empty, selecting]
  | served command effect origin sameNode deviceTurn taken events answer =>
      exact preparation.served sameNode deviceTurn taken answer

end System

end WgLink
