import WgLink.Preparation

/-!
# Manager and device agree at rest

Applying every command that is still on its way to what the device holds gives
what the manager tracks, apart from sessions whose failure has not reached the
manager yet.  The equation is kept by every step unless a session is accepted
or prepared while a failure of its earlier tunnel is still to come.
-/

namespace WgLink.System

open WgLink.Library

variable {P : Type}

/-- The `prepare` of the loop has failed, and the loop has yet to learn it. -/
def CallFailed (self : System P) : Prop :=
  ∃ error,
    self.reply = some (.error error) ∨
      .reply (.error error) ∈ self.device.pending

/-- The manager has yet to learn that the session has failed. -/
def FailurePending (self : System P) (session : SessionKey) : Prop :=
  self.Announced (.sessionFailed session) ∨
    (self.node.phase = .awaiting session ∧ self.CallFailed)

/-- The device will hold the sessions that the manager has, apart from those
whose failure the manager has yet to learn. -/
def Agrees (self : System P) : Prop :=
  ∀ session,
    Settles session (self.device.Holds session) self.outstanding ↔
      self.Tracks session ∧ ¬ self.FailurePending session

/-- In this step the device gives a tunnel of the session up. -/
def Fails (record : SystemRecord P) (session : SessionKey) : Prop :=
  .emit (.sessionFailed session) ∉ record.before.device.pending ∧
    .emit (.sessionFailed session) ∈ record.after.device.pending

/-- A session is accepted only when no failure of an earlier tunnel of that
session is still announced, and no earlier tunnel fails while the new one waits
to be set up. -/
structure KeepsFailuresFresh (record : SystemRecord P) : Prop where
  accepted :
    ∀ ticket,
      record.before.AcceptsTicket record.input ticket →
      ¬ record.before.Announced (.sessionFailed ticket.session)
  failed :
    ∀ session, Fails record session → ¬ record.before.Preparing session

/-- In this step no failure is announced. -/
def withoutFailure (record : SystemRecord P) : Bool :=
  (record.before.events.items.all fun event =>
      !(event matches .sessionFailed _)) &&
    ((record.before.device.pending ++ record.after.device.pending).all
      fun action => !(action matches .emit (.sessionFailed _)))

theorem keepsFailuresFresh_of_withoutFailure
    {record : SystemRecord P} (checked : withoutFailure record = true) :
    KeepsFailuresFresh record := by
  simp only [withoutFailure, Bool.and_eq_true, List.all_eq_true] at checked
  obtain ⟨queue, task⟩ := checked
  constructor
  · intro ticket _ announced
    rcases announced with queued | pending
    · have impossible := queue _ queued
      cases impossible
    · have impossible := task _ (List.mem_append_left _ pending)
      cases impossible
  · intro session fails
    obtain ⟨_, reported⟩ := fails
    have impossible := task _ (List.mem_append_right _ reported)
    cases impossible

/-- While the device is free and nothing has been answered, no call has
failed. -/
theorem not_callFailed_of_free
    {self : System P} (free : self.device.Free)
    (unanswered : self.reply = none) : ¬ self.CallFailed := by
  intro failed
  rcases failed with ⟨error, replied | pending⟩
  · rw [unanswered] at replied
    cases replied
  · exact free.not_replying _ pending

/-- A failed call stays failed until the manager takes the response. -/
theorem callFailed_iff_of_served
    {self next : System P} (preparation : self.Preparation)
    {command : Option DeviceCommand} {effect : DeviceTask.DeviceEffect}
    (turn : self.device.Turn command next.device effect)
    (taken : self.commands.items = command.toList ++ next.commands.items)
    (answer : next.reply = effect.answer self.reply)
    {session : SessionKey}
    (awaiting : self.node.phase = .awaiting session)
    (sound : ¬ self.device.Breaks command next.device session) :
    next.CallFailed ↔ self.CallFailed := by
  by_cases prepares :
      ∃ prepared key, command = some (.prepare prepared key)
  · obtain ⟨prepared, key, rfl⟩ := prepares
    obtain ⟨phase, _, _, unanswered⟩ := preparation.of_queue taken
    rw [awaiting] at phase
    cases phase
    obtain ⟨idle, rfl, outcome⟩ := turn.of_prepare
    have stillUnanswered : next.reply = none := answer.trans unanswered
    have earlier : ¬ self.CallFailed := by
      simp [CallFailed, unanswered, idle]
    refine iff_of_false ?_ earlier
    rcases outcome with ⟨runtime, packets, reached⟩ | ⟨error, reached⟩
    · simp [CallFailed, stillUnanswered, reached]
    · exact absurd (.unprepared key error idle rfl reached) sound
  have notPrepare :
      ∀ prepared key, command ≠ some (.prepare prepared key) :=
    fun prepared key same => prepares ⟨prepared, key, same⟩
  cases preparation with
  | none calm =>
      exact absurd (awaiting ▸ trivial) calm
  | unsent other key phase =>
      rw [awaiting] at phase
      cases phase
  | queued other key ahead phase queue unprepared free unanswered =>
      obtain ⟨stillFree, silent⟩ := turn.free free notPrepare
      have stillUnanswered : next.reply = none := by
        rw [answer, silent, unanswered]
      exact iff_of_false (not_callFailed_of_free stillFree stillUnanswered)
        (not_callFailed_of_free free unanswered)
  | initiating other runtime packets phase empty pending absent
      unanswered =>
      rw [awaiting] at phase
      cases phase
      obtain ⟨silent, outcome⟩ := turn.of_initiate pending
      have stillUnanswered : next.reply = none := by
        rw [answer, silent, unanswered]
      have earlier : ¬ self.CallFailed := by
        simp [CallFailed, unanswered, pending]
      refine iff_of_false ?_ earlier
      rcases outcome with ⟨fewer, reached⟩ | started | ⟨none, reached⟩
      · simp [CallFailed, stillUnanswered, reached]
      · simp [CallFailed, stillUnanswered, started]
      · exact absurd (.refused runtime packets [] none pending reached) sound
  | answering other events result phase empty pending unanswered =>
      rcases turn.of_reply pending with ⟨rfl, idle⟩ |
        ⟨silent, event, later, _, answering⟩
      · have replied : next.reply = some result := answer
        simp [CallFailed, replied, idle, unanswered, pending, eq_comm]
      · have stillUnanswered : next.reply = none := by
          rw [answer, silent, unanswered]
        simp [CallFailed, stillUnanswered, answering, unanswered, pending]
  | answered other result phase empty free answered =>
      obtain ⟨stillFree, silent⟩ := turn.free free notPrepare
      have replied : next.reply = self.reply := by rw [answer, silent]
      simp [CallFailed, replied, free.not_replying, stillFree.not_replying]

/-- A session that breaks is lost, and the manager has yet to learn it. -/
theorem lost_of_breaks
    {self next : System P} (agrees : self.Agrees)
    (preparation : self.Preparation)
    {command : Option DeviceCommand} {effect : DeviceTask.DeviceEffect}
    (sameNode : next.node = self.node)
    (turn : self.device.Turn command next.device effect)
    (taken : self.commands.items = command.toList ++ next.commands.items)
    {session : SessionKey}
    (breaks : self.device.Breaks command next.device session)
    (spared :
      .emit (.sessionFailed session) ∉ self.device.pending →
      .emit (.sessionFailed session) ∈ next.device.pending →
      ¬ self.Preparing session) :
    ¬ Settles session (next.device.Holds session) next.outstanding ∧
      next.FailurePending session := by
  cases breaks with
  | failed rest none reached later =>
      have reported :
          .emit (.sessionFailed session) ∈ next.device.pending := by
        simp [reached, DeviceTask.failSession]
      refine ⟨?_, Or.inl (Or.inr reported)⟩
      by_cases earlier : .emit (.sessionFailed session) ∈ self.device.pending
      · intro settled
        have queue : self.outstanding = next.outstanding := by
          simp [outstanding, taken, sameNode, none]
        have before :
            Settles session (self.device.Holds session) self.outstanding := by
          rw [queue]
          subst none
          exact settles_mono turn.settles_of_holds settled
        exact ((agrees session).mp before).2 (Or.inl (Or.inr earlier))
      · have settled : ¬ next.Preparing session := fun waiting =>
          spared earlier reported
            (preparing_of_served sameNode turn taken waiting)
        have released : next.device.Holds session ↔ False := by
          refine iff_of_false ?_ id
          intro holds
          rcases holds with present | initiating
          · simp [reached, DeviceTask.failSession] at present
          · exact settled (Or.inr initiating)
        rw [settles_congr released]
        exact not_settles_false fun key member =>
          settled (Or.inl ⟨key, member⟩)
  | unprepared key error idle prepare reached =>
      subst prepare
      obtain ⟨awaiting, empty, released, _⟩ := preparation.of_queue taken
      have stillAwaiting : next.node.phase = .awaiting session :=
        sameNode ▸ awaiting
      refine ⟨?_, Or.inr ⟨stillAwaiting, error, Or.inr (by simp [reached])⟩⟩
      have emptied : next.commands.items = [] := empty
      have nothing : next.outstanding = [] := by
        simp [outstanding, emptied, stillAwaiting]
      rw [nothing, settles_nil]
      intro holds
      rcases holds with present | ⟨runtime, packets, member⟩
      · exact released (Or.inl (by simpa [reached] using present))
      · simp [reached] at member
  | refused runtime packets rest none first reached =>
      obtain ⟨awaiting, rfl, empty, absent⟩ := preparation.of_initiate first
      have stillAwaiting : next.node.phase = .awaiting session :=
        sameNode ▸ awaiting
      refine ⟨?_, Or.inr ⟨stillAwaiting, DeviceTask.transportStopped,
        Or.inr (by simp [reached])⟩⟩
      have nothing : next.outstanding = [] := by
        rw [empty] at taken
        simp [outstanding, (List.nil_eq_append_iff.mp taken).2,
          stillAwaiting]
      rw [nothing, settles_nil]
      intro holds
      rcases holds with present | ⟨held, others, member⟩
      · exact present (by simp [reached, absent])
      · simp [reached] at member

/-- The device keeps the agreement unless it gives up a tunnel that is being
replaced. -/
theorem Agrees.served
    {self next : System P} (agrees : self.Agrees)
    (preparation : self.Preparation)
    {command : Option DeviceCommand} {effect : DeviceTask.DeviceEffect}
    (sameNode : next.node = self.node)
    (turn : self.device.Turn command next.device effect)
    (taken : self.commands.items = command.toList ++ next.commands.items)
    (events : next.events.items = self.events.items ++ effect.events)
    (answer : next.reply = effect.answer self.reply)
    (spared :
      ∀ session,
        .emit (.sessionFailed session) ∉ self.device.pending →
        .emit (.sessionFailed session) ∈ next.device.pending →
        ¬ self.Preparing session) :
    next.Agrees := by
  intro session
  by_cases breaks : self.device.Breaks command next.device session
  · have lost :=
      lost_of_breaks agrees preparation sameNode turn taken breaks
        (spared session)
    exact iff_of_false lost.1 fun tracked => tracked.2 lost.2
  · have settles :
        Settles session (next.device.Holds session) next.outstanding ↔
          Settles session (self.device.Holds session) self.outstanding := by
      have queue :
          self.outstanding = command.toList ++ next.outstanding := by
        simp [outstanding, taken, sameNode]
      rw [queue, settles_append]
      exact settles_congr (turn.settles breaks).symm _
    have announced :
        next.Announced (.sessionFailed session) ↔
          self.Announced (.sessionFailed session) := by
      constructor
      · intro announced
        rcases announced with queued | pending
        · rw [events, List.mem_append] at queued
          rcases queued with earlier | sent
          · exact Or.inl earlier
          · exact Or.inr (turn.event_pending sent)
        · rcases turn.failed_pending pending with
            earlier | ⟨rest, none, reached, later⟩
          · exact Or.inr earlier
          · exact absurd (.failed rest none reached later) breaks
      · intro announced
        rcases announced with queued | pending
        · exact Or.inl (by simp [events, queued])
        · rcases turn.emit_kept pending with sent | still
          · exact Or.inl (by simp [events, sent])
          · exact Or.inr still
    have pendingFailure :
        next.FailurePending session ↔ self.FailurePending session := by
      unfold FailurePending
      rw [announced, sameNode]
      refine or_congr_right (and_congr_right fun awaiting => ?_)
      exact callFailed_iff_of_served preparation turn taken answer awaiting
        breaks
    have tracks : next.Tracks session ↔ self.Tracks session := by
      rw [Tracks, sameNode, Tracks]
    rw [settles, tracks, pendingFailure]
    exact agrees session

/-- Outside a call a failure is pending when its event is announced. -/
theorem failurePending_iff_of_calm
    {self : System P} (calm : ¬ self.node.phase.Calling)
    (session : SessionKey) :
    self.FailurePending session ↔
      self.Announced (.sessionFailed session) := by
  apply or_iff_left
  intro called
  obtain ⟨awaiting, _⟩ := called
  exact calm (awaiting ▸ trivial)

/-- An arm takes no event but the one that it handles. -/
theorem announced_iff_of_taken
    {self next : System P} {arm : NodeInput}
    (sameDevice : next.device = self.device)
    (events : self.events.items = takenEvents arm ++ next.events.items)
    {event : DeviceEvent}
    (other : ∀ receivedAt order, arm ≠ .event event receivedAt order) :
    next.Announced event ↔ self.Announced event := by
  have notTaken : event ∉ takenEvents arm := by
    cases arm with
    | event taken receivedAt order =>
        intro member
        cases List.mem_singleton.mp member
        exact other receivedAt order rfl
    | _ =>
        exact List.not_mem_nil
  simp [Announced, sameDevice, events, notTaken]

/-- The arms of the loop keep the agreement unless a session is accepted while
its failure is announced. -/
theorem Agrees.selected
    {self next : System P} (agrees : self.Agrees)
    {arm : NodeInput}
    (selecting : self.node.phase = .selecting)
    (account : self.node.Account next.node arm)
    (sameDevice : next.device = self.device)
    (sameCommands : next.commands = self.commands)
    (events : self.events.items = takenEvents arm ++ next.events.items)
    (fresh :
      ∀ source ticket now sender,
        arm = .control ⟨source, .ticket ticket⟩ now →
        self.node.Accepts source ticket now sender →
        ¬ self.Announced (.sessionFailed ticket.session)) :
    next.Agrees := by
  intro session
  have calm : ¬ self.node.phase.Calling := by
    simp [selecting, LoopPhase.Calling]
  have queue : self.outstanding = self.commands.items := by
    simp [outstanding, selecting]
  have before := agrees session
  rw [queue, failurePending_iff_of_calm calm] at before
  have announced :
      (∀ receivedAt order,
        arm ≠ .event (.sessionFailed session) receivedAt order) →
      (next.Announced (.sessionFailed session) ↔
        self.Announced (.sessionFailed session)) :=
    announced_iff_of_taken sameDevice events
  cases account with
  | dropped _ sessions other still unsent tracked =>
      have tracks :
          next.Tracks session ↔ self.Tracks session ∧ session ∉ sessions := by
        simp [Tracks, tracked]
      rw [failurePending_iff_of_calm still,
        announced fun receivedAt order => other session receivedAt order,
        outstanding, unsent, sameCommands, sameDevice, settles_append,
        settles_removes, before, tracks]
      exact and_right_comm
  | relayed packet relayedSession source datagram phase sameManager =>
      have still : ¬ next.node.phase.Calling := by
        simp [phase, LoopPhase.Calling]
      have tracks : next.Tracks session ↔ self.Tracks session := by
        simp [Tracks, sameManager]
      rw [failurePending_iff_of_calm still, announced (by simp), outstanding,
        phase, LoopPhase.unsent_sending, sameCommands, sameDevice,
        settles_append, tracks]
      exact before
  | accepted source ticket receivedAt sender accepts manager phase =>
      have notAwaiting :
          next.FailurePending session ↔
            next.Announced (.sessionFailed session) := by
        simp [FailurePending, phase]
      rw [notAwaiting, announced (by simp), outstanding, phase,
        LoopPhase.unsent_preparing, sameCommands, sameDevice,
        settles_append, settles_cons, settles_nil]
      by_cases same : session = ticket.session
      · subst same
        refine iff_of_true (Or.inr rfl) ⟨?_, ?_⟩
        · simp [Tracks, manager, Node.accepting]
        · exact fresh source ticket receivedAt sender rfl accepts
      · have tracks : next.Tracks session ↔ self.Tracks session := by
          simp [Tracks, manager, Node.accepting, same]
        rw [tracks, ← before]
        exact or_iff_left fun equal => same equal.symm
  | failed failedSession receivedAt order phase tracked =>
      have still : ¬ next.node.phase.Calling := by
        simp [phase, LoopPhase.Calling]
      rw [failurePending_iff_of_calm still, outstanding, phase,
        LoopPhase.unsent_selecting, List.append_nil, sameCommands,
        sameDevice]
      by_cases same : session = failedSession
      · subst same
        apply iff_of_false
        · intro settled
          refine (before.mp settled).2 (Or.inl ?_)
          simp [events, takenEvents]
        · intro kept
          obtain ⟨present, _⟩ := kept
          exact present ((tracked session).mpr (Or.inr rfl))
      · have tracks : next.Tracks session ↔ self.Tracks session := by
          simp [Tracks, tracked, same]
        have other :
            ∀ at' visited,
              NodeInput.event (.sessionFailed failedSession) receivedAt
                  order ≠
                .event (.sessionFailed session) at' visited := by
          intro at' visited equal
          cases equal
          exact same rfl
        rw [announced other, tracks]
        exact before

/-- Nothing is queued and no operation is in progress. -/
structure Quiescent (system : System P) : Prop where
  selecting : system.node.phase = .selecting
  commands : system.commands.items = []
  events : system.events.items = []
  idle : system.device.pending = []

instance (system : System P) : Decidable system.Quiescent :=
  decidable_of_iff
    (system.node.phase = .selecting ∧ system.commands.items = [] ∧
      system.events.items = [] ∧ system.device.pending = [])
    ⟨fun ⟨selecting, commands, events, idle⟩ =>
        ⟨selecting, commands, events, idle⟩,
      fun quiescent =>
        ⟨quiescent.selecting, quiescent.commands, quiescent.events,
          quiescent.idle⟩⟩

/-- The device holds exactly the sessions that the manager has. -/
def SessionsAgree (self : System P) : Prop :=
  ∀ session,
    self.device.sessions.lookup session ≠ none ↔ self.Tracks session

/-- At rest nothing is left to be done or to be learnt. -/
theorem Agrees.sessionsAgree
    {self : System P} (agrees : self.Agrees) (quiescent : self.Quiescent) :
    self.SessionsAgree := by
  intro session
  have before := agrees session
  have nothing : self.outstanding = [] := by
    simp [outstanding, quiescent.selecting, quiescent.commands]
  have learnt : ¬ self.FailurePending session := by
    simp [FailurePending, Announced, quiescent.selecting, quiescent.events,
      quiescent.idle]
  simpa [nothing, learnt, DeviceTask.Holds, quiescent.idle] using before

variable [PolicyRules P]

theorem Agrees.sent
    {self next : System P} (agrees : self.Agrees)
    (preparation : self.Preparation) {command : DeviceCommand}
    (turn : self.node.Turn .sent next.node (some command))
    (sameDevice : next.device = self.device)
    (queued : next.commands.items = self.commands.items ++ [command])
    (sameEvents : next.events = self.events)
    (sameReply : next.reply = self.reply) :
    next.Agrees := by
  intro session
  have announced :
      next.Announced (.sessionFailed session) ↔
        self.Announced (.sessionFailed session) := by
    simp [Announced, sameDevice, sameEvents]
  have sameManager : next.node.manager = self.node.manager := by
    rcases turn.of_sent with
      ⟨first, rest, _, _, reached⟩ | ⟨other, first, _, _, reached⟩
    · simp [reached]
    · simp [reached]
  have pendingFailure :
      next.FailurePending session ↔ self.FailurePending session := by
    rcases turn.of_sent with
      ⟨first, rest, sending, _, reached⟩ |
        ⟨other, first, preparing, _, reached⟩
    · have calm : ¬ self.node.phase.Calling := by
        simp [sending, LoopPhase.Calling]
      have still : ¬ next.node.phase.Calling := by
        rw [reached]
        cases rest <;> exact fun calling => calling
      rw [failurePending_iff_of_calm calm, failurePending_iff_of_calm still]
      exact announced
    · obtain ⟨_, free, unanswered, _⟩ := preparation.of_preparing preparing
      have sound : ¬ next.CallFailed :=
        not_callFailed_of_free (sameDevice ▸ free)
          (sameReply.trans unanswered)
      simp [FailurePending, announced, sound, preparing]
  have tracks : next.Tracks session ↔ self.Tracks session := by
    simp [Tracks, sameManager]
  rw [outstanding_of_sent turn queued, sameDevice, tracks, pendingFailure]
  exact agrees session

theorem Agrees.answered
    {self next : System P} (agrees : self.Agrees)
    (preparation : self.Preparation) {result : Except String Unit}
    (replied : self.reply = some result)
    (turn : self.node.Turn (.replied result) next.node none)
    (sameDevice : next.device = self.device)
    (sameCommands : next.commands = self.commands)
    (sameEvents : next.events = self.events) :
    next.Agrees := by
  intro session
  obtain ⟨awaited, awaiting, outcome⟩ := turn.of_replied
  obtain ⟨empty, free⟩ := preparation.of_reply replied
  have selecting : next.node.phase = .selecting := by
    rcases outcome with ⟨_, reached⟩ | ⟨_, reached⟩
    · simp [reached]
    · simp [reached]
  have calm : ¬ next.node.phase.Calling := by
    simp [selecting, LoopPhase.Calling]
  have announced :
      next.Announced (.sessionFailed session) ↔
        self.Announced (.sessionFailed session) := by
    simp [Announced, sameDevice, sameEvents]
  have nothing : self.outstanding = [] := by
    simp [outstanding, empty, awaiting]
  have stillNothing : next.outstanding = [] := by
    simp [outstanding, sameCommands, empty, selecting]
  have before := agrees session
  rw [nothing] at before
  rw [stillNothing, sameDevice, failurePending_iff_of_calm calm, announced]
  rcases outcome with ⟨rfl, reached⟩ | ⟨⟨error, rfl⟩, reached⟩
  · have pendingFailure :
        self.FailurePending session ↔
          self.Announced (.sessionFailed session) := by
      simp [FailurePending, CallFailed, replied, free.not_replying]
    have tracks : next.Tracks session ↔ self.Tracks session := by
      simp [Tracks, reached, ShortcutManager.markHandshaking_lookup_eq_none]
    rw [tracks, ← pendingFailure]
    exact before
  · have failed : self.CallFailed := ⟨error, Or.inl replied⟩
    by_cases same : session = awaited
    · subst same
      apply iff_of_false
      · intro settled
        exact (before.mp settled).2 (Or.inr ⟨awaiting, failed⟩)
      · intro kept
        obtain ⟨present, _⟩ := kept
        apply present
        simp [reached, ShortcutManager.fail_sessions]
    · have pendingFailure :
          self.FailurePending session ↔
            self.Announced (.sessionFailed session) := by
        apply or_iff_left
        intro called
        obtain ⟨phase, _⟩ := called
        rw [awaiting] at phase
        cases phase
        exact same rfl
      have tracks : next.Tracks session ↔ self.Tracks session := by
        simp [Tracks, reached, ShortcutManager.fail_sessions, same]
      rw [tracks, ← pendingFailure]
      exact before

theorem Agrees.step
    {record : SystemRecord P}
    (agrees : record.before.Agrees) (preparation : record.before.Preparation)
    (keeps : KeepsFailuresFresh record)
    (turn :
      record.before.Turn record.input record.after record.output) :
    record.after.Agrees := by
  obtain ⟨self, input, output, next⟩ := record
  cases turn with
  | arrived sameNode sameDevice sameCommands sameEvents sameReply =>
      intro session
      have before := agrees session
      unfold FailurePending CallFailed Announced outstanding Tracks at *
      rw [sameNode, sameDevice, sameCommands, sameEvents, sameReply]
      exact before
  | selected snapshot now order arm popped isSelect chosen nodeTurn
      sameDevice sameCommands events sameReply =>
      obtain ⟨_, _, _, _, _, notSent, notReplied⟩ := ready_cases chosen
      have selecting := nodeTurn.selecting notSent notReplied
      refine agrees.selected selecting (nodeTurn.account selecting)
        sameDevice sameCommands events ?_
      intro source ticket receivedAt sender same accepts
      subst same
      exact keeps.accepted ticket ⟨snapshot, now, order, source, receivedAt,
        popped, sender, isSelect, chosen, accepts⟩
  | sent command nodeTurn sameDevice queued sameEvents sameReply =>
      exact agrees.sent preparation nodeTurn sameDevice queued sameEvents
        sameReply
  | answered result replied nodeTurn sameDevice sameCommands sameEvents
      unanswered =>
      exact agrees.answered preparation replied nodeTurn sameDevice
        sameCommands sameEvents
  | served command effect origin sameNode deviceTurn taken events answer =>
      exact agrees.served preparation sameNode deviceTurn taken events answer
        fun session calm reported => keeps.failed session ⟨calm, reported⟩

variable [LawfulPolicyRules P]

theorem agrees_of_execution
    {log : List (SystemRecord P)} {system : System P}
    (execution : machine.Execution log system)
    (keeps : ∀ record ∈ log, KeepsFailuresFresh record) :
    system.Agrees ∧ system.Preparation := by
  refine @Machine.Execution.invariant _ _ _ machine
    (fun _ current => current.Agrees ∧ current.Preparation)
    KeepsFailuresFresh ?_ ?_ log system execution keeps
  · intro system starts
    obtain ⟨key, policy, snapshot, _, rfl⟩ := starts
    refine ⟨?_, .none id ?_ ?_ rfl⟩
    · intro session
      refine iff_of_false ?_ fun tracked => tracked.1 rfl
      intro holds
      rcases holds with present | ⟨runtime, packets, member⟩
      · exact present rfl
      · cases member
    · exact fun session key => List.not_mem_nil
    · exact fun action member => absurd member List.not_mem_nil
  · intro _ record invariant kept taken
    obtain ⟨agrees, preparation⟩ := invariant
    have turn := turn_of_takes taken
    refine ⟨agrees.step preparation kept turn, preparation.step ?_ turn⟩
    exact fun session settled => ((agrees session).mp settled).1

/-- At rest manager and device have the same sessions, in every run whose steps
keep the failures fresh. -/
theorem sessionsAgree_at_rest
    {log : List (SystemRecord P)} {system : System P}
    (execution : machine.Execution log system)
    (keeps : ∀ record ∈ log, KeepsFailuresFresh record)
    (quiescent : system.Quiescent) : system.SessionsAgree :=
  (agrees_of_execution execution keeps).1.sessionsAgree quiescent

/-! ## A stale failure -/

/-- The tunnel of the first session fails, that of the second goes on. -/
def failureInputs : List SystemInput :=
  [.timerTick [(testTicket 1).session, (testTicket 2).session],
    .act [.err "ConnectionExpired"] true,
    .act [] true,
    .act [.done] true,
    .act [] true]

/-- The tunnel of the first session fails before it is retired, and its event is
handled after the ticket was accepted again. -/
def staleFailureInputs : List SystemInput :=
  renewalInputs ++ failureInputs ++ replayInputs ++
    [turnInput [], turnInput []]

/-- Every call of the backends succeeds from here on. -/
def BackendsWork (self : System AtomicRouteManager.MockPolicy) : Prop :=
  self.node.manager.routes.policy.refusals = [] ∧
    self.routes.poisoned = false

theorem untracked_tunnel_remains :
    ∃ log system,
      machine.Execution log system ∧
      (∀ record ∈ log, record.before.BackendsWork) ∧
      system.Quiescent ∧
      ¬ system.SessionsAgree := by
  have ran :
      (machine.run testSystem staleFailureInputs).map
        (fun result =>
          (result.1.all fun record =>
              record.before.node.manager.routes.policy.refusals.isEmpty &&
                !record.before.routes.poisoned,
            decide result.2.Quiescent,
            result.2.device.sessions.lookup (testTicket 1).session,
            (result.2.node.manager.sessions.lookup
              (testTicket 1).session).isSome)) =
        some (true, true, some ⟨"remote", false⟩, false) := by
    decide +kernel
  obtain ⟨log, system, execution, observed⟩ :=
    Machine.exists_execution_of_run testSystem_starts ran
  simp only [Prod.mk.injEq, List.all_eq_true, Bool.and_eq_true,
    List.isEmpty_iff, Bool.not_eq_true', decide_eq_true_eq,
    Option.isSome_eq_false_iff, Option.isNone_iff_eq_none] at observed
  obtain ⟨willing, quiescent, held, untracked⟩ := observed
  refine ⟨log, system, execution, willing, quiescent, ?_⟩
  intro agree
  exact (agree (testTicket 1).session).mp (by simp [held]) untracked

/-- The renewal cuts over, and nothing else happens. -/
def cutOverInputs : List SystemInput :=
  renewalInputs ++
    [turnInput [(testTicket 1).session, (testTicket 2).session],
      .send,
      .takeCommand []]

theorem sessionsAgree_after_cut_over :
    ∃ log system,
      machine.Execution log
        (system : System AtomicRouteManager.MockPolicy) ∧
      system.Quiescent ∧
      system.Tracks (testTicket 2).session ∧
      system.SessionsAgree := by
  have ran :
      (machine.run testSystem cutOverInputs).map
        (fun result =>
          (result.1.all withoutFailure,
            decide result.2.Quiescent,
            (result.2.node.manager.sessions.lookup
              (testTicket 2).session).isSome)) =
        some (true, true, true) := by
    decide +kernel
  obtain ⟨log, system, execution, observed⟩ :=
    Machine.exists_execution_of_run testSystem_starts ran
  simp only [Prod.mk.injEq, List.all_eq_true, decide_eq_true_eq,
    Option.isSome_iff_ne_none] at observed
  obtain ⟨calm, quiescent, tracked⟩ := observed
  refine ⟨log, system, execution, quiescent, tracked,
    sessionsAgree_at_rest execution ?_ quiescent⟩
  intro record member
  exact keepsFailuresFresh_of_withoutFailure (calm record member)

end WgLink.System
