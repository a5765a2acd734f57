import WgLink.Shortcut.RouteOwnership

/-!
# Leases and replays

What a run of the manager promises about time: a ticket is accepted for a
bounded lease, nothing extends the lease afterwards, and an `expire` clears
whatever has run out.  The second half is about replays.  The manager knows a
ticket again only while it holds the session of that ticket, and the exact
condition under which no replay is taken for a new session says just that.
-/

namespace WgLink.ShortcutManager

open WgLink.Library

variable {R : Type}

/-- The call took `ticket` at `now` and answered with `shortcut`. -/
def Receives
    (call : Call R) (ticket : ShortcutTicket) (now : UInt64)
    (shortcut : PreparedShortcut) : Prop :=
  ∃ sender localKey,
    call.input = .receiveTicket ticket sender localKey now ∧
    call.output = .ok (.prepared shortcut)

/-- The call delivered a ticket that passes every check of the ticket
itself. -/
def Presents
    (call : Call R) (ticket : ShortcutTicket) (now : UInt64) : Prop :=
  call.input =
      .receiveTicket ticket ticket.issuerPublicKey
        ticket.recipientPublicKey now ∧
    ticket.validate now = .ok ()

/-- Every session is the one that an earlier call accepted, with the ticket of
that call. -/
def Accounted (log : List (Call R)) (self : ShortcutManager R) : Prop :=
  ∀ session managed,
    self.sessions.lookup session = some managed →
    session = managed.ticket.session ∧
    ∃ call ∈ log, ∃ now,
      Receives call managed.ticket now
        ⟨managed.ticket.session, managed.ticket, false⟩

theorem receives_of_output
    {call : Call R} {ticket : ShortcutTicket} {sender localKey : String}
    {now : UInt64} {shortcut : PreparedShortcut}
    (input : call.input = .receiveTicket ticket sender localKey now)
    (output : call.output.toOption = some (.prepared shortcut)) :
    Receives call ticket now shortcut := by
  refine ⟨sender, localKey, input, ?_⟩
  cases result : call.output with
  | error error =>
      rw [result] at output
      cases output
  | ok outcome =>
      rw [result] at output
      exact congrArg Except.ok (Option.some.inj output)

variable [RouteManager R]

section Steps

variable {admits : R → Prop} {call : Call R}

theorem receives_cases
    {ticket : ShortcutTicket} {now : UInt64} {shortcut : PreparedShortcut}
    (taken : (machine admits).Takes call)
    (received : Receives call ticket now shortcut) :
    ticket.validate now = .ok () ∧
      ((shortcut.alreadyPresent = true ∧
          call.before.sessions.lookup ticket.session ≠ none) ∨
        (shortcut = ⟨ticket.session, ticket, false⟩ ∧
          call.before.sessions.lookup ticket.session = none ∧
          Presents call ticket now)) := by
  obtain ⟨sender, localKey, input, output⟩ := received
  have result := leaves_of_step (step_of_takes taken)
  rw [input] at result
  rcases receiveTicket_cases call.before ticket sender localKey now with
    ⟨error, outcome⟩ | ⟨existing, present, valid, outcome⟩ |
      ⟨absent, valid, issuer, recipient, outcome⟩
  · have failed := result.2
    rw [outcome, output] at failed
    cases failed
  · have succeeded := result.2
    rw [outcome, output] at succeeded
    cases succeeded
    refine ⟨valid, Or.inl ⟨rfl, ?_⟩⟩
    rw [present]
    exact Option.some_ne_none existing
  · have succeeded := result.2
    rw [outcome, output] at succeeded
    cases succeeded
    refine ⟨valid, Or.inr ⟨rfl, absent, ?_, valid⟩⟩
    rw [input, issuer, recipient]

theorem receives_of_presents
    {ticket : ShortcutTicket} {now : UInt64}
    (taken : (machine admits).Takes call)
    (presented : Presents call ticket now)
    (absent : call.before.sessions.lookup ticket.session = none) :
    Receives call ticket now ⟨ticket.session, ticket, false⟩ := by
  obtain ⟨input, valid⟩ := presented
  refine ⟨_, _, input, ?_⟩
  have result := leaves_of_step (step_of_takes taken)
  rw [input] at result
  rw [result.2]
  simp [receiveTicket, valid, absent, Except.map]

theorem receives_of_accepts
    {session : SessionKey} {ticket : ShortcutTicket}
    (taken : (machine admits).Takes call)
    (accepts : Accepts call.before call.input session ticket) :
    session = ticket.session ∧
      ∃ now, Receives call ticket now ⟨ticket.session, ticket, false⟩ := by
  obtain ⟨sender, localKey, now, input, same, absent, valid, issuer,
    recipient⟩ := accepts
  refine ⟨same, now, receives_of_presents taken ⟨?_, valid⟩ (same ▸ absent)⟩
  rw [input, issuer, recipient]

end Steps

/-! ## Every session has been accepted -/

theorem accounted_of_execution
    {admits : R → Prop} {log : List (Call R)} {final : ShortcutManager R}
    (execution : (machine admits).Execution log final) :
    Accounted log final := by
  refine execution.invariant (fun manager started => ?_)
    (fun log call accounted _ taken => ?_) (fun _ _ => trivial)
  · obtain ⟨routes, _, rfl⟩ := started
    intro session managed found
    cases found
  · intro session managed found
    rcases step_tickets (step_of_takes taken) session managed found with
      ⟨earlier, present, same⟩ | accepts
    · obtain ⟨keyed, past, member, received⟩ :=
        accounted session earlier present
      rw [same]
      exact ⟨keyed, past, List.mem_cons_of_mem call member, received⟩
    · obtain ⟨keyed, now, received⟩ := receives_of_accepts taken accepts
      exact ⟨keyed, call, List.mem_cons_self, now, received⟩

/-! ## The lease bound -/

/-- Every deactivation that the operations of the run make succeeds. -/
structure DeactivationsSucceed (log : List (Call R)) : Prop where
  fail :
    ∀ call ∈ log, ∀ session,
      call.input = .fail session → FailRemovesRoute call.before session
  expire :
    ∀ call ∈ log, ∀ now order,
      call.input = .expire now order →
      call.before.ExpireRemovesRoutes now order

/-- A run whose `fail` and `expire` calls return has made no deactivation that
failed. -/
theorem deactivationsSucceed_of_ok
    {admits : R → Prop} {log : List (Call R)} {final : ShortcutManager R}
    (execution : (machine admits).Execution log final)
    (returned : ∀ call ∈ log, call.output.isOk = true) :
    DeactivationsSucceed log := by
  constructor
  · intro call member session isFail
    by_contra strands
    obtain ⟨⟨error, failed⟩, _⟩ := fail_strands strands
    obtain ⟨_, _, _, taken⟩ := execution.earlier_of_mem member
    have result := leaves_of_step (step_of_takes taken)
    rw [isFail] at result
    have ok := returned call member
    rw [result.2, failed] at ok
    cases ok
  · intro call member now order isExpire
    obtain ⟨_, _, _, taken⟩ := execution.earlier_of_mem member
    have result := leaves_of_step (step_of_takes taken)
    rw [isExpire] at result
    have ok := returned call member
    rw [result.2.2] at ok
    apply (expire_ok_iff call.before now order).mp
    cases outcome : (call.before.expire now order).2 with
    | error error =>
        rw [outcome] at ok
        cases ok
    | ok expired =>
        rw [expired_eq outcome]

/-- After an `expire` that succeeds no session has run out. -/
theorem expire_unexpired
    {self : ShortcutManager R} {now : UInt64}
    {order expired : List SessionKey}
    (iterates : HashMap.Iterates order self.sessions)
    (succeeded : (self.expire now order).2 = .ok expired)
    {session : SessionKey} {managed : ManagedSession}
    (present :
      (self.expire now order).1.sessions.lookup session = some managed) :
    now < managed.ticket.expiresAt := by
  rcases expire_cases self now order with
    ⟨error, _, outcome⟩ | ⟨_, outcome⟩
  · rw [outcome] at succeeded
    cases succeeded
  · rw [outcome] at present
    simp only [HashMap.lookup_eraseAll] at present
    split at present
    · cases present
    · rename_i kept
      by_contra late
      exact kept <| (mem_expiredSessions iterates session).mpr
        ⟨managed, present, UInt64.not_lt.mp late⟩

theorem handshake_late
    {self : ShortcutManager R} {session : SessionKey} {now : UInt64}
    {managed : ManagedSession}
    (present : self.sessions.lookup session = some managed)
    (late : managed.ticket.expiresAt ≤ now) :
    (self.authenticatedHandshake session now).1 = self ∧
      (self.authenticatedHandshake session now).2 ≠ .ok true := by
  rcases authenticatedHandshake_cases self session now with
    ⟨⟨error, outcome⟩, _⟩ | ⟨outcome, _⟩ | ⟨other, otherPresent, early, _⟩
  · rw [outcome]
    exact ⟨rfl, nofun⟩
  · rw [outcome]
    exact ⟨rfl, nofun⟩
  · rw [present] at otherPresent
    cases otherPresent
    exact absurd late (UInt64.not_le.mpr early)

/-- The session of a stored ticket that has not run out at `now`. -/
def Unexpired
    (self : ShortcutManager R) (now : UInt64)
    (selector : IpNet) (session : SessionKey) : Prop :=
  ∃ managed,
    self.sessions.lookup session = some managed ∧
    managed.ticket.selector = selector ∧
    now < managed.ticket.expiresAt

section Lawful

variable [LawfulRouteManager R]

/-- What the run promises about time. -/
structure LeaseBound (log : List (Call R)) : Prop where
  accepted :
    ∀ call ∈ log, ∀ ticket now shortcut,
      Receives call ticket now shortcut →
      now.toNat < ticket.expiresAt.toNat ∧
        ticket.expiresAt.toNat ≤ now.toNat + 330
  lateHandshake :
    ∀ call ∈ log, ∀ session now managed,
      call.input = .authenticatedHandshake session now →
      call.before.sessions.lookup session = some managed →
      managed.ticket.expiresAt ≤ now →
      call.output ≠ .ok (.activated true) ∧
        call.after.activeRoutes = call.before.activeRoutes ∧
        call.after.table = call.before.table
  expiryFixed :
    ∀ call ∈ log, ∀ session earlier later,
      call.before.sessions.lookup session = some earlier →
      call.after.sessions.lookup session = some later →
      later.ticket.expiresAt = earlier.ticket.expiresAt
  returns :
    ∀ call ∈ log,
      (∀ session, call.input = .fail session →
        ∃ removed, call.output = .ok (.removed removed)) ∧
      ∀ now order, call.input = .expire now order →
        call.output =
          .ok (.sessions (call.before.expiredSessions now order))
  expireClears :
    ∀ call ∈ log, ∀ now order,
      call.input = .expire now order →
      (∀ session managed,
        call.after.sessions.lookup session = some managed →
        now < managed.ticket.expiresAt) ∧
      (∀ selector session,
        call.after.activeRoutes.lookup selector = some session →
        Unexpired call.after now selector session) ∧
      ∀ selector target,
        call.after.table.lookup selector = some target →
        Unexpired call.after now selector target.session
  routesRecent :
    ∀ newer call older now order,
      log = newer ++ call :: older →
      call.input = .expire now order →
      ∀ selector target,
        call.after.table.lookup selector = some target →
        ∃ past ∈ older, ∃ ticket acceptedAt,
          Receives past ticket acceptedAt ⟨target.session, ticket, false⟩ ∧
          ticket.selector = selector ∧
          now.toNat < acceptedAt.toNat + 330

/-- An `expire` of a run whose deactivations succeed leaves neither a session,
nor an owner, nor an installed route that has run out. -/
theorem expire_clears_of_execution
    {log newer older : List (Call R)} {call : Call R}
    {final : ShortcutManager R} {now : UInt64} {order : List SessionKey}
    (execution : runs.Execution log final)
    (succeed : DeactivationsSucceed log)
    (parts : log = newer ++ call :: older)
    (isExpire : call.input = .expire now order) :
    (∀ session managed,
      call.after.sessions.lookup session = some managed →
      now < managed.ticket.expiresAt) ∧
    (∀ selector session,
      call.after.activeRoutes.lookup selector = some session →
      Unexpired call.after now selector session) ∧
    ∀ selector target,
      call.after.table.lookup selector = some target →
      Unexpired call.after now selector target.session := by
  have member : call ∈ log := by
    rw [parts]
    exact List.mem_append_right newer List.mem_cons_self
  have within : call :: older ⊆ log := by
    rw [parts]
    exact List.subset_append_right newer (call :: older)
  have after : runs.Execution (call :: older) call.after := by
    rw [parts] at execution
    exact execution.split_after
  obtain ⟨_, _, _, taken⟩ := execution.earlier_of_mem member
  have result := leaves_of_step (step_of_takes taken)
  rw [isExpire] at result
  obtain ⟨iterates, reached, _⟩ := result
  have current :
      ∀ session managed,
        call.after.sessions.lookup session = some managed →
        now < managed.ticket.expiresAt := by
    intro session managed present
    rw [reached] at present
    have returned :=
      (expire_ok_iff call.before now order).mpr
        (succeed.expire call member now order isExpire)
    exact expire_unexpired iterates returned present
  have owned : Owned call.after :=
    owned_of_execution after fun past pastMember =>
      succeed.fail past (within pastMember)
  have owners :
      ∀ selector session,
        call.after.activeRoutes.lookup selector = some session →
        Unexpired call.after now selector session := by
    intro selector session owner
    obtain ⟨managed, present, matching, _⟩ := owned selector session owner
    exact ⟨managed, present, matching, current session managed present⟩
  refine ⟨current, owners, ?_⟩
  intro selector target installed
  exact owners selector target.session
    ((synced_of_execution after).owner installed)

/-- A session that has not run out was accepted less than a lease ago. -/
theorem accepted_recently
    {log : List (Call R)} {final : ShortcutManager R}
    (execution : runs.Execution log final)
    {session : SessionKey} {managed : ManagedSession} {now : UInt64}
    (present : final.sessions.lookup session = some managed)
    (early : now < managed.ticket.expiresAt) :
    ∃ past ∈ log, ∃ acceptedAt,
      Receives past managed.ticket acceptedAt
        ⟨session, managed.ticket, false⟩ ∧
      now.toNat < acceptedAt.toNat + 330 := by
  obtain ⟨keyed, past, member, acceptedAt, received⟩ :=
    accounted_of_execution execution session managed present
  obtain ⟨_, _, taken⟩ := (execution.earlier_of_mem member).choose_spec
  have lease :=
    ShortcutTicket.validate_lease (receives_cases taken received).1
  rw [UInt64.lt_iff_toNat_lt] at early
  refine ⟨past, member, acceptedAt, ?_, ?_⟩
  · rw [keyed]
    exact received
  · omega

/-- The lease bound holds in every run whose deactivations succeed. -/
theorem leaseBound
    {log : List (Call R)} {final : ShortcutManager R}
    (execution : runs.Execution log final)
    (succeed : DeactivationsSucceed log) :
    LeaseBound log := by
  have taken : ∀ call ∈ log, runs.Takes call := by
    intro call member
    exact (execution.earlier_of_mem member).choose_spec.2.2
  refine ⟨?_, ?_, ?_, ?_, ?_, ?_⟩
  · intro call member ticket now shortcut received
    exact ShortcutTicket.validate_lease
      (receives_cases (taken call member) received).1
  · intro call member session now managed isHandshake present late
    have result := leaves_of_step (step_of_takes (taken call member))
    rw [isHandshake] at result
    obtain ⟨same, refused⟩ := handshake_late present late
    refine ⟨?_, ?_, ?_⟩
    · intro activated
      rw [result.2] at activated
      cases outcome :
          (call.before.authenticatedHandshake session now).2 with
      | error error =>
          rw [outcome] at activated
          cases activated
      | ok changed =>
          rw [outcome] at activated
          cases activated
          exact refused outcome
    · rw [result.1, same]
    · rw [result.1, same]
  · intro call member session earlier later before after
    rcases step_tickets (step_of_takes (taken call member)) session later
        after with
      ⟨other, present, same⟩ | ⟨_, _, _, _, _, absent, _⟩
    · rw [before] at present
      cases present
      rw [same]
    · rw [before] at absent
      cases absent
  · intro call member
    have result := leaves_of_step (step_of_takes (taken call member))
    constructor
    · intro session isFail
      rw [isFail] at result
      cases outcome : (call.before.fail session).2 with
      | error error =>
          have succeeds :=
            fail_succeeds (succeed.fail call member session isFail) error
          rw [outcome] at succeeds
          exact absurd rfl succeeds
      | ok removed =>
          rw [result.2, outcome]
          exact ⟨removed, rfl⟩
    · intro now order isExpire
      rw [isExpire] at result
      rw [result.2.2,
        (expire_ok_iff call.before now order).mpr
          (succeed.expire call member now order isExpire)]
      rfl
  · intro call member now order isExpire
    obtain ⟨newer, older, parts⟩ := List.append_of_mem member
    exact expire_clears_of_execution execution succeed parts isExpire
  · intro newer call older now order parts isExpire selector target installed
    obtain ⟨managed, present, matching, early⟩ :=
      (expire_clears_of_execution execution succeed parts isExpire).2.2
        selector target installed
    rw [parts] at execution
    obtain ⟨before, step⟩ := execution.split
    rcases step_tickets (step_of_takes step) _ managed present with
      ⟨earlier, earlierPresent, same⟩ | ⟨_, _, _, isReceive, _⟩
    · rw [same] at early matching
      obtain ⟨past, pastMember, acceptedAt, received, recent⟩ :=
        accepted_recently before earlierPresent early
      exact ⟨past, pastMember, earlier.ticket, acceptedAt, received, matching,
        recent⟩
    · rw [isExpire] at isReceive
      cases isReceive

end Lawful

/-- An accepted session is activated and expires with its lease. -/
theorem leaseBound_of_one_session :
    ∃ log final,
      runs.Execution log (final : ShortcutManager MockRoutes) ∧
      log.length = 3 ∧ LeaseBound log := by
  have ran :
      (runs.run (mockManager [])
          [.receiveTicket (testTicket 1) "issuer" "recipient" 1001,
            .authenticatedHandshake (testTicket 1).session 1002,
            .expire 1180 [(testTicket 1).session]]).map
        (fun result => result.1.map fun call => call.output.isOk) =
        some [true, true, true] := by
    decide
  obtain ⟨log, final, execution, results⟩ :=
    Machine.exists_execution_of_run (mockManager_starts []) ran
  simp only at results
  have length : log.length = 3 := by
    simpa using congrArg List.length results
  refine
    ⟨log, final, execution, length,
      leaseBound execution (deactivationsSucceed_of_ok execution ?_)⟩
  intro call member
  have returned : call.output.isOk ∈ [true, true, true] :=
    results ▸ List.mem_map_of_mem member
  simpa using returned

/-! ## Replays -/

/-- Once a ticket has been accepted, no later call takes a ticket of the same
shortcut for a new session unless its epoch is greater. -/
def NoReplay (log : List (Call R)) : Prop :=
  log.Pairwise fun later earlier =>
    ∀ first firstAt firstShortcut second secondAt secondShortcut,
      Receives earlier first firstAt firstShortcut →
      Receives later second secondAt secondShortcut →
      second.shortcutId = first.shortcutId →
      second.epoch ≤ first.epoch →
      secondShortcut.alreadyPresent = true

/-- Whenever a ticket is delivered that passes its own checks and whose epoch
is not greater than one accepted for the same shortcut, the manager still
holds the session of that ticket. -/
def ReplayedSessionsHeld (log : List (Call R)) : Prop :=
  log.Pairwise fun later earlier =>
    ∀ first firstAt firstShortcut second secondAt,
      Receives earlier first firstAt firstShortcut →
      Presents later second secondAt →
      second.shortcutId = first.shortcutId →
      second.epoch ≤ first.epoch →
      later.before.sessions.lookup second.session ≠ none

/-- Replays are refused in a run exactly when every replayed ticket still finds
its session. -/
theorem noReplay_iff
    {admits : R → Prop} {log : List (Call R)} {final : ShortcutManager R}
    (execution : (machine admits).Execution log final) :
    NoReplay log ↔ ReplayedSessionsHeld log := by
  have taken : ∀ call ∈ log, (machine admits).Takes call := by
    intro call member
    exact (execution.earlier_of_mem member).choose_spec.2.2
  constructor
  · intro rejected
    apply rejected.imp_of_mem
    intro later earlier laterMember _ refused first firstAt firstShortcut
      second secondAt accepted presented same notNewer absent
    have created := receives_of_presents (taken later laterMember)
      presented absent
    have present :=
      refused _ _ _ _ _ _ accepted created same notNewer
    cases present
  · intro held
    apply held.imp_of_mem
    intro later earlier laterMember _ kept first firstAt firstShortcut
      second secondAt secondShortcut accepted received same notNewer
    rcases (receives_cases (taken later laterMember) received).2 with
      ⟨present, _⟩ | ⟨_, absent, presented⟩
    · exact present
    · exact absurd absent
        (kept _ _ _ _ _ accepted presented same notNewer)

/-- The operations after which a session is no longer held: `fail`, `expire`
at the end of its lease, and `retire_draining` while it drains. -/
inductive Drops (call : Call R) (session : SessionKey) : Prop
  | failed :
      call.input = .fail session → Drops call session
  | expired {now : UInt64} {order : List SessionKey}
      {managed : ManagedSession} :
      call.input = .expire now order →
      call.before.sessions.lookup session = some managed →
      managed.ticket.expiresAt ≤ now →
      Drops call session
  | retired {order : List SessionKey} {managed : ManagedSession} :
      call.input = .retireDraining order →
      call.before.sessions.lookup session = some managed →
      managed.phase = .draining →
      Drops call session

/-- A call after which a session is no longer held has dropped it. -/
theorem drops_of_lost
    {call : Call R} {session : SessionKey}
    (taken :
      call.before.step call.input = some (call.after, call.output))
    (held : call.before.sessions.lookup session ≠ none)
    (lost : call.after.sessions.lookup session = none) :
    Drops call session := by
  have result := leaves_of_step taken
  cases isInput : call.input with
  | receiveTicket ticket sender localKey now =>
      rw [isInput] at result
      rw [result.1] at lost
      exact
        absurd lost
          (receiveTicket_lookup_ne_none _ ticket sender localKey now held)
  | markHandshaking other =>
      rw [isInput] at result
      have after : call.after = (call.before.markHandshaking other).1 :=
        result
      rw [after, markHandshaking_lookup_eq_none] at lost
      exact absurd lost held
  | authenticatedHandshake other now =>
      rw [isInput] at result
      rw [result.1, authenticatedHandshake_lookup_eq_none] at lost
      exact absurd lost held
  | expire now order =>
      rw [isInput] at result
      obtain ⟨iterates, reached, _⟩ := result
      rw [reached] at lost
      rcases expire_cases call.before now order with
        ⟨error, _, outcome⟩ | ⟨_, outcome⟩
      · have kept :=
          (removeExpiredRoutes_effect call.before
            (call.before.expiredSessions now order)).2
        rw [outcome, kept] at lost
        exact absurd lost held
      · rw [outcome] at lost
        rcases (HashMap.lookup_eraseAll_eq_none_iff _ _ _).mp lost with
          absent | expired
        · exact absurd absent held
        · obtain ⟨other, present, late⟩ :=
            (mem_expiredSessions iterates session).mp expired
          exact .expired isInput present late
  | retireDraining order =>
      rw [isInput] at result
      obtain ⟨iterates, reached⟩ := result
      rw [reached] at lost
      rcases (HashMap.lookup_eraseAll_eq_none_iff _ _ _).mp lost with
        absent | draining
      · exact absurd absent held
      · obtain ⟨other, present, drains⟩ :=
          (mem_drainingSessions iterates session).mp draining
        exact .retired isInput present drains
  | fail other =>
      rw [isInput] at result
      rw [result.1, fail_sessions, HashMap.lookup_erase_eq_ite] at lost
      split at lost
      · rename_i same
        rw [same]
        exact .failed isInput
      · exact absurd lost held

/-- The session of a ticket that was received is held until a call drops
it. -/
theorem held_or_dropped
    {admits : R → Prop} {middle older : List (Call R)} {call : Call R}
    {state : ShortcutManager R} {ticket : ShortcutTicket} {now : UInt64}
    {shortcut : PreparedShortcut}
    (execution :
      (machine admits).Execution (middle ++ call :: older) state)
    (received : Receives call ticket now shortcut) :
    state.sessions.lookup ticket.session ≠ none ∨
      ∃ past ∈ middle, Drops past ticket.session := by
  induction middle generalizing state with
  | nil =>
      left
      cases execution with
      | step earlier taken =>
          obtain ⟨sender, localKey, input, output⟩ := received
          have result := leaves_of_step (step_of_takes taken)
          rw [input] at result
          rw [result.1]
          rcases receiveTicket_cases call.before ticket sender localKey now
            with
            ⟨error, outcome⟩ | ⟨existing, present, _, outcome⟩ |
              ⟨_, _, _, _, outcome⟩
          · have failed := result.2
            rw [outcome, output] at failed
            cases failed
          · rw [outcome, present]
            exact Option.some_ne_none existing
          · rw [outcome]
            simp only [HashMap.lookup_insert_eq_ite, if_true]
            exact Option.some_ne_none _
  | cons last rest inductionHypothesis =>
      cases execution with
      | step earlier taken =>
          rcases inductionHypothesis earlier with held | ⟨past, member, drops⟩
          · by_cases lost :
                last.after.sessions.lookup ticket.session = none
            · exact Or.inr
                ⟨last, List.mem_cons_self,
                  drops_of_lost (step_of_takes taken) held lost⟩
            · exact Or.inl lost
          · exact Or.inr ⟨past, List.mem_cons_of_mem last member, drops⟩

/-- A ticket whose session was accepted before is taken for a new one only
after a call in between has dropped the session. -/
theorem replay_follows_drop
    {admits : R → Prop} {middle older : List (Call R)}
    {later earlier : Call R} {state : ShortcutManager R}
    {first second : ShortcutTicket} {firstAt secondAt : UInt64}
    {firstShortcut secondShortcut : PreparedShortcut}
    (execution :
      (machine admits).Execution (later :: (middle ++ earlier :: older))
        state)
    (accepted : Receives earlier first firstAt firstShortcut)
    (received : Receives later second secondAt secondShortcut)
    (same : second.session = first.session)
    (created : secondShortcut.alreadyPresent = false) :
    ∃ call ∈ middle, Drops call first.session := by
  cases execution with
  | step before taken =>
      rcases held_or_dropped before accepted with held | dropped
      · rcases (receives_cases taken received).2 with
          ⟨present, _⟩ | ⟨_, absent, _⟩
        · rw [present] at created
          cases created
        · rw [same] at absent
          exact absurd absent held
      · exact dropped

/-- A session fails and its ticket, still valid, arrives once more. -/
def replayingCalls : List Operation :=
  [.receiveTicket (testTicket 1) "issuer" "recipient" 1001,
    .fail (testTicket 1).session,
    .receiveTicket (testTicket 1) "issuer" "recipient" 1002]

theorem failed_ticket_replayed :
    ∃ log final,
      runs.Execution log (final : ShortcutManager MockRoutes) ∧
      ¬ NoReplay log := by
  have ran :
      (runs.run (mockManager []) replayingCalls).map
        (fun result =>
          result.1.map fun call => (call.input, call.output.toOption)) =
        some
          [(.receiveTicket (testTicket 1) "issuer" "recipient" 1002,
              some (.prepared
                ⟨(testTicket 1).session, testTicket 1, false⟩)),
            (.fail (testTicket 1).session, some (.removed true)),
            (.receiveTicket (testTicket 1) "issuer" "recipient" 1001,
              some (.prepared
                ⟨(testTicket 1).session, testTicket 1, false⟩))] := by
    decide
  obtain ⟨log, final, execution, calls⟩ :=
    Machine.exists_execution_of_run (mockManager_starts []) ran
  refine ⟨log, final, execution, ?_⟩
  intro rejected
  simp only [List.map_eq_cons_iff, Prod.mk.injEq] at calls
  obtain ⟨later, _, rfl, ⟨laterInput, laterOutput⟩, _, _, rfl, _, earlier,
    _, rfl, ⟨earlierInput, earlierOutput⟩, _⟩ := calls
  have refused := (List.pairwise_cons.mp rejected).1 earlier (by simp)
  have present :=
    refused _ _ _ _ _ _ (receives_of_output earlierInput earlierOutput)
      (receives_of_output laterInput laterOutput) rfl (UInt64.le_refl _)
  cases present

/-- A duplicate that arrives while its session is held is no replay. -/
theorem noReplay_of_duplicate :
    ∃ log final,
      runs.Execution log (final : ShortcutManager MockRoutes) ∧
      log.length = 2 ∧ NoReplay log := by
  have ran :
      (runs.run (mockManager [])
          [.receiveTicket (testTicket 1) "issuer" "recipient" 1001,
            .receiveTicket (testTicket 1) "issuer" "recipient" 1002]).map
        (fun result =>
          result.1.map fun call =>
            (call.input,
              (call.before.sessions.lookup
                (testTicket 1).session).isSome)) =
        some
          [(.receiveTicket (testTicket 1) "issuer" "recipient" 1002, true),
            (.receiveTicket (testTicket 1) "issuer" "recipient" 1001,
              false)] := by
    decide
  obtain ⟨log, final, execution, calls⟩ :=
    Machine.exists_execution_of_run (mockManager_starts []) ran
  simp only [List.map_eq_cons_iff, List.map_eq_nil_iff, Prod.mk.injEq]
    at calls
  obtain ⟨later, _, rfl, ⟨laterInput, held⟩, earlier, _, rfl, _, rfl⟩ := calls
  refine ⟨_, final, execution, rfl, (noReplay_iff execution).mpr ?_⟩
  refine List.pairwise_cons.mpr ⟨?_, List.pairwise_singleton _ _⟩
  intro _ _ first firstAt firstShortcut second secondAt _ presented _ _ absent
  have delivered := laterInput.symm.trans presented.1
  cases delivered
  rw [absent] at held
  cases held

end WgLink.ShortcutManager
