import WgLink.Library.Machine
import WgLink.Library.Saturating
import WgLink.Shortcut.State

/-!
# The renewal scheduler

`RenewalScheduler` of `shortcut/renewal.rs`: for each destination of a peer the
session in use and the one that is to replace it.  A session that has been
superseded stays recorded until it is removed, but nothing refers to it any
more.
-/

namespace WgLink

open WgLink.Library

/-- `ISSUE_RETRY_SECONDS`. -/
def issueRetrySeconds : UInt64 := 5

/-- `HANDSHAKE_TIMEOUT_SECONDS`. -/
def handshakeTimeoutSeconds : UInt64 := 10

/-- `RENEWAL_LEAD_SECONDS`. -/
def renewalLeadSeconds : UInt64 := 90

/-- `IssueKey`. -/
structure IssueKey where
  peerPublicKey : String
  downstreamSelector : IpNet
deriving DecidableEq

/-- `IssueState`, with its default. -/
structure IssueState where
  active : Option SessionKey := none
  pending : Option SessionKey := none
  nextIssue : UInt64 := 0
deriving DecidableEq

/-- `SessionLease`. -/
structure SessionLease where
  issue : IssueKey
  renewAt : UInt64
deriving DecidableEq

/-- `IssueAttempt`. -/
structure IssueAttempt where
  stalePending : Option SessionKey
deriving DecidableEq

/-- `RenewalScheduler`. -/
structure RenewalScheduler where
  issues : HashMap IssueKey IssueState
  sessions : HashMap SessionKey SessionLease

/-- `RenewalScheduler::removed` on the state of the issue. -/
def IssueState.without
    (state : IssueState) (session : SessionKey) (now : UInt64) :
    IssueState :=
  let wasPending := state.pending = some session
  let wasActive := state.active = some session
  let pending := if wasPending then none else state.pending
  let active := if wasActive then none else state.active
  let nextIssue :=
    if wasPending ∨ wasActive ∧ pending = none then
      min state.nextIssue (saturatingAdd now issueRetrySeconds)
    else
      state.nextIssue
  { active, pending, nextIssue }

namespace RenewalScheduler

/-- `entry(issue).or_default()`. -/
def entry (self : RenewalScheduler) (issue : IssueKey) : IssueState :=
  (self.issues.lookup issue).getD {}

/-- `RenewalScheduler::begin_issue`. -/
def beginIssue
    (self : RenewalScheduler) (issue : IssueKey) (now : UInt64) :
    RenewalScheduler × Option IssueAttempt :=
  let state := self.entry issue
  if now < state.nextIssue then
    ({ self with issues := self.issues.insert issue state }, none)
  else
    ({ self with
        issues :=
          self.issues.insert issue
            { state with
              pending := none
              nextIssue := saturatingAdd now issueRetrySeconds } },
      some ⟨state.pending⟩)

/-- `RenewalScheduler::issued`. -/
def issued
    (self : RenewalScheduler) (issue : IssueKey) (session : SessionKey)
    (renewAt now : UInt64) : RenewalScheduler where
  issues :=
    self.issues.insert issue
      { self.entry issue with
        pending := some session
        nextIssue := saturatingAdd now handshakeTimeoutSeconds }
  sessions := self.sessions.insert session ⟨issue, renewAt⟩

/-- `RenewalScheduler::authenticated`. -/
def authenticated
    (self : RenewalScheduler) (session : SessionKey) (now : UInt64) :
    RenewalScheduler × Option UInt64 :=
  match self.sessions.lookup session with
  | none => (self, none)
  | some lease =>
      match self.issues.lookup lease.issue with
      | none => (self, none)
      | some state =>
          if state.pending ≠ some session then
            (self, none)
          else
            let nextIssue :=
              max (saturatingSub lease.renewAt renewalLeadSeconds)
                (saturatingAdd now 1)
            ({ self with
                issues :=
                  self.issues.insert lease.issue
                    { active := some session, pending := none, nextIssue } },
              some nextIssue)

/-- `RenewalScheduler::removed`. -/
def removed
    (self : RenewalScheduler) (session : SessionKey) (now : UInt64) :
    RenewalScheduler :=
  match self.sessions.lookup session with
  | none => self
  | some lease =>
      let sessions := self.sessions.erase session
      match self.issues.lookup lease.issue with
      | none => { self with sessions }
      | some state =>
          { issues := self.issues.insert lease.issue (state.without session now)
            sessions }

end RenewalScheduler

/-! ## What one call does -/

namespace IssueState

/-- The state refers to the session. -/
def Refers (state : IssueState) (session : SessionKey) : Prop :=
  state.active = some session ∨ state.pending = some session

theorem not_refers_default (session : SessionKey) :
    ¬ ({} : IssueState).Refers session := by
  rintro (active | pending)
  · cases active
  · cases pending

theorem without_active (state : IssueState) (session : SessionKey)
    (now : UInt64) :
    (state.without session now).active =
      if state.active = some session then none else state.active :=
  rfl

theorem without_pending (state : IssueState) (session : SessionKey)
    (now : UInt64) :
    (state.without session now).pending =
      if state.pending = some session then none else state.pending :=
  rfl

theorem of_without_active
    {state : IssueState} {session other : SessionKey} {now : UInt64}
    (active : (state.without session now).active = some other) :
    state.active = some other := by
  rw [without_active] at active
  exact (Option.ite_none_left_eq_some.mp active).2

theorem of_without_pending
    {state : IssueState} {session other : SessionKey} {now : UInt64}
    (pending : (state.without session now).pending = some other) :
    state.pending = some other := by
  rw [without_pending] at pending
  exact (Option.ite_none_left_eq_some.mp pending).2

/-- Nothing is left of a removed session, and nothing else is touched. -/
theorem refers_without
    {state : IssueState} {session other : SessionKey} {now : UInt64} :
    (state.without session now).Refers other ↔
      state.Refers other ∧ other ≠ session := by
  unfold Refers
  rw [without_active, without_pending]
  by_cases same : other = session
  · rw [same]
    by_cases active : state.active = some session <;>
      by_cases pending : state.pending = some session <;>
        simp [active, pending]
  · have apart : session ≠ other := fun equal => same equal.symm
    by_cases active : state.active = some session <;>
      by_cases pending : state.pending = some session <;>
        simp [active, pending, same, apart]

/-- A session that is not referred to is removed without a trace. -/
theorem without_of_not_refers
    {state : IssueState} {session : SessionKey} (now : UInt64)
    (superseded : ¬ state.Refers session) :
    state.without session now = state := by
  unfold Refers at superseded
  rw [not_or] at superseded
  unfold without
  simp only [superseded.1, superseded.2, false_and, or_self, if_false]

end IssueState

namespace RenewalScheduler

variable {self : RenewalScheduler}

/-- Some issue refers to the session. -/
def Refers
    (self : RenewalScheduler) (issue : IssueKey) (session : SessionKey) :
    Prop :=
  ∃ state, self.issues.lookup issue = some state ∧ state.Refers session

theorem refers_entry
    {issue : IssueKey} {session : SessionKey} :
    (self.entry issue).Refers session ↔ self.Refers issue session := by
  unfold entry Refers
  cases self.issues.lookup issue with
  | none =>
      rw [Option.getD_none]
      refine iff_of_false (IssueState.not_refers_default session) ?_
      rintro ⟨_, impossible, _⟩
      cases impossible
  | some state =>
      rw [Option.getD_some]
      constructor
      · intro refers
        exact ⟨state, rfl, refers⟩
      · rintro ⟨_, same, refers⟩
        cases same
        exact refers

/-- A due attempt drops the pending session; an early one changes nothing. -/
theorem beginIssue_cases (self : RenewalScheduler) (issue : IssueKey)
    (now : UInt64) :
    self.beginIssue issue now = (self, none) ∧
        now < (self.entry issue).nextIssue ∨
      self.beginIssue issue now =
        ({ self with
            issues :=
              self.issues.insert issue
                { self.entry issue with
                  pending := none
                  nextIssue := saturatingAdd now issueRetrySeconds } },
          some ⟨(self.entry issue).pending⟩) := by
  unfold beginIssue
  by_cases early : now < (self.entry issue).nextIssue
  · left
    have present : self.issues.lookup issue = some (self.entry issue) := by
      unfold entry at early ⊢
      cases found : self.issues.lookup issue with
      | none =>
          rw [found, Option.getD_none] at early
          have bound := UInt64.lt_iff_toNat_lt.mp early
          exact absurd bound (Nat.not_lt_zero _)
      | some state =>
          rfl
    refine ⟨?_, early⟩
    simp only [if_pos early]
    rw [HashMap.insert_eq_self present]
  · right
    simp only [if_neg early]

/-- Only the pending session of an issue is authenticated. -/
theorem authenticated_cases (self : RenewalScheduler) (session : SessionKey)
    (now : UInt64) :
    self.authenticated session now = (self, none) ∨
      ∃ lease state nextIssue,
        self.sessions.lookup session = some lease ∧
          self.issues.lookup lease.issue = some state ∧
          state.pending = some session ∧
          self.authenticated session now =
            ({ self with
                issues :=
                  self.issues.insert lease.issue
                    { active := some session, pending := none, nextIssue } },
              some nextIssue) := by
  unfold authenticated
  cases found : self.sessions.lookup session with
  | none =>
      exact Or.inl rfl
  | some lease =>
      cases present : self.issues.lookup lease.issue with
      | none =>
          exact Or.inl (by simp only [present])
      | some state =>
          by_cases pending : state.pending = some session
          · refine Or.inr ⟨lease, state,
              max (saturatingSub lease.renewAt renewalLeadSeconds)
                (saturatingAdd now 1), rfl, present, pending, ?_⟩
            simp only [present, if_neg (not_not_intro pending)]
          · exact Or.inl (by simp only [present, if_pos pending])

theorem removed_cases (self : RenewalScheduler) (session : SessionKey)
    (now : UInt64) :
    self.sessions.lookup session = none ∧
        self.removed session now = self ∨
      ∃ lease,
        self.sessions.lookup session = some lease ∧
          (self.removed session now).sessions =
            self.sessions.erase session ∧
          ((self.issues.lookup lease.issue = none ∧
              (self.removed session now).issues = self.issues) ∨
            ∃ state,
              self.issues.lookup lease.issue = some state ∧
                (self.removed session now).issues =
                  self.issues.insert lease.issue
                    (state.without session now)) := by
  unfold removed
  cases found : self.sessions.lookup session with
  | none =>
      exact Or.inl ⟨rfl, rfl⟩
  | some lease =>
      cases present : self.issues.lookup lease.issue with
      | none =>
          refine Or.inr ⟨lease, rfl, ?_, Or.inl ⟨present, ?_⟩⟩
          · simp only [present]
          · simp only [present]
      | some state =>
          refine Or.inr ⟨lease, rfl, ?_, Or.inr ⟨state, present, ?_⟩⟩
          · simp only [present]
          · simp only [present]

end RenewalScheduler

/-! ## Runs -/

/-- The calls of the scheduler. -/
inductive RenewalCall where
  | beginIssue (issue : IssueKey) (now : UInt64)
  | issued (issue : IssueKey) (session : SessionKey) (renewAt now : UInt64)
  | authenticated (session : SessionKey) (now : UInt64)
  | removed (session : SessionKey) (now : UInt64)
deriving DecidableEq

/-- What the calls return. -/
inductive RenewalReply where
  | attempt (attempt : Option IssueAttempt)
  | scheduled (nextIssue : Option UInt64)
  | done
deriving DecidableEq

namespace RenewalCall

def now : RenewalCall → UInt64
  | .beginIssue _ now => now
  | .issued _ _ _ now => now
  | .authenticated _ now => now
  | .removed _ now => now

def issuedSession : RenewalCall → Option SessionKey
  | .issued _ session _ _ => some session
  | _ => none

end RenewalCall

namespace RenewalScheduler

variable {self : RenewalScheduler}

def call (self : RenewalScheduler) :
    RenewalCall → RenewalScheduler × RenewalReply
  | .beginIssue issue now =>
      ((self.beginIssue issue now).1, .attempt (self.beginIssue issue now).2)
  | .issued issue session renewAt now =>
      (self.issued issue session renewAt now, .done)
  | .authenticated session now =>
      ((self.authenticated session now).1,
        .scheduled (self.authenticated session now).2)
  | .removed session now => (self.removed session now, .done)

/-- The issue that a call concerns: its argument, or the issue for which the
session is recorded. -/
def concerned (self : RenewalScheduler) : RenewalCall → Option IssueKey
  | .beginIssue issue _ => some issue
  | .issued issue _ _ _ => some issue
  | .authenticated session _ =>
      (self.sessions.lookup session).map SessionLease.issue
  | .removed session _ =>
      (self.sessions.lookup session).map SessionLease.issue

theorem ne_issue_of_recorded
    {session : SessionKey} {lease : SessionLease} {issue : IssueKey}
    (recorded : self.sessions.lookup session = some lease)
    (other :
      (self.sessions.lookup session).map SessionLease.issue ≠ some issue) :
    issue ≠ lease.issue := by
  intro same
  apply other
  rw [recorded, same]
  rfl

/-- A call leaves the other issues alone. -/
theorem call_other
    {call : RenewalCall} {issue : IssueKey}
    (other : self.concerned call ≠ some issue) :
    (self.call call).1.issues.lookup issue = self.issues.lookup issue := by
  cases call with
  | beginIssue concernedIssue now =>
      have apart : issue ≠ concernedIssue := fun same => other (by rw [same]; rfl)
      change (self.beginIssue concernedIssue now).1.issues.lookup issue = _
      rcases self.beginIssue_cases concernedIssue now with ⟨early, _⟩ | due
      · rw [early]
      · rw [due, HashMap.lookup_insert_eq_ite, if_neg apart]
  | issued concernedIssue session renewAt now =>
      have apart : issue ≠ concernedIssue := fun same => other (by rw [same]; rfl)
      change
        (self.issued concernedIssue session renewAt now).issues.lookup
          issue = _
      unfold issued
      rw [HashMap.lookup_insert_eq_ite, if_neg apart]
  | authenticated session now =>
      change (self.authenticated session now).1.issues.lookup issue = _
      rcases self.authenticated_cases session now with
        ignored | ⟨lease, state, nextIssue, found, _, _, confirmed⟩
      · rw [ignored]
      · have apart := ne_issue_of_recorded found other
        rw [confirmed, HashMap.lookup_insert_eq_ite, if_neg apart]
  | removed session now =>
      change (self.removed session now).issues.lookup issue = _
      rcases self.removed_cases session now with
        ⟨_, same⟩ | ⟨lease, found, _, ⟨_, kept⟩ | ⟨state, _, changed⟩⟩
      · rw [same]
      · rw [kept]
      · have apart := ne_issue_of_recorded found other
        rw [changed, HashMap.lookup_insert_eq_ite, if_neg apart]

/-- References are recorded, and no session is active and pending at once. -/
structure Referenced (scheduler : RenewalScheduler) : Prop where
  recorded :
    ∀ issue session,
      scheduler.Refers issue session →
      ∃ lease,
        scheduler.sessions.lookup session = some lease ∧ lease.issue = issue
  apart :
    ∀ issue state session,
      scheduler.issues.lookup issue = some state →
      state.active = some session →
      state.pending ≠ some session

/-- What the state of an issue can be after a call. -/
inductive Becomes (scheduler : RenewalScheduler) (issue : IssueKey) :
    RenewalCall → IssueState → Prop
  | kept {call : RenewalCall} {state : IssueState} :
      scheduler.issues.lookup issue = some state →
      Becomes scheduler issue call state
  | begun {now : UInt64} :
      Becomes scheduler issue (.beginIssue issue now)
        { scheduler.entry issue with
          pending := none
          nextIssue := saturatingAdd now issueRetrySeconds }
  | issued {session : SessionKey} {renewAt now : UInt64} :
      Becomes scheduler issue (.issued issue session renewAt now)
        { scheduler.entry issue with
          pending := some session
          nextIssue := saturatingAdd now handshakeTimeoutSeconds }
  | authenticated {state : IssueState} {session : SessionKey}
      {now nextIssue : UInt64} :
      scheduler.issues.lookup issue = some state →
      state.pending = some session →
      Becomes scheduler issue (.authenticated session now)
        { active := some session, pending := none, nextIssue }
  | removed {state : IssueState} {session : SessionKey} {now : UInt64} :
      scheduler.issues.lookup issue = some state →
      Becomes scheduler issue (.removed session now)
        (state.without session now)

/-- The value under a key after a write is the new one or the old one. -/
theorem lookup_insert_cases
    {issues : HashMap IssueKey IssueState} {written query : IssueKey}
    {value state : IssueState}
    (present : (issues.insert written value).lookup query = some state) :
    query = written ∧ state = value ∨ issues.lookup query = some state := by
  rw [HashMap.lookup_insert_eq_ite] at present
  by_cases same : query = written
  · rw [if_pos same] at present
    exact Or.inl ⟨same, (Option.some.inj present).symm⟩
  · rw [if_neg same] at present
    exact Or.inr present

theorem becomes_call
    {call : RenewalCall} {issue : IssueKey} {state : IssueState}
    (present : (self.call call).1.issues.lookup issue = some state) :
    self.Becomes issue call state := by
  cases call with
  | beginIssue begun now =>
      change (self.beginIssue begun now).1.issues.lookup issue = _ at present
      rcases self.beginIssue_cases begun now with ⟨early, _⟩ | due
      · rw [early] at present
        exact .kept present
      · rw [due] at present
        rcases lookup_insert_cases present with ⟨same, value⟩ | earlier
        · rw [value, ← same]
          exact .begun
        · exact .kept earlier
  | issued other session renewAt now =>
      rcases lookup_insert_cases present with ⟨same, value⟩ | earlier
      · rw [value, ← same]
        exact .issued
      · exact .kept earlier
  | authenticated session now =>
      change (self.authenticated session now).1.issues.lookup issue = _
        at present
      rcases self.authenticated_cases session now with
        ignored | ⟨lease, before, nextIssue, _, known, pending, confirmed⟩
      · rw [ignored] at present
        exact .kept present
      · rw [confirmed] at present
        rcases lookup_insert_cases present with ⟨same, value⟩ | earlier
        · rw [← same] at known
          rw [value]
          exact .authenticated known pending
        · exact .kept earlier
  | removed session now =>
      change (self.removed session now).issues.lookup issue = _ at present
      rcases self.removed_cases session now with
        ⟨_, same⟩ | ⟨lease, _, _, ⟨_, unchanged⟩ | ⟨before, known, changed⟩⟩
      · rw [same] at present
        exact .kept present
      · rw [unchanged] at present
        exact .kept present
      · rw [changed] at present
        rcases lookup_insert_cases present with ⟨same, value⟩ | earlier
        · rw [← same] at known
          rw [value]
          exact .removed known
        · exact .kept earlier

/-- A new reference is that of an issued session. -/
theorem refers_call
    {call : RenewalCall} {issue : IssueKey} {session : SessionKey}
    (refers : (self.call call).1.Refers issue session) :
    self.Refers issue session ∨
      ∃ renewAt now, call = .issued issue session renewAt now := by
  obtain ⟨state, present, refersState⟩ := refers
  cases becomes_call present with
  | kept earlier =>
      exact Or.inl ⟨state, earlier, refersState⟩
  | begun =>
      rcases refersState with active | pending
      · exact Or.inl (refers_entry.mp (Or.inl active))
      · cases pending
  | @issued fresh renewAt now =>
      rcases refersState with active | pending
      · exact Or.inl (refers_entry.mp (Or.inl active))
      · cases pending
        exact Or.inr ⟨renewAt, now, rfl⟩
  | authenticated known pending =>
      rcases refersState with active | none
      · cases active
        exact Or.inl ⟨_, known, Or.inr pending⟩
      · cases none
  | removed known =>
      exact Or.inl ⟨_, known, (IssueState.refers_without.mp refersState).1⟩

/-- After a removal nothing refers to the session. -/
theorem not_refers_removed
    (referenced : self.Referenced) (session : SessionKey) (now : UInt64)
    (issue : IssueKey) :
    ¬ (self.removed session now).Refers issue session := by
  intro refers
  have before : self.Refers issue session := by
    rcases refers_call (show
        (self.call (.removed session now)).1.Refers issue session from refers)
      with earlier | ⟨_, _, impossible⟩
    · exact earlier
    · cases impossible
  obtain ⟨lease, found, owner⟩ := referenced.recorded issue session before
  obtain ⟨after, present, refersAfter⟩ := refers
  rcases self.removed_cases session now with
    ⟨missing, _⟩ | ⟨other, alsoFound, _, ⟨absent, _⟩ |
      ⟨state, _, changed⟩⟩
  · rw [found] at missing
    cases missing
  · rw [found] at alsoFound
    cases alsoFound
    obtain ⟨state, lookedUp, _⟩ := before
    rw [owner, lookedUp] at absent
    cases absent
  · rw [found] at alsoFound
    cases alsoFound
    rw [changed, owner, HashMap.lookup_insert_eq_ite, if_pos rfl] at present
    cases present
    exact (IssueState.refers_without.mp refersAfter).2 rfl

theorem sessions_removed (session : SessionKey) (now : UInt64)
    (query : SessionKey) :
    (self.removed session now).sessions.lookup query =
      if query = session then none else self.sessions.lookup query := by
  rcases self.removed_cases session now with
    ⟨missing, same⟩ | ⟨lease, _, erased, _⟩
  · rw [same]
    by_cases equal : query = session
    · rw [if_pos equal, equal, missing]
    · rw [if_neg equal]
  · rw [erased, HashMap.lookup_erase_eq_ite]

/-- A call records the session that it issues, and forgets the one that it
removes. -/
theorem sessions_call
    (call : RenewalCall) (query : SessionKey) :
    (self.call call).1.sessions.lookup query =
      match call with
      | .issued issue session renewAt _ =>
          if query = session then some ⟨issue, renewAt⟩
          else self.sessions.lookup query
      | .removed session _ =>
          if query = session then none else self.sessions.lookup query
      | _ => self.sessions.lookup query := by
  cases call with
  | beginIssue issue now =>
      change (self.beginIssue issue now).1.sessions.lookup query = _
      rcases self.beginIssue_cases issue now with ⟨early, _⟩ | due
      · rw [early]
      · rw [due]
  | issued issue session renewAt now =>
      exact HashMap.lookup_insert_eq_ite _ _ _ _
  | authenticated session now =>
      change (self.authenticated session now).1.sessions.lookup query = _
      rcases self.authenticated_cases session now with
        ignored | ⟨_, _, _, _, _, _, confirmed⟩
      · rw [ignored]
      · rw [confirmed]
  | removed session now =>
      exact sessions_removed session now query

/-- The scheduler keeps its references in order, as long as issued sessions
are new to it. -/
theorem Referenced.call
    (referenced : self.Referenced) {call : RenewalCall}
    (fresh :
      ∀ session,
        call.issuedSession = some session →
        self.sessions.lookup session = none) :
    (self.call call).1.Referenced := by
  constructor
  · intro issue session refers
    rw [sessions_call]
    rcases refers_call refers with earlier | ⟨renewAt, now, isIssued⟩
    · obtain ⟨lease, found, owner⟩ := referenced.recorded issue session earlier
      refine ⟨lease, ?_, owner⟩
      cases call with
      | issued other newSession renewAt now =>
          have apart : session ≠ newSession := by
            intro same
            have missing := fresh newSession rfl
            rw [← same, found] at missing
            cases missing
          simp only [if_neg apart]
          exact found
      | removed gone now =>
          have apart : session ≠ gone := by
            intro same
            rw [same] at refers
            exact not_refers_removed referenced gone now issue refers
          simp only [if_neg apart]
          exact found
      | _ =>
          exact found
    · rw [isIssued]
      exact ⟨⟨issue, renewAt⟩, if_pos rfl, rfl⟩
  · intro issue state session present active
    cases becomes_call present with
    | kept earlier =>
        exact referenced.apart issue state session earlier active
    | begun =>
        intro pending
        cases pending
    | @issued newSession renewAt now =>
        intro pending
        have refers : self.Refers issue session :=
          refers_entry.mp (Or.inl active)
        obtain ⟨lease, found, _⟩ := referenced.recorded issue session refers
        have missing := fresh newSession rfl
        rw [Option.some.inj pending, found] at missing
        cases missing
    | authenticated known wasPending =>
        intro pending
        cases pending
    | @removed before gone now known =>
        have activeBefore : before.active = some session :=
          IssueState.of_without_active active
        intro pending
        exact referenced.apart issue before session known activeBefore
          (IssueState.of_without_pending pending)

end RenewalScheduler

end WgLink
