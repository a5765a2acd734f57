import WgLink.Shortcut.Renewal

/-!
# Runs of the renewal scheduler

Calls of the scheduler in any order.  A session that is issued at most once
comes back into no issue after the issue has dropped it, and an issue without
an active session is due again soon after its last change.
-/

namespace WgLink

open WgLink.Library

/-- The scheduler, from its default state. -/
def renewalRuns : Machine RenewalScheduler RenewalCall RenewalReply where
  start := fun scheduler => scheduler = ⟨∅, ∅⟩
  step := fun scheduler call => some (scheduler.call call)

abbrev RenewalRecord := Record RenewalScheduler RenewalCall RenewalReply

namespace RenewalScheduler

variable {scheduler : RenewalScheduler} {log newer older : List RenewalRecord}

/-- The sessions that a log issues, the newest first. -/
def issuedSessions (log : List RenewalRecord) : List SessionKey :=
  log.filterMap fun record => record.input.issuedSession

/-- Every session is issued at most once. -/
def FreshlyIssued (log : List RenewalRecord) : Prop :=
  (issuedSessions log).Nodup

/-- The record takes an issue's pending session from it, to begin another
attempt or to set another pending session. -/
def Supersedes (record : RenewalRecord) (session : SessionKey) : Prop :=
  ∃ issue,
    (record.before.entry issue).pending = some session ∧
      (record.after.entry issue).pending ≠ some session ∧
      ((∃ now, record.input = .beginIssue issue now) ∨
        ∃ newSession renewAt now,
          record.input = .issued issue newSession renewAt now)

theorem after_eq_call
    {record : RenewalRecord} (taken : renewalRuns.Takes record) :
    record.after = (record.before.call record.input).1 :=
  congrArg Prod.fst (Option.some.inj taken).symm

theorem output_eq_call
    {record : RenewalRecord} (taken : renewalRuns.Takes record) :
    record.output = (record.before.call record.input).2 :=
  congrArg Prod.snd (Option.some.inj taken).symm

theorem issuedSessions_cons (record : RenewalRecord) :
    issuedSessions (record :: log) =
      record.input.issuedSession.toList ++ issuedSessions log := by
  unfold issuedSessions
  rw [List.filterMap_cons]
  cases record.input.issuedSession with
  | none =>
      rfl
  | some session =>
      rfl

theorem FreshlyIssued.of_cons
    {record : RenewalRecord} (fresh : FreshlyIssued (record :: log)) :
    FreshlyIssued log := by
  unfold FreshlyIssued at fresh
  rw [issuedSessions_cons] at fresh
  exact (List.nodup_append.mp fresh).2.1

theorem FreshlyIssued.of_append
    (fresh : FreshlyIssued (newer ++ older)) : FreshlyIssued older := by
  induction newer with
  | nil =>
      exact fresh
  | cons record rest inductionHypothesis =>
      exact inductionHypothesis fresh.of_cons

/-- A call cannot issue what has been issued. -/
theorem FreshlyIssued.not_issued
    {record : RenewalRecord} {session : SessionKey}
    (fresh : FreshlyIssued (record :: log))
    (issued : record.input.issuedSession = some session) :
    session ∉ issuedSessions log := by
  unfold FreshlyIssued at fresh
  rw [issuedSessions_cons, issued] at fresh
  exact (List.nodup_cons.mp fresh).1

/-- What is recorded has been issued. -/
theorem issued_of_recorded
    (execution : renewalRuns.Execution log scheduler)
    {session : SessionKey} {lease : SessionLease}
    (recorded : scheduler.sessions.lookup session = some lease) :
    session ∈ issuedSessions log := by
  induction execution generalizing lease with
  | start started =>
      rw [started] at recorded
      cases recorded
  | @step log record earlier taken inductionHypothesis =>
      rw [issuedSessions_cons, List.mem_append]
      rw [after_eq_call taken, sessions_call] at recorded
      cases call : record.input with
      | issued issue newSession renewAt now =>
          rw [call] at recorded
          by_cases same : session = newSession
          · left
            rw [same]
            exact List.mem_singleton_self newSession
          · right
            simp only [if_neg same] at recorded
            exact inductionHypothesis recorded
      | removed gone now =>
          rw [call] at recorded
          by_cases same : session = gone
          · simp only [if_pos same] at recorded
            cases recorded
          · right
            simp only [if_neg same] at recorded
            exact inductionHypothesis recorded
      | _ =>
          rw [call] at recorded
          exact Or.inr (inductionHypothesis recorded)

/-- A call issues a session that is not recorded. -/
theorem unrecorded_of_fresh
    {record : RenewalRecord} {session : SessionKey}
    (earlier : renewalRuns.Execution log record.before)
    (fresh : FreshlyIssued (record :: log))
    (issued : record.input.issuedSession = some session) :
    record.before.sessions.lookup session = none := by
  cases recorded : record.before.sessions.lookup session with
  | none =>
      rfl
  | some lease =>
      exact absurd (issued_of_recorded earlier recorded)
        (fresh.not_issued issued)

/-- The references are in order after every run. -/
theorem referenced_of_execution
    (execution : renewalRuns.Execution log scheduler)
    (fresh : FreshlyIssued log) :
    scheduler.Referenced := by
  induction execution with
  | start started =>
      rw [started]
      constructor
      · rintro issue session ⟨state, present, _⟩
        cases present
      · intro issue state session present
        cases present
  | @step log record earlier taken inductionHypothesis =>
      rw [after_eq_call taken]
      apply (inductionHypothesis fresh.of_cons).call
      intro session issued
      exact unrecorded_of_fresh earlier fresh issued

theorem not_refers_step
    {record : RenewalRecord} {session : SessionKey}
    (taken : renewalRuns.Takes record)
    (fresh : FreshlyIssued (record :: log))
    (issued : session ∈ issuedSessions log)
    (dropped : ∀ issue, ¬ record.before.Refers issue session) :
    ∀ issue, ¬ record.after.Refers issue session := by
  intro issue refers
  rw [after_eq_call taken] at refers
  rcases refers_call refers with before | ⟨renewAt, now, call⟩
  · exact dropped issue before
  · have again : record.input.issuedSession = some session := by
      rw [call]
      rfl
    exact fresh.not_issued again issued

/-- An issued session that no issue refers to any more stays out. -/
theorem stays_dropped
    {record : RenewalRecord} {session : SessionKey}
    (execution : renewalRuns.Execution (newer ++ record :: older) scheduler)
    (fresh : FreshlyIssued (newer ++ record :: older))
    (issued : session ∈ issuedSessions (record :: older))
    (dropped : ∀ issue, ¬ record.after.Refers issue session) :
    ∀ issue, ¬ scheduler.Refers issue session := by
  induction newer generalizing scheduler with
  | nil =>
      cases execution with
      | step _ _ =>
          exact dropped
  | cons head rest inductionHypothesis =>
      cases execution with
      | step earlier taken =>
          have before := inductionHypothesis earlier fresh.of_cons
          have stillIssued :
              session ∈ issuedSessions (rest ++ record :: older) := by
            unfold issuedSessions
            rw [List.filterMap_append]
            exact List.mem_append_right _ issued
          exact not_refers_step taken fresh stillIssued before

/-- No two issues refer to one session. -/
theorem Referenced.exclusive
    (referenced : scheduler.Referenced) {first second : IssueKey}
    {session : SessionKey} (atFirst : scheduler.Refers first session)
    (atSecond : scheduler.Refers second session) :
    first = second := by
  obtain ⟨lease, found, firstOwner⟩ :=
    referenced.recorded first session atFirst
  obtain ⟨other, alsoFound, secondOwner⟩ :=
    referenced.recorded second session atSecond
  rw [found] at alsoFound
  cases alsoFound
  rw [← firstOwner, secondOwner]

/-- Both kinds of superseding calls leave the active session alone. -/
theorem active_of_supersedes
    {call : RenewalCall} {issue : IssueKey}
    (superseding :
      (∃ now, call = .beginIssue issue now) ∨
        ∃ newSession renewAt now,
          call = .issued issue newSession renewAt now) :
    ((scheduler.call call).1.entry issue).active =
      (scheduler.entry issue).active := by
  rcases superseding with ⟨now, begun⟩ | ⟨newSession, renewAt, now, issued⟩
  · rw [begun]
    change ((scheduler.beginIssue issue now).1.entry issue).active = _
    rcases scheduler.beginIssue_cases issue now with ⟨early, _⟩ | due
    · rw [early]
    · rw [due]
      unfold entry
      rw [HashMap.lookup_insert_eq_ite, if_pos rfl]
      rfl
  · rw [issued]
    change
      ((scheduler.issued issue newSession renewAt now).entry issue).active = _
    unfold RenewalScheduler.issued entry
    rw [HashMap.lookup_insert_eq_ite, if_pos rfl]
    rfl

theorem lookup_of_pending
    {issue : IssueKey} {session : SessionKey}
    (pending : (scheduler.entry issue).pending = some session) :
    scheduler.issues.lookup issue = some (scheduler.entry issue) := by
  unfold entry at pending ⊢
  cases found : scheduler.issues.lookup issue with
  | none =>
      rw [found] at pending
      cases pending
  | some state =>
      rfl

/-- A superseded session is in no issue right after the call. -/
theorem not_refers_of_supersedes
    {record : RenewalRecord} {session : SessionKey}
    (referenced : record.before.Referenced)
    (taken : renewalRuns.Takes record)
    (supersedes : Supersedes record session)
    (fresh :
      record.input.issuedSession = some session →
      record.before.sessions.lookup session = none) :
    ∀ issue, ¬ record.after.Refers issue session := by
  obtain ⟨issue, pending, gone, superseding⟩ := supersedes
  have present := lookup_of_pending pending
  have before : record.before.Refers issue session :=
    ⟨_, present, Or.inr pending⟩
  intro query refers
  by_cases same : query = issue
  · rw [same, ← refers_entry] at refers
    rcases refers with active | stillPending
    · rw [after_eq_call taken, active_of_supersedes superseding] at active
      exact referenced.apart issue _ session present active pending
    · exact gone stillPending
  · rw [after_eq_call taken] at refers
    rcases refers_call refers with elsewhere | ⟨renewAt, now, call⟩
    · exact same (referenced.exclusive elsewhere before)
    · obtain ⟨lease, found, _⟩ := referenced.recorded issue session before
      have missing := fresh (by rw [call]; rfl)
      rw [found] at missing
      cases missing

theorem issued_of_refers
    (execution : renewalRuns.Execution log scheduler)
    (fresh : FreshlyIssued log) {issue : IssueKey} {session : SessionKey}
    (refers : scheduler.Refers issue session) :
    session ∈ issuedSessions log := by
  have referenced := referenced_of_execution execution fresh
  obtain ⟨lease, found, _⟩ := referenced.recorded issue session refers
  exact issued_of_recorded execution found

/-- A superseded session is in no issue from then on. -/
theorem superseded_stays_out
    {record : RenewalRecord} {session : SessionKey}
    (execution : renewalRuns.Execution (newer ++ record :: older) scheduler)
    (fresh : FreshlyIssued (newer ++ record :: older))
    (supersedes : Supersedes record session) :
    ∀ issue, ¬ scheduler.Refers issue session := by
  have parts := execution.split
  have freshUpTo : FreshlyIssued (record :: older) := fresh.of_append
  have referenced := referenced_of_execution parts.1 freshUpTo.of_cons
  apply stays_dropped execution fresh
  · rw [issuedSessions_cons]
    obtain ⟨issue, pending, _⟩ := supersedes
    have refers : record.before.Refers issue session :=
      ⟨_, lookup_of_pending pending, Or.inr pending⟩
    exact List.mem_append_right _
      (issued_of_refers parts.1 freshUpTo.of_cons refers)
  · exact not_refers_of_supersedes referenced parts.2 supersedes
      (unrecorded_of_fresh parts.1 freshUpTo)

/-- Only a pending session is authenticated. -/
theorem pending_of_authenticated
    {session : SessionKey} {now nextIssue : UInt64}
    (succeeded :
      (scheduler.authenticated session now).2 = some nextIssue) :
    ∃ issue state,
      scheduler.issues.lookup issue = some state ∧
        state.pending = some session := by
  rcases scheduler.authenticated_cases session now with
    ignored | ⟨lease, state, _, _, present, pending, _⟩
  · rw [ignored] at succeeded
    cases succeeded
  · exact ⟨lease.issue, state, present, pending⟩

/-- The removal of a session that no issue refers to keeps the issues. -/
theorem issues_removed
    {session : SessionKey} (now : UInt64)
    (dropped : ∀ issue, ¬ scheduler.Refers issue session) :
    (scheduler.removed session now).issues = scheduler.issues := by
  rcases scheduler.removed_cases session now with
    ⟨_, same⟩ | ⟨lease, _, _, ⟨_, kept⟩ | ⟨state, present, changed⟩⟩
  · rw [same]
  · exact kept
  · have unused : ¬ state.Refers session := fun refers =>
      dropped lease.issue ⟨state, present, refers⟩
    rw [changed, IssueState.without_of_not_refers now unused]
    exact HashMap.insert_eq_self present

/-- What the scheduler promises about the references of its issues. -/
structure KeepsReferences
    (log : List RenewalRecord) (scheduler : RenewalScheduler) : Prop where
  recorded :
    ∀ issue session,
      scheduler.Refers issue session →
      ∃ lease,
        scheduler.sessions.lookup session = some lease ∧ lease.issue = issue
  exclusive :
    ∀ first second session,
      scheduler.Refers first session →
      scheduler.Refers second session →
      first = second
  apart :
    ∀ issue state session,
      scheduler.issues.lookup issue = some state →
      state.active = some session →
      state.pending ≠ some session
  authenticates :
    ∀ record ∈ log,
      ∀ session now nextIssue,
        record.input = .authenticated session now →
        record.output = .scheduled (some nextIssue) →
        ∃ issue state,
          record.before.issues.lookup issue = some state ∧
            state.pending = some session
  superseded :
    ∀ record ∈ log,
      ∀ session issue,
        Supersedes record session → ¬ scheduler.Refers issue session
  removed :
    ∀ record ∈ log,
      ∀ session now issue,
        record.input = .removed session now →
        record.after.sessions.lookup session = none ∧
          ¬ record.after.Refers issue session
  removedForGood :
    ∀ record ∈ log,
      ∀ session now issue,
        record.input = .removed session now →
        record.before.sessions.lookup session ≠ none →
        ¬ scheduler.Refers issue session
  removedUnused :
    ∀ record ∈ log,
      ∀ session now,
        record.input = .removed session now →
        (∀ issue, ¬ record.before.Refers issue session) →
        record.after.issues = record.before.issues
  removedSuperseded :
    ∀ newer record older session now,
      log = newer ++ record :: older →
      record.input = .removed session now →
      (∃ earlier ∈ older, Supersedes earlier session) →
      record.after.issues = record.before.issues
  independent :
    ∀ record ∈ log,
      ∀ issue,
        record.before.concerned record.input ≠ some issue →
        record.after.issues.lookup issue = record.before.issues.lookup issue

theorem removedUnused_of_takes
    {record : RenewalRecord} {session : SessionKey} {now : UInt64}
    (taken : renewalRuns.Takes record)
    (call : record.input = .removed session now)
    (dropped : ∀ issue, ¬ record.before.Refers issue session) :
    record.after.issues = record.before.issues := by
  rw [after_eq_call taken, call]
  exact issues_removed now dropped

theorem removed_of_takes
    {record : RenewalRecord} {session : SessionKey} {now : UInt64}
    (earlier : renewalRuns.Execution log record.before)
    (fresh : FreshlyIssued (record :: log))
    (taken : renewalRuns.Takes record)
    (call : record.input = .removed session now) :
    record.after.sessions.lookup session = none ∧
      ∀ issue, ¬ record.after.Refers issue session := by
  rw [after_eq_call taken, call]
  constructor
  · change (record.before.removed session now).sessions.lookup session = _
    rw [sessions_removed, if_pos rfl]
  · exact not_refers_removed
      (referenced_of_execution earlier fresh.of_cons) session now

/-- In every run in which each session is issued at most once the references
are in order and every call keeps to its own issue. -/
theorem keepsReferences_of_execution
    (execution : renewalRuns.Execution log scheduler)
    (fresh : FreshlyIssued log) :
    KeepsReferences log scheduler := by
  have referenced := referenced_of_execution execution fresh
  constructor
  case recorded =>
    exact referenced.recorded
  case exclusive =>
    intro first second session atFirst atSecond
    exact referenced.exclusive atFirst atSecond
  case apart =>
    exact referenced.apart
  case authenticates =>
    intro record member session now nextIssue call succeeded
    obtain ⟨_, _, _, taken⟩ := execution.earlier_of_mem member
    rw [output_eq_call taken, call] at succeeded
    exact pending_of_authenticated (RenewalReply.scheduled.inj succeeded)
  case superseded =>
    intro record member session issue supersedes
    obtain ⟨newer, older, parts⟩ := List.append_of_mem member
    rw [parts] at execution fresh
    exact superseded_stays_out execution fresh supersedes issue
  case removed =>
    intro record member session now issue call
    obtain ⟨newer, older, parts⟩ := List.append_of_mem member
    rw [parts] at execution fresh
    have removal := removed_of_takes execution.split.1
      (FreshlyIssued.of_append fresh) execution.split.2 call
    exact ⟨removal.1, removal.2 issue⟩
  case removedForGood =>
    intro record member session now issue call recorded
    obtain ⟨newer, older, parts⟩ := List.append_of_mem member
    rw [parts] at execution fresh
    have removal := removed_of_takes execution.split.1
      (FreshlyIssued.of_append fresh) execution.split.2 call
    obtain ⟨lease, found⟩ := Option.ne_none_iff_exists'.mp recorded
    have issued : session ∈ issuedSessions (record :: older) := by
      rw [issuedSessions_cons]
      exact List.mem_append_right _
        (issued_of_recorded execution.split.1 found)
    exact stays_dropped execution fresh issued removal.2 issue
  case removedUnused =>
    intro record member session now call dropped
    obtain ⟨_, _, _, taken⟩ := execution.earlier_of_mem member
    exact removedUnused_of_takes taken call dropped
  case removedSuperseded =>
    rintro newer record older session now parts call
      ⟨superseding, member, supersedes⟩
    rw [parts] at execution fresh
    obtain ⟨earlier, taken⟩ := execution.split
    have freshBefore : FreshlyIssued older :=
      (FreshlyIssued.of_append fresh).of_cons
    apply removedUnused_of_takes taken call
    obtain ⟨between, before, olderParts⟩ := List.append_of_mem member
    rw [olderParts] at earlier freshBefore
    exact superseded_stays_out earlier freshBefore supersedes
  case independent =>
    intro record member issue other
    obtain ⟨_, _, _, taken⟩ := execution.earlier_of_mem member
    rw [after_eq_call taken]
    exact call_other other

/-- The issue and the sessions of the tests in `renewal.rs`. -/
def testIssue : IssueKey :=
  ⟨"peer", .v4 0xC0000202#32 (Fin.last 32)⟩

def testSession (byte : UInt8) : SessionKey :=
  ⟨⟨List.Vector.replicate 16 byte⟩, 1⟩

/-- The first session is superseded before it answers. -/
def supersededCalls : List RenewalCall :=
  [.beginIssue testIssue 1000,
    .issued testIssue (testSession 1) 1120 1000,
    .beginIssue testIssue 1011,
    .issued testIssue (testSession 2) 1131 1011,
    .authenticated (testSession 1) 1012,
    .authenticated (testSession 2) 1013,
    .removed (testSession 1) 1020]

theorem keepsReferences_of_supersededCalls :
    ∃ log scheduler,
      renewalRuns.Execution log scheduler ∧
        FreshlyIssued log ∧
        scheduler.issues.lookup testIssue =
          some ⟨some (testSession 2), none, 1041⟩ ∧
        KeepsReferences log scheduler := by
  have ran :
      (renewalRuns.run ⟨∅, ∅⟩ supersededCalls).map
        (fun result =>
          (issuedSessions result.1, result.2.issues.lookup testIssue)) =
        some ([testSession 2, testSession 1],
          some ⟨some (testSession 2), none, 1041⟩) := by
    decide
  obtain ⟨log, scheduler, execution, observed⟩ :=
    Machine.exists_execution_of_run rfl ran
  rw [Prod.mk.injEq] at observed
  have fresh : FreshlyIssued log := by
    unfold FreshlyIssued
    rw [observed.1]
    decide
  exact ⟨log, scheduler, execution, fresh, observed.2,
    keepsReferences_of_execution execution fresh⟩

/-! ## When an issue is due -/

/-- The call changed the state of the issue, or created it. -/
def Changes (record : RenewalRecord) (issue : IssueKey) : Prop :=
  record.after.issues.lookup issue ≠ record.before.issues.lookup issue

/-- The issue is due at most ten seconds after its last change. -/
def DueSoon
    (log : List RenewalRecord) (issue : IssueKey) (state : IssueState) :
    Prop :=
  ∃ newer record older,
    log = newer ++ record :: older ∧
      Changes record issue ∧
      (∀ later ∈ newer, ¬ Changes later issue) ∧
      state.nextIssue.toNat ≤ record.input.now.toNat + 10

theorem DueSoon.cons
    {issue : IssueKey} {state : IssueState} {record : RenewalRecord}
    (due : DueSoon log issue state) (unchanged : ¬ Changes record issue) :
    DueSoon (record :: log) issue state := by
  obtain ⟨newer, change, older, parts, changes, quiet, soon⟩ := due
  refine ⟨record :: newer, change, older, ?_, changes, ?_, soon⟩
  · rw [parts]
    rfl
  · intro later member
    rcases List.mem_cons.mp member with isRecord | earlier
    · rw [isRecord]
      exact unchanged
    · exact quiet later earlier

theorem dueSoon_of_change
    {issue : IssueKey} {state : IssueState} {record : RenewalRecord}
    (changes : Changes record issue)
    (soon : state.nextIssue.toNat ≤ record.input.now.toNat + 10) :
    DueSoon (record :: log) issue state :=
  ⟨[], record, log, rfl, changes, by simp, soon⟩

/-- Time has passed since the last change. -/
theorem DueSoon.le_of_chronological
    {issue : IssueKey} {state : IssueState} {record : RenewalRecord}
    (due : DueSoon log issue state)
    (ordered : Chronological RenewalCall.now (record :: log)) :
    state.nextIssue.toNat ≤ record.input.now.toNat + 10 := by
  obtain ⟨newer, change, older, parts, _, _, soon⟩ := due
  have member : change ∈ log := by
    rw [parts]
    exact List.mem_append_right newer List.mem_cons_self
  have passed := (List.pairwise_cons.mp ordered).1 change member
  rw [UInt64.le_iff_toNat_le] at passed
  omega

theorem toNat_retry_le (now : UInt64) :
    (saturatingAdd now issueRetrySeconds).toNat ≤ now.toNat + 10 := by
  rw [toNat_saturatingAdd]
  have retry : issueRetrySeconds.toNat = 5 := rfl
  omega

theorem toNat_handshake_le (now : UInt64) :
    (saturatingAdd now handshakeTimeoutSeconds).toNat ≤ now.toNat + 10 := by
  rw [toNat_saturatingAdd]
  have timeout : handshakeTimeoutSeconds.toNat = 10 := rfl
  omega

/-- A removal that touches a waiting issue brings it forward, unless the issue
waits for a pending session. -/
theorem nextIssue_without
    {state : IssueState} {session : SessionKey} {now : UInt64}
    (changed : state.without session now ≠ state) :
    (state.without session now).nextIssue.toNat ≤ now.toNat + 10 ∨
      (state.pending ≠ none ∧
        (state.without session now).nextIssue = state.nextIssue) := by
  by_cases soon :
      state.pending = some session ∨
        state.active = some session ∧
          (if state.pending = some session then none else state.pending) =
            none
  · left
    have value :
        (state.without session now).nextIssue =
          min state.nextIssue (saturatingAdd now issueRetrySeconds) :=
      if_pos soon
    have retry := toNat_retry_le now
    rw [value, toNat_min]
    omega
  · right
    have value : (state.without session now).nextIssue = state.nextIssue :=
      if_neg soon
    refine ⟨?_, value⟩
    intro nonePending
    have refers : state.Refers session := by
      by_contra unused
      exact changed (IssueState.without_of_not_refers now unused)
    rcases refers with active | pending
    · refine soon (Or.inr ⟨active, ?_⟩)
      rw [nonePending]
      rfl
    · rw [nonePending] at pending
      cases pending

/-- An issue that waits, for its first session or for a pending one, is due
soon after its last change. -/
theorem dueSoon_of_waiting
    (execution : renewalRuns.Execution log scheduler)
    (ordered : Chronological RenewalCall.now log)
    {issue : IssueKey} {state : IssueState}
    (present : scheduler.issues.lookup issue = some state)
    (waiting : state.active = none ∨ state.pending ≠ none) :
    DueSoon log issue state := by
  induction execution generalizing state with
  | start started =>
      rw [started] at present
      cases present
  | @step log record earlier taken inductionHypothesis =>
      have earlierOrdered : Chronological RenewalCall.now log :=
        (List.pairwise_cons.mp ordered).2
      by_cases changes : Changes record issue
      · apply dueSoon_of_change changes
        have reached := present
        rw [after_eq_call taken] at reached
        have becomes := becomes_call reached
        unfold Changes at changes
        rw [present] at changes
        generalize call : record.input = input at becomes ⊢
        cases becomes with
        | kept same =>
            exact absurd same.symm changes
        | begun =>
            exact toNat_retry_le _
        | issued =>
            exact toNat_handshake_le _
        | authenticated known pending =>
            rcases waiting with inactive | pending
            · cases inactive
            · exact absurd rfl pending
        | @removed before session now known =>
            have changed : before.without session now ≠ before := by
              intro same
              rw [same, known] at changes
              exact changes rfl
            rcases nextIssue_without changed with soon | ⟨pending, kept⟩
            · exact soon
            · -- the issue was already waiting for its pending session
              have due := inductionHypothesis earlierOrdered known
                (Or.inr pending)
              rw [kept, ← call]
              exact due.le_of_chronological ordered
      · have same := not_not.mp changes
        rw [present] at same
        exact (inductionHypothesis earlierOrdered same.symm waiting).cons
          changes

/-- An issue without an active session is due at most ten seconds after the
last call that changed it. -/
theorem due_without_active
    (execution : renewalRuns.Execution log scheduler)
    (ordered : Chronological RenewalCall.now log)
    {issue : IssueKey} {state : IssueState}
    (present : scheduler.issues.lookup issue = some state)
    (inactive : state.active = none) :
    ∃ newer record older,
      log = newer ++ record :: older ∧
        Changes record issue ∧
        (∀ later ∈ newer, ¬ Changes later issue) ∧
        state.nextIssue.toNat ≤ record.input.now.toNat + 10 :=
  dueSoon_of_waiting execution ordered present (Or.inl inactive)

/-- The pending session, then the active one, is removed. -/
def failedCalls : List RenewalCall :=
  [.beginIssue testIssue 1000,
    .issued testIssue (testSession 1) 1120 1000,
    .authenticated (testSession 1) 1002,
    .beginIssue testIssue 1030,
    .issued testIssue (testSession 2) 1240 1030,
    .removed (testSession 1) 1035,
    .removed (testSession 2) 1036]

theorem due_after_failedCalls :
    ∃ log scheduler,
      renewalRuns.Execution log scheduler ∧
        scheduler.issues.lookup testIssue = some ⟨none, none, 1040⟩ ∧
        ∃ newer record older,
          log = newer ++ record :: older ∧
            Changes record testIssue ∧
            (∀ later ∈ newer, ¬ Changes later testIssue) ∧
            1040 ≤ record.input.now.toNat + 10 := by
  have ran :
      (renewalRuns.run ⟨∅, ∅⟩ failedCalls).map
        (fun result =>
          (result.1.map fun record => record.input,
            result.2.issues.lookup testIssue)) =
        some (failedCalls.reverse, some ⟨none, none, 1040⟩) := by
    decide
  obtain ⟨log, scheduler, execution, observed⟩ :=
    Machine.exists_execution_of_run rfl ran
  rw [Prod.mk.injEq] at observed
  have ordered : Chronological RenewalCall.now log := by
    have inputs :
        (log.map fun record => record.input).Pairwise
          fun newer older => older.now ≤ newer.now := by
      rw [observed.1]
      decide
    exact List.pairwise_map.mp inputs
  exact ⟨log, scheduler, execution, observed.2,
    due_without_active execution ordered observed.2 rfl⟩

end RenewalScheduler

end WgLink
