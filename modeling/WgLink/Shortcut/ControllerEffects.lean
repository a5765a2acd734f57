import WgLink.Library.Machine
import WgLink.Shortcut.Controller
import WgLink.Shortcut.RouteAgreement

/-!
# Effects of controller calls

Between calls no session drains, so the owner of a selector is its one active
session.  A call leaves sessions and owners alone, accepts a session, hands a
selector over to one, or ends some of them; what it means for owners follows
from these four effects.
-/

namespace WgLink

open WgLink.Library

/-- A call of the controller.  `prepared` is what the device answers to the
preparation, if there is one. -/
inductive ControllerCall where
  | receiveTicket (ticket : ShortcutTicket) (authenticatedSender : String)
      (now : UInt64) (prepared : Except String Unit)
  | handleDeviceEvent (event : DeviceEvent) (now : UInt64)
      (order : List SessionKey)
  | expire (now : UInt64) (order : List SessionKey)
  | fail (session : SessionKey)

/-- The calls that remove routes of sessions which end. -/
def ControllerCall.removesRoutes : ControllerCall → Bool
  | .expire _ _ => true
  | .fail _ => true
  | _ => false

/-- What a call returns when it succeeds. -/
inductive ControllerOutcome where
  | session (session : SessionKey)
  | event (outcome : DeviceEventOutcome)
  | expired (sessions : List SessionKey)
  | removed (present : Bool)

/-- The steps of controller runs. -/
abbrev ControllerStep (R : Type) :=
  Record (ShortcutController R) ControllerCall
    (Except String ControllerOutcome)

namespace ShortcutController

variable {R : Type}

/-- The active session of a selector. -/
def owner (self : ShortcutController R) (selector : IpNet) :
    Option SessionKey :=
  self.manager.activeRoutes.lookup selector

/-- What the controller keeps about a session. -/
def managed (self : ShortcutController R) (session : SessionKey) :
    Option ManagedSession :=
  self.manager.sessions.lookup session

/-! ## What a call can do to sessions and owners -/

/-- The call leaves sessions and owners as they are. -/
structure Same (before after : ShortcutController R) : Prop where
  managed : ∀ session, after.managed session = before.managed session
  owner : ∀ selector, after.owner selector = before.owner selector

/-- The call accepts the session of a ticket. -/
structure Accepted
    (before after : ShortcutController R) (ticket : ShortcutTicket) :
    Prop where
  absent : before.managed ticket.session = none
  managed :
    ∀ session,
      after.managed session =
        if session = ticket.session then
          some ⟨ticket, .handshaking⟩
        else
          before.managed session
  owner : ∀ selector, after.owner selector = before.owner selector

/-- The call hands a selector over to a session, and forgets the one that had
it. -/
structure HandedOver
    (before after : ShortcutController R)
    (session : SessionKey) (entry : ManagedSession) : Prop where
  present : before.managed session = some entry
  inactive : entry.phase ≠ .active
  managed :
    ∀ query,
      after.managed query =
        if query = session then
          some { entry with phase := .active }
        else if before.owner entry.ticket.selector = some query then
          none
        else
          before.managed query
  owner :
    ∀ selector,
      after.owner selector =
        if selector = entry.ticket.selector then
          some session
        else
          before.owner selector

/-- The call forgets the sessions `ended` and what they owned. -/
structure Ended
    (before after : ShortcutController R) (ended : SessionKey → Prop) :
    Prop where
  gone : ∀ session, ended session → after.managed session = none
  managed :
    ∀ session, ¬ ended session →
      after.managed session = before.managed session
  freed :
    ∀ selector session,
      before.owner selector = some session → ended session →
      after.owner selector = none
  owner :
    ∀ selector,
      (∀ session,
        before.owner selector = some session → ¬ ended session) →
      after.owner selector = before.owner selector

/-- Between calls the owners are the active sessions and no session drains. -/
structure Settled (controller : ShortcutController R) : Prop where
  owned : controller.manager.Owned
  owns : controller.manager.ActiveOwns
  undrained : ∀ session, controller.manager.phase session ≠ some .draining

theorem Settled.same
    {before after : ShortcutController R} (settled : Settled before)
    (same : Same before after) : Settled after := by
  refine ⟨?_, ?_, ?_⟩
  · intro selector session owns
    obtain ⟨entry, present, matching, active⟩ :=
      settled.owned selector session ((same.owner selector).symm.trans owns)
    exact ⟨entry, (same.managed session).trans present, matching, active⟩
  · intro session entry present active
    have earlier := (same.managed session).symm.trans present
    exact (same.owner _).trans (settled.owns session entry earlier active)
  · intro session
    change (after.managed session).map ManagedSession.phase ≠ _
    rw [same.managed session]
    exact settled.undrained session

theorem Settled.accepted
    {before after : ShortcutController R} (settled : Settled before)
    {ticket : ShortcutTicket} (accepted : Accepted before after ticket) :
    Settled after := by
  refine ⟨?_, ?_, ?_⟩
  · intro selector session owns
    obtain ⟨entry, present, matching, active⟩ :=
      settled.owned selector session
        ((accepted.owner selector).symm.trans owns)
    have apart : session ≠ ticket.session := by
      intro same
      subst same
      rw [show before.manager.sessions.lookup ticket.session = none from
        accepted.absent] at present
      cases present
    have kept := accepted.managed session
    rw [if_neg apart] at kept
    exact ⟨entry, kept.trans present, matching, active⟩
  · intro session entry present active
    have kept := accepted.managed session
    split at kept
    · have same := kept.symm.trans present
      cases same
      cases active
    · have earlier := settled.owns session entry (kept.symm.trans present)
        active
      exact (accepted.owner _).trans earlier
  · intro session
    change (after.managed session).map ManagedSession.phase ≠ _
    rw [accepted.managed session]
    split
    · simp
    · exact settled.undrained session

theorem Settled.handedOver
    {before after : ShortcutController R} (settled : Settled before)
    {session : SessionKey} {entry : ManagedSession}
    (handed : HandedOver before after session entry) :
    Settled after := by
  refine ⟨?_, ?_, ?_⟩
  · intro selector holder owns
    have owners := (handed.owner selector).symm.trans owns
    split at owners
    · rename_i same
      cases owners
      have present := handed.managed session
      rw [if_pos rfl] at present
      exact ⟨_, present, same.symm, rfl⟩
    · rename_i otherSelector
      obtain ⟨other, present, matching, active⟩ :=
        settled.owned selector holder owners
      have apart : holder ≠ session := by
        intro same
        subst same
        have sameEntry := present.symm.trans handed.present
        cases sameEntry
        exact handed.inactive active
      have notPrevious :
          before.owner entry.ticket.selector ≠ some holder := by
        intro previous
        obtain ⟨again, againPresent, againMatching, _⟩ :=
          settled.owned _ holder previous
        rw [present] at againPresent
        cases againPresent
        exact otherSelector (matching.symm.trans againMatching)
      have kept := handed.managed holder
      rw [if_neg apart, if_neg notPrevious] at kept
      exact ⟨other, kept.trans present, matching, active⟩
  · intro query other present active
    have kept := (handed.managed query).symm.trans present
    split at kept
    · rename_i same
      cases kept
      have owners := handed.owner entry.ticket.selector
      rw [if_pos rfl] at owners
      rw [same]
      exact owners
    · split at kept
      · cases kept
      · rename_i notPrevious
        have earlier := settled.owns query other kept active
        have owners := handed.owner other.ticket.selector
        rw [if_neg] at owners
        · exact owners.trans earlier
        · intro same
          rw [same] at earlier
          exact notPrevious earlier
  · intro query
    change (after.managed query).map ManagedSession.phase ≠ _
    rw [handed.managed query]
    split
    · simp
    · split
      · simp
      · exact settled.undrained query

theorem Ended.owner_of_after
    {before after : ShortcutController R} {ended : SessionKey → Prop}
    (ends : Ended before after ended)
    {selector : IpNet} {session : SessionKey}
    (owns : after.owner selector = some session) :
    before.owner selector = some session ∧ ¬ ended session := by
  by_cases freed :
      ∃ holder, before.owner selector = some holder ∧ ended holder
  · obtain ⟨holder, held, holderEnded⟩ := freed
    rw [ends.freed selector holder held holderEnded] at owns
    cases owns
  · have kept :
        ∀ holder, before.owner selector = some holder → ¬ ended holder :=
      fun holder held holderEnded => freed ⟨holder, held, holderEnded⟩
    rw [ends.owner selector kept] at owns
    exact ⟨owns, kept session owns⟩

theorem Settled.ended
    {before after : ShortcutController R} (settled : Settled before)
    {ended : SessionKey → Prop} (ends : Ended before after ended) :
    Settled after := by
  refine ⟨?_, ?_, ?_⟩
  · intro selector session owns
    obtain ⟨earlier, stays⟩ := ends.owner_of_after owns
    obtain ⟨entry, present, matching, active⟩ :=
      settled.owned selector session earlier
    exact ⟨entry, (ends.managed session stays).trans present, matching,
      active⟩
  · intro session entry present active
    have stays : ¬ ended session := by
      intro gone
      have absent := (ends.gone session gone).symm.trans present
      cases absent
    have earlier :=
      settled.owns session entry
        ((ends.managed session stays).symm.trans present) active
    have kept :
        ∀ holder, before.owner entry.ticket.selector = some holder →
          ¬ ended holder := by
      intro holder held
      have same := held.symm.trans earlier
      cases same
      exact stays
    exact (ends.owner _ kept).trans earlier
  · intro session draining
    change (after.managed session).map ManagedSession.phase = _ at draining
    by_cases gone : ended session
    · rw [ends.gone session gone] at draining
      cases draining
    · rw [ends.managed session gone] at draining
      exact settled.undrained session draining

/-- What a call does, by its input. -/
inductive Effect (record : ControllerStep R) : Prop
  | same (same : Same record.before record.after)
  | accepted (ticket : ShortcutTicket) (sender : String) (now : UInt64)
      (input : record.input = .receiveTicket ticket sender now (.ok ()))
      (valid : ticket.validate now = .ok ())
      (issuer : ticket.issuerPublicKey = sender)
      (recipient :
        ticket.recipientPublicKey = record.before.localPublicKey)
      (output : record.output = .ok (.session ticket.session))
      (accepted : Accepted record.before record.after ticket)
  | handedOver (session : SessionKey) (now : UInt64)
      (order : List SessionKey) (entry : ManagedSession)
      (outcome : DeviceEventOutcome)
      (input :
        record.input =
          .handleDeviceEvent (.authenticatedHandshake session) now order)
      (inTime : now < entry.ticket.expiresAt)
      (output : record.output = .ok (.event outcome))
      (handed : HandedOver record.before record.after session entry)
  | expired (now : UInt64) (order expired : List SessionKey)
      (input : record.input = .expire now order)
      (output : record.output = .ok (.expired expired))
      (mem_iff :
        ∀ session,
          session ∈ expired ↔
            ∃ entry,
              record.before.managed session = some entry ∧
              entry.ticket.expiresAt ≤ now)
      (ends : Ended record.before record.after (· ∈ expired))
  | failed (session : SessionKey)
      (input : record.input = .fail session)
      (ends : Ended record.before record.after (· = session))

theorem Effect.settled
    {record : ControllerStep R} (effect : Effect record)
    (settled : Settled record.before) : Settled record.after := by
  cases effect with
  | same same =>
      exact settled.same same
  | accepted ticket sender now input valid issuer recipient output accepted =>
      exact settled.accepted accepted
  | handedOver session now order entry outcome input inTime output handed =>
      exact settled.handedOver handed
  | expired now order expired input output mem_iff ends =>
      exact settled.ended ends
  | failed session input ends =>
      exact settled.ended ends

/-! ## Owners change in two ways -/

/-- The call hands the selector over to a session that was not active and has
not expired. -/
def TakesOver (record : ControllerStep R) (selector : IpNet) : Prop :=
  ∃ session now order entry,
    record.input =
      .handleDeviceEvent (.authenticatedHandshake session) now order ∧
    record.before.managed session = some entry ∧
    entry.ticket.selector = selector ∧
    now < entry.ticket.expiresAt ∧
    (entry.phase = .prepared ∨ entry.phase = .handshaking) ∧
    record.after.owner selector = some session

/-- The call expires or fails the session that owns the selector. -/
def GivesUp (record : ControllerStep R) (selector : IpNet) : Prop :=
  ∃ session entry,
    record.before.owner selector = some session ∧
    record.before.managed session = some entry ∧
    record.after.owner selector = none ∧
    (record.input = .fail session ∨
      ∃ now order expired,
        record.input = .expire now order ∧
        entry.ticket.expiresAt ≤ now ∧
        record.output = .ok (.expired expired) ∧
        session ∈ expired)

theorem fresh_of_settled
    {self : ShortcutController R} (settled : Settled self)
    {session : SessionKey} {entry : ManagedSession}
    (present : self.managed session = some entry)
    (inactive : entry.phase ≠ .active) :
    entry.phase = .prepared ∨ entry.phase = .handshaking := by
  have undrained : entry.phase ≠ .draining := by
    intro draining
    apply settled.undrained session
    change (self.managed session).map ManagedSession.phase = _
    rw [present, Option.map_some, draining]
  cases phase : entry.phase with
  | prepared =>
      exact .inl rfl
  | handshaking =>
      exact .inr rfl
  | active =>
      exact absurd phase inactive
  | draining =>
      exact absurd phase undrained

theorem Effect.owner_changes
    {record : ControllerStep R} (effect : Effect record)
    (settled : Settled record.before) {selector : IpNet}
    (changed :
      record.before.owner selector ≠ record.after.owner selector) :
    TakesOver record selector ∨ GivesUp record selector := by
  cases effect with
  | same same =>
      exact absurd (same.owner selector).symm changed
  | accepted ticket sender now input valid issuer recipient output accepted =>
      exact absurd (accepted.owner selector).symm changed
  | handedOver session now order entry outcome input inTime output handed =>
      left
      have owners := handed.owner selector
      by_cases same : selector = entry.ticket.selector
      · rw [if_pos same] at owners
        exact ⟨session, now, order, entry, input, handed.present, same.symm,
          inTime, fresh_of_settled settled handed.present handed.inactive,
          owners⟩
      · rw [if_neg same] at owners
        exact absurd owners.symm changed
  | expired now order expired input output mem_iff ends =>
      right
      by_cases freed :
          ∃ session, record.before.owner selector = some session ∧
            session ∈ expired
      · obtain ⟨session, owns, ended⟩ := freed
        obtain ⟨entry, present, late⟩ := (mem_iff session).mp ended
        exact ⟨session, entry, owns, present,
          ends.freed selector session owns ended,
          .inr ⟨now, order, expired, input, late, output, ended⟩⟩
      · apply absurd _ changed
        apply (ends.owner selector _).symm
        intro session owns ended
        exact freed ⟨session, owns, ended⟩
  | failed session input ends =>
      right
      by_cases owns : record.before.owner selector = some session
      · obtain ⟨entry, present, _⟩ := settled.owned selector session owns
        exact ⟨session, entry, owns, present,
          ends.freed selector session owns rfl, .inl input⟩
      · apply absurd _ changed
        apply (ends.owner selector _).symm
        intro holder held same
        subst same
        exact owns held

/-! ## A replaced session stays out -/

/-- The call accepts a ticket for a session that is not there. -/
def Accepts (record : ControllerStep R) (session : SessionKey) : Prop :=
  ∃ ticket sender now,
    record.input = .receiveTicket ticket sender now (.ok ()) ∧
    ticket.session = session ∧
    ticket.validate now = .ok () ∧
    ticket.issuerPublicKey = sender ∧
    ticket.recipientPublicKey = record.before.localPublicKey ∧
    record.before.managed session = none ∧
    record.output = .ok (.session session)

theorem Effect.appears
    {record : ControllerStep R} (effect : Effect record)
    {session : SessionKey}
    (absent : record.before.managed session = none)
    (present : record.after.managed session ≠ none) :
    Accepts record session := by
  cases effect with
  | same same =>
      exact absurd ((same.managed session).trans absent) present
  | accepted ticket sender now input valid issuer recipient output accepted =>
      have kept := accepted.managed session
      by_cases same : session = ticket.session
      · subst same
        exact ⟨ticket, sender, now, input, rfl, valid, issuer, recipient,
          absent, output⟩
      · rw [if_neg same] at kept
        exact absurd (kept.trans absent) present
  | handedOver other now order entry outcome input inTime output handed =>
      have kept := handed.managed session
      have apart : session ≠ other := by
        intro same
        rw [same, handed.present] at absent
        cases absent
      rw [if_neg apart] at kept
      split at kept
      · exact absurd kept present
      · exact absurd (kept.trans absent) present
  | expired now order expired input output mem_iff ends =>
      by_cases gone : session ∈ expired
      · exact absurd (ends.gone session gone) present
      · exact absurd ((ends.managed session gone).trans absent) present
  | failed other input ends =>
      by_cases gone : session = other
      · exact absurd (ends.gone session gone) present
      · exact absurd ((ends.managed session gone).trans absent) present

/-- The session that loses its selector to another one is forgotten. -/
theorem Effect.replaced_forgotten
    {record : ControllerStep R} (effect : Effect record)
    {selector : IpNet} {session other : SessionKey}
    (owned : record.before.owner selector = some session)
    (replaced : record.after.owner selector = some other)
    (apart : session ≠ other) :
    record.after.managed session = none := by
  have changed :
      record.before.owner selector ≠ record.after.owner selector := by
    rw [owned, replaced]
    exact fun same => apart (Option.some.inj same)
  cases effect with
  | same same =>
      exact absurd (same.owner selector).symm changed
  | accepted ticket sender now input valid issuer recipient output accepted =>
      exact absurd (accepted.owner selector).symm changed
  | handedOver taker now order entry outcome input inTime output handed =>
      have owners := handed.owner selector
      split at owners
      · rename_i same
        have taken := replaced.symm.trans owners
        cases taken
        subst same
        have forgotten := handed.managed session
        rw [if_neg apart, if_pos owned] at forgotten
        exact forgotten
      · exact absurd owners.symm changed
  | expired now order expired input output mem_iff ends =>
      have earlier := (ends.owner_of_after replaced).1
      exact absurd (earlier.trans replaced.symm) changed
  | failed ended input ends =>
      have earlier := (ends.owner_of_after replaced).1
      exact absurd (earlier.trans replaced.symm) changed

/-! ## A replacement that comes to nothing -/

/-- The call is the end of a session other than the owner: it fails, its
handshake or its ticket is rejected, or it expires while the owner does not. -/
def Withdraws
    (record : ControllerStep R) (replacement holder : SessionKey) : Prop :=
  record.input = .fail replacement ∨
  (∃ now order error,
    record.input =
      .handleDeviceEvent (.authenticatedHandshake replacement) now order ∧
    record.output = .error error) ∨
  (∃ ticket sender now prepared error,
    record.input = .receiveTicket ticket sender now prepared ∧
    ticket.session = replacement ∧
    record.output = .error error) ∨
  (∃ now order entry holderEntry,
    record.input = .expire now order ∧
    record.before.managed replacement = some entry ∧
    entry.ticket.expiresAt ≤ now ∧
    record.before.managed holder = some holderEntry ∧
    now < holderEntry.ticket.expiresAt)

section Withdraws

variable {record : ControllerStep R} {selector : IpNet}
  {holder replacement session : SessionKey}

theorem Withdraws.eq_of_fail
    (withdraws : Withdraws record replacement holder)
    (input : record.input = .fail session) :
    session = replacement := by
  unfold Withdraws at withdraws
  rw [input] at withdraws
  rcases withdraws with failing | ⟨_, _, _, rejected, _⟩ |
    ⟨_, _, _, _, _, refused, _⟩ | ⟨_, _, _, _, expiring, _⟩
  · cases failing
    rfl
  · cases rejected
  · cases refused
  · cases expiring

theorem Withdraws.early_of_expire
    (withdraws : Withdraws record replacement holder)
    {now : UInt64} {order : List SessionKey}
    (input : record.input = .expire now order) :
    ∃ entry,
      record.before.managed holder = some entry ∧
        now < entry.ticket.expiresAt := by
  unfold Withdraws at withdraws
  rw [input] at withdraws
  rcases withdraws with failing | ⟨_, _, _, rejected, _⟩ |
    ⟨_, _, _, _, _, refused, _⟩ | ⟨_, _, _, entry, expiring, _, _, found, early⟩
  · cases failing
  · cases rejected
  · cases refused
  · cases expiring
    exact ⟨entry, found, early⟩

/-- A withdrawal by another call is an error. -/
theorem Withdraws.refused
    (withdraws : Withdraws record replacement holder) :
    record.input = .fail replacement ∨
      (∃ now order, record.input = .expire now order) ∨
      ∃ error, record.output = .error error := by
  rcases withdraws with failing | ⟨_, _, error, _, refused⟩ |
    ⟨_, _, _, _, error, _, _, refused⟩ | ⟨now, order, _, _, expiring, _⟩
  · exact Or.inl failing
  · exact Or.inr (Or.inr ⟨error, refused⟩)
  · exact Or.inr (Or.inr ⟨error, refused⟩)
  · exact Or.inr (Or.inl ⟨now, order, expiring⟩)

theorem Effect.undisturbed
    (effect : Effect record)
    (owns : record.before.owner selector = some holder)
    (apart : replacement ≠ holder)
    (withdraws : Withdraws record replacement holder) :
    record.after.owner selector = some holder ∧
      record.after.managed holder = record.before.managed holder := by
  cases effect with
  | same same =>
      exact ⟨(same.owner selector).trans owns, same.managed holder⟩
  | accepted ticket sender now input valid issuer recipient output accepted =>
      have refused := withdraws.refused
      rw [input, output] at refused
      rcases refused with failing | ⟨_, _, expiring⟩ | ⟨_, error⟩
      · cases failing
      · cases expiring
      · cases error
  | handedOver session now order entry outcome input inTime output handed =>
      have refused := withdraws.refused
      rw [input, output] at refused
      rcases refused with failing | ⟨_, _, expiring⟩ | ⟨_, error⟩
      · cases failing
      · cases expiring
      · cases error
  | expired now order expired input output mem_iff ends =>
      have stays : holder ∉ expired := by
        intro ended
        obtain ⟨entry, present, late⟩ := (mem_iff holder).mp ended
        obtain ⟨found, same, early⟩ := withdraws.early_of_expire input
        rw [present] at same
        cases same
        exact UInt64.not_lt.mpr late early
      have kept :
          ∀ session, record.before.owner selector = some session →
            session ∉ expired := by
        intro session held
        rw [owns] at held
        cases held
        exact stays
      exact ⟨(ends.owner selector kept).trans owns,
        ends.managed holder stays⟩
  | failed session input ends =>
      have stays : holder ≠ session := by
        rw [withdraws.eq_of_fail input]
        exact Ne.symm apart
      have kept :
          ∀ other, record.before.owner selector = some other →
            ¬ other = session := by
        intro other held
        rw [owns] at held
        cases held
        exact stays
      exact ⟨(ends.owner selector kept).trans owns,
        ends.managed holder stays⟩

end Withdraws

end ShortcutController

end WgLink
