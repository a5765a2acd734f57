import WgLink.Library.HashMap
import WgLink.Shortcut.Control

/-!
# The shortcut manager

`ShortcutManager` of `shortcut/state.rs`, generic over the route manager it
drives.  An operation that fails keeps whatever it changed before the failure,
so every operation returns the manager it leaves behind together with its
result.
-/

namespace WgLink

open WgLink.Library

/-- `SessionKey`. -/
structure SessionKey where
  shortcutId : ShortcutId
  epoch : UInt64
deriving DecidableEq

/-- `RouteTarget`. -/
structure RouteTarget where
  session : SessionKey
deriving DecidableEq

/-- The trait `RouteManager`. -/
class RouteManager (R : Type) where
  activate : R → IpNet → RouteTarget → R × Except String Unit
  deactivate : R → IpNet → R × Except String Unit

/-- A route manager whose routes can be read off as a table: a call that
succeeds makes its one change to the table, a call that fails makes none. -/
class LawfulRouteManager (R : Type) [RouteManager R] where
  table : R → HashMap IpNet RouteTarget
  activate_ok :
    ∀ (routes : R) (selector : IpNet) (target : RouteTarget),
      (RouteManager.activate routes selector target).2 = .ok () →
      table (RouteManager.activate routes selector target).1 =
        (table routes).insert selector target
  activate_error :
    ∀ (routes : R) (selector : IpNet) (target : RouteTarget) (error : String),
      (RouteManager.activate routes selector target).2 = .error error →
      table (RouteManager.activate routes selector target).1 = table routes
  deactivate_ok :
    ∀ (routes : R) (selector : IpNet),
      (RouteManager.deactivate routes selector).2 = .ok () →
      table (RouteManager.deactivate routes selector).1 =
        (table routes).erase selector
  deactivate_error :
    ∀ (routes : R) (selector : IpNet) (error : String),
      (RouteManager.deactivate routes selector).2 = .error error →
      table (RouteManager.deactivate routes selector).1 = table routes

inductive SessionPhase where
  | prepared
  | handshaking
  | active
  | draining
deriving DecidableEq, Repr

/-- `ManagedSession`. -/
structure ManagedSession where
  ticket : ShortcutTicket
  phase : SessionPhase
deriving DecidableEq

/-- `PreparedShortcut`.  The keys are those of `ticket`; see `keys`. -/
structure PreparedShortcut where
  session : SessionKey
  ticket : ShortcutTicket
  alreadyPresent : Bool
deriving DecidableEq

/-- The field `keys` of `PreparedShortcut`. -/
def PreparedShortcut.keys
    (primitives : Primitives) (shortcut : PreparedShortcut) : DerivedKeys :=
  shortcut.ticket.deriveKeys primitives

/-- The key under which a ticket's session is kept. -/
def ShortcutTicket.session (ticket : ShortcutTicket) : SessionKey :=
  ⟨ticket.shortcutId, ticket.epoch⟩

/-- `ActiveLease`. -/
structure ActiveLease where
  session : SessionKey
  expiresAt : UInt64
  delegation : Option ShortcutDelegation
deriving DecidableEq

/-- `ShortcutManager`. -/
structure ShortcutManager (R : Type) where
  routes : R
  sessions : HashMap SessionKey ManagedSession
  activeRoutes : HashMap IpNet SessionKey

namespace ShortcutManager

variable {R : Type}

/-- `ShortcutManager::new`. -/
def new (routes : R) : ShortcutManager R :=
  { routes, sessions := ∅, activeRoutes := ∅ }

/-- `ShortcutManager::phase`. -/
def phase (self : ShortcutManager R) (session : SessionKey) :
    Option SessionPhase :=
  (self.sessions.lookup session).map ManagedSession.phase

/-- `ShortcutManager::active_lease`. -/
def activeLease (self : ShortcutManager R) (session : SessionKey) :
    Option ActiveLease :=
  match self.sessions.lookup session with
  | none => none
  | some managed =>
      if managed.phase = .active then
        some
          { session
            expiresAt := managed.ticket.expiresAt
            delegation := managed.ticket.delegation }
      else
        none

/-- `ShortcutManager::receive_ticket`. -/
def receiveTicket
    (self : ShortcutManager R) (ticket : ShortcutTicket)
    (authenticatedSender localPublicKey : String) (now : UInt64) :
    ShortcutManager R × Except String PreparedShortcut :=
  match ticket.validate now with
  | .error error => (self, .error error)
  | .ok () =>
      if ticket.issuerPublicKey ≠ authenticatedSender then
        (self, .error
          "shortcut ticket issuer does not match authenticated control channel")
      else if ticket.recipientPublicKey ≠ localPublicKey then
        (self, .error "shortcut ticket was not addressed to this node")
      else
        match self.sessions.lookup ticket.session with
        | some existing =>
            if existing.ticket.selector ≠ ticket.selector ∨
                existing.ticket.remotePublicKey ≠ ticket.remotePublicKey then
              (self, .error
                "conflicting shortcut ticket for an existing epoch")
            else
              (self, .ok ⟨ticket.session, existing.ticket, true⟩)
        | none =>
            ({ self with
                sessions :=
                  self.sessions.insert ticket.session ⟨ticket, .prepared⟩ },
              .ok ⟨ticket.session, ticket, false⟩)

/-- `ShortcutManager::mark_handshaking`. -/
def markHandshaking (self : ShortcutManager R) (session : SessionKey) :
    ShortcutManager R × Except String Unit :=
  match self.sessions.lookup session with
  | none => (self, .error "unknown shortcut session")
  | some managed =>
      if managed.phase = .prepared then
        ({ self with
            sessions :=
              self.sessions.insert session
                { managed with phase := .handshaking } },
          .ok ())
      else
        (self, .ok ())

/-- The branch of `authenticated_handshake` that lets go of the session which
owned the selector until now. -/
def drainPrevious
    (sessions : HashMap SessionKey ManagedSession)
    (previous : Option SessionKey) (session : SessionKey) :
    HashMap SessionKey ManagedSession :=
  match previous with
  | none => sessions
  | some previous =>
      if previous = session then
        sessions
      else
        match sessions.lookup previous with
        | none => sessions
        | some old => sessions.insert previous { old with phase := .draining }

/-- The sessions that `expire` collects, in the order it visits them. -/
def expiredSessions
    (self : ShortcutManager R) (now : UInt64) (order : List SessionKey) :
    List SessionKey :=
  order.filter fun session =>
    match self.sessions.lookup session with
    | none => false
    | some managed => decide (now ≥ managed.ticket.expiresAt)

/-- The sessions that `retire_draining` collects. -/
def drainingSessions
    (self : ShortcutManager R) (order : List SessionKey) : List SessionKey :=
  order.filter fun session => self.phase session = some .draining

/-- `ShortcutManager::retire_draining`, visiting the sessions in `order`. -/
def retireDraining
    (self : ShortcutManager R) (order : List SessionKey) :
    ShortcutManager R × List SessionKey :=
  let draining := self.drainingSessions order
  ({ self with sessions := HashMap.eraseAll self.sessions draining }, draining)

section Routes

variable [RouteManager R]

/-- `ShortcutManager::authenticated_handshake`. -/
def authenticatedHandshake
    (self : ShortcutManager R) (session : SessionKey) (now : UInt64) :
    ShortcutManager R × Except String Bool :=
  match self.sessions.lookup session with
  | none => (self, .error "unknown shortcut session")
  | some managed =>
      if now ≥ managed.ticket.expiresAt then
        (self, .error "shortcut session authenticated after expiry")
      else if managed.phase = .active then
        (self, .ok false)
      else
        let selector := managed.ticket.selector
        let previous := self.activeRoutes.lookup selector
        match RouteManager.activate self.routes selector ⟨session⟩ with
        | (routes, .error error) => ({ self with routes }, .error error)
        | (routes, .ok ()) =>
            ({ routes
               sessions :=
                 (drainPrevious self.sessions previous session).insert
                   session { managed with phase := .active }
               activeRoutes := self.activeRoutes.insert selector session },
              .ok true)

/-- The two lines that `expire` and `fail` share: remove a route, and forget
its owner once that has succeeded. -/
def removeRoute (self : ShortcutManager R) (selector : IpNet) :
    ShortcutManager R × Except String Unit :=
  match RouteManager.deactivate self.routes selector with
  | (routes, .error error) => ({ self with routes }, .error error)
  | (routes, .ok ()) =>
      ({ self with
          routes
          activeRoutes := self.activeRoutes.erase selector },
        .ok ())

/-- The first loop of `expire`. -/
def removeExpiredRoutes (self : ShortcutManager R) :
    List SessionKey → ShortcutManager R × Except String Unit
  | [] => (self, .ok ())
  | session :: rest =>
      match self.sessions.lookup session with
      | none => removeExpiredRoutes self rest
      | some managed =>
          if self.activeRoutes.lookup managed.ticket.selector =
              some session then
            match self.removeRoute managed.ticket.selector with
            | (next, .error error) => (next, .error error)
            | (next, .ok ()) => removeExpiredRoutes next rest
          else
            removeExpiredRoutes self rest

/-- `ShortcutManager::expire`, visiting the sessions in `order`. -/
def expire
    (self : ShortcutManager R) (now : UInt64) (order : List SessionKey) :
    ShortcutManager R × Except String (List SessionKey) :=
  let expired := self.expiredSessions now order
  match self.removeExpiredRoutes expired with
  | (next, .error error) => (next, .error error)
  | (next, .ok ()) =>
      ({ next with sessions := HashMap.eraseAll next.sessions expired },
        .ok expired)

/-- `ShortcutManager::fail`. -/
def fail (self : ShortcutManager R) (session : SessionKey) :
    ShortcutManager R × Except String Bool :=
  match self.sessions.lookup session with
  | none => (self, .ok false)
  | some managed =>
      let forgotten :=
        { self with sessions := self.sessions.erase session }
      if self.activeRoutes.lookup managed.ticket.selector = some session then
        match forgotten.removeRoute managed.ticket.selector with
        | (next, .error error) => (next, .error error)
        | (next, .ok ()) => (next, .ok true)
      else
        (forgotten, .ok true)

end Routes

end ShortcutManager

end WgLink
