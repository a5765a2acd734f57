import WgLink.Shortcut.Device

/-!
# The shortcut controller

`ShortcutController` of `shortcut/controller.rs`.  `receive_ticket` waits for
the device in its middle, so it is cut there: `beginTicket` runs up to
`DeviceHandle::prepare`, and `finishTicket` goes on with its result.
-/

namespace WgLink

open WgLink.Library

/-- `DeviceEventOutcome`. -/
structure DeviceEventOutcome where
  activated : Bool
  retired : List SessionKey

/-- `ShortcutController`, without the handle of the device. -/
structure ShortcutController (R : Type) where
  localPublicKey : String
  manager : ShortcutManager R

namespace ShortcutController

variable {R : Type}

/-- `ShortcutController::receive_ticket` up to the call of the device; the
command is there unless the session was already present. -/
def beginTicket
    (self : ShortcutController R) (ticket : ShortcutTicket)
    (authenticatedSender : String) (now : UInt64) :
    ShortcutController R ×
      Except String (SessionKey × Option DeviceCommand) :=
  match
    self.manager.receiveTicket ticket authenticatedSender
      self.localPublicKey now with
  | (manager, .error error) => ({ self with manager }, .error error)
  | (manager, .ok prepared) =>
      ({ self with manager },
        .ok (prepared.session,
          if prepared.alreadyPresent then
            none
          else
            some (.prepare prepared.session ticket.remotePublicKey)))

variable [RouteManager R]

/-- `ShortcutController::receive_ticket` after the call of the device. -/
def finishTicket
    (self : ShortcutController R) (session : SessionKey)
    (prepared : Except String Unit) :
    ShortcutController R × Except String SessionKey :=
  match prepared with
  | .error error =>
      match self.manager.fail session with
      | (manager, .error failure) => ({ self with manager }, .error failure)
      | (manager, .ok _) => ({ self with manager }, .error error)
  | .ok () =>
      match self.manager.markHandshaking session with
      | (manager, .error error) => ({ self with manager }, .error error)
      | (manager, .ok ()) => ({ self with manager }, .ok session)

/-- `ShortcutController::handle_device_event`, retiring sessions in `order`. -/
def handleDeviceEvent
    (self : ShortcutController R) (event : DeviceEvent) (now : UInt64)
    (order : List SessionKey) :
    Option (ShortcutController R × Except String DeviceEventOutcome) :=
  match event with
  | .authenticatedHandshake session =>
      match self.manager.authenticatedHandshake session now with
      | (manager, .error error) =>
          some ({ self with manager }, .error error)
      | (manager, .ok false) =>
          some ({ self with manager }, .ok ⟨false, []⟩)
      | (manager, .ok true) =>
          if HashMap.Iterates order manager.sessions then
            let (manager, retired) := manager.retireDraining order
            some ({ self with manager }, .ok ⟨true, retired⟩)
          else
            none
  | _ => some (self, .ok ⟨false, []⟩)

section DeviceEvents

variable {self : ShortcutController R} {session : SessionKey}
  {now : UInt64} {order : List SessionKey}

theorem handleDeviceEvent_of_error
    {error : String}
    (rejected :
      (self.manager.authenticatedHandshake session now).2 = .error error) :
    self.handleDeviceEvent (.authenticatedHandshake session) now order =
      some
        ({ self with
            manager := (self.manager.authenticatedHandshake session now).1 },
          .error error) := by
  have outcome :
      self.manager.authenticatedHandshake session now =
        ((self.manager.authenticatedHandshake session now).1,
          .error error) := Prod.ext rfl rejected
  simp only [handleDeviceEvent]
  rw [outcome]

theorem handleDeviceEvent_of_confirmed
    (confirmed :
      (self.manager.authenticatedHandshake session now).2 = .ok false) :
    self.handleDeviceEvent (.authenticatedHandshake session) now order =
      some
        ({ self with
            manager := (self.manager.authenticatedHandshake session now).1 },
          .ok ⟨false, []⟩) := by
  have outcome :
      self.manager.authenticatedHandshake session now =
        ((self.manager.authenticatedHandshake session now).1,
          .ok false) := Prod.ext rfl confirmed
  simp only [handleDeviceEvent]
  rw [outcome]

theorem handleDeviceEvent_of_activated
    (activated :
      (self.manager.authenticatedHandshake session now).2 = .ok true) :
    self.handleDeviceEvent (.authenticatedHandshake session) now order =
      if HashMap.Iterates order
          (self.manager.authenticatedHandshake session now).1.sessions then
        some
          ({ self with
              manager :=
                ((self.manager.authenticatedHandshake session
                  now).1.retireDraining order).1 },
            .ok ⟨true,
              (self.manager.authenticatedHandshake session
                now).1.drainingSessions order⟩)
      else
        none := by
  have outcome :
      self.manager.authenticatedHandshake session now =
        ((self.manager.authenticatedHandshake session now).1,
          .ok true) := Prod.ext rfl activated
  simp only [handleDeviceEvent]
  rw [outcome]
  rfl

end DeviceEvents

/-- `ShortcutController::expire`. -/
def expire
    (self : ShortcutController R) (now : UInt64) (order : List SessionKey) :
    ShortcutController R × Except String (List SessionKey) :=
  let (manager, result) := self.manager.expire now order
  ({ self with manager }, result)

/-- `ShortcutController::fail`. -/
def fail (self : ShortcutController R) (session : SessionKey) :
    ShortcutController R × Except String Bool :=
  let (manager, result) := self.manager.fail session
  ({ self with manager }, result)

end ShortcutController

end WgLink
