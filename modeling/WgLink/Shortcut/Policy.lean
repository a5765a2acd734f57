import WgLink.Library.Fallible
import WgLink.Shortcut.State

/-!
# The atomic route manager

`AtomicRouteManager` of `shortcut/policy.rs` over a userspace route table and a
set of policy rules.  A packet follows an installed rule into the shortcut
device, where only the userspace table says where it goes, so a rule must never
stand without its entry.  `activate` and `deactivate` are written as programs
of individual backend calls, and the states between those calls are kept.
-/

namespace WgLink

open WgLink.Library

/-- The trait `UserspaceRoutes`. -/
class UserspaceRoutes (U : Type) where
  replace : U → IpNet → RouteTarget → U × Except String Unit
  remove : U → IpNet → U × Except String Unit

/-- The trait `PolicyRules`. -/
class PolicyRules (P : Type) where
  install : P → IpNet → P × Except String Unit
  remove : P → IpNet → P × Except String Unit

/-- Userspace routes that are a table, left alone by a call that fails. -/
class LawfulUserspaceRoutes (U : Type) [UserspaceRoutes U] where
  entries : U → HashMap IpNet RouteTarget
  replace_ok :
    ∀ (userspace : U) (selector : IpNet) (target : RouteTarget),
      (UserspaceRoutes.replace userspace selector target).2 = .ok () →
      entries (UserspaceRoutes.replace userspace selector target).1 =
        (entries userspace).insert selector target
  replace_error :
    ∀ (userspace : U) (selector : IpNet) (target : RouteTarget)
      (error : String),
      (UserspaceRoutes.replace userspace selector target).2 = .error error →
      entries (UserspaceRoutes.replace userspace selector target).1 =
        entries userspace
  remove_ok :
    ∀ (userspace : U) (selector : IpNet),
      (UserspaceRoutes.remove userspace selector).2 = .ok () →
      entries (UserspaceRoutes.remove userspace selector).1 =
        (entries userspace).erase selector
  remove_error :
    ∀ (userspace : U) (selector : IpNet) (error : String),
      (UserspaceRoutes.remove userspace selector).2 = .error error →
      entries (UserspaceRoutes.remove userspace selector).1 =
        entries userspace

/-- Policy rules that are a set, left alone by a call that fails. -/
class LawfulPolicyRules (P : Type) [PolicyRules P] where
  rules : P → Finset IpNet
  install_ok :
    ∀ (policy : P) (selector : IpNet),
      (PolicyRules.install policy selector).2 = .ok () →
      rules (PolicyRules.install policy selector).1 =
        insert selector (rules policy)
  install_error :
    ∀ (policy : P) (selector : IpNet) (error : String),
      (PolicyRules.install policy selector).2 = .error error →
      rules (PolicyRules.install policy selector).1 = rules policy
  remove_ok :
    ∀ (policy : P) (selector : IpNet),
      (PolicyRules.remove policy selector).2 = .ok () →
      rules (PolicyRules.remove policy selector).1 =
        (rules policy).erase selector
  remove_error :
    ∀ (policy : P) (selector : IpNet) (error : String),
      (PolicyRules.remove policy selector).2 = .error error →
      rules (PolicyRules.remove policy selector).1 = rules policy

/-- `AtomicRouteManager`. -/
structure AtomicRouteManager (U P : Type) where
  userspace : U
  policy : P
  active : HashMap IpNet RouteTarget

namespace AtomicRouteManager

variable {U P : Type} [UserspaceRoutes U] [PolicyRules P]

/-- `AtomicRouteManager::new`. -/
def new (userspace : U) (policy : P) : AtomicRouteManager U P :=
  { userspace, policy, active := ∅ }

def userspaceReplace (selector : IpNet) (target : RouteTarget) :
    Fallible (AtomicRouteManager U P) Unit :=
  .call fun self =>
    let (userspace, result) :=
      UserspaceRoutes.replace self.userspace selector target
    ({ self with userspace }, result)

def userspaceRemove (selector : IpNet) :
    Fallible (AtomicRouteManager U P) Unit :=
  .call fun self =>
    let (userspace, result) := UserspaceRoutes.remove self.userspace selector
    ({ self with userspace }, result)

def policyInstall (selector : IpNet) :
    Fallible (AtomicRouteManager U P) Unit :=
  .call fun self =>
    let (policy, result) := PolicyRules.install self.policy selector
    ({ self with policy }, result)

def policyRemove (selector : IpNet) :
    Fallible (AtomicRouteManager U P) Unit :=
  .call fun self =>
    let (policy, result) := PolicyRules.remove self.policy selector
    ({ self with policy }, result)

/-- The rollback in `AtomicRouteManager::activate` after a failed install. -/
def rollback
    (selector : IpNet) (previous : Option RouteTarget) :
    Fallible (AtomicRouteManager U P) Unit :=
  match previous with
  | some previous => userspaceReplace selector previous
  | none => userspaceRemove selector

/-- `AtomicRouteManager::activate`. -/
def activate (selector : IpNet) (target : RouteTarget) :
    Fallible (AtomicRouteManager U P) Unit := do
  let previous ← .read fun self => self.active.lookup selector
  userspaceReplace selector target
  Fallible.recover (policyInstall selector) fun error => do
    rollback selector previous
    .fail error
  .modify fun self => { self with active := self.active.insert selector target }

/-- `AtomicRouteManager::deactivate`. -/
def deactivate (selector : IpNet) :
    Fallible (AtomicRouteManager U P) Unit := do
  policyRemove selector
  userspaceRemove selector
  .modify fun self => { self with active := self.active.erase selector }

instance : RouteManager (AtomicRouteManager U P) where
  activate self selector target :=
    let trail := activate selector target self
    (trail.state, trail.result)
  deactivate self selector :=
    let trail := deactivate selector self
    (trail.state, trail.result)

end AtomicRouteManager

end WgLink
