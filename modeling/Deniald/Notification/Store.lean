/-
The notification server's store (notification_server.rs): what is published under an identity, in order, until when, and
which of its actions have been reported.
-/
import Deniald.Lib.Counter
import Deniald.Lib.Keyed
import Deniald.Lib.Time

namespace Deniald.Notification

open Deniald.Lib

inductive NotificationEventKind where
  | added
  | replaced
  | closed
  deriving DecidableEq

inductive NotificationUrgency where
  | low
  | normal
  | critical
  deriving DecidableEq

structure NotificationAction where
  key : String
  label : String

structure NotificationImageData where
  width : UInt32
  height : UInt32
  rowStride : UInt32
  hasAlpha : Bool
  bitsPerSample : UInt8
  channels : UInt8
  data : List UInt8

structure Notification where
  id : UInt32 := 0
  sender : String := ""
  appName : String := ""
  appIcon : String := ""
  summary : String := ""
  body : String := ""
  actions : List NotificationAction := []
  urgency : NotificationUrgency := .normal
  category : String := ""
  desktopEntry : String := ""
  imagePath : String := ""
  imageData : Option NotificationImageData := none
  resident : Bool := false
  transient : Bool := false
  suppressSound : Bool := false
  actionIcons : Bool := false
  soundName : String := ""
  soundFile : String := ""
  x : Int32 := 0
  y : Int32 := 0
  hasPosition : Bool := false
  progress : Int32 := 0
  hasProgress : Bool := false
  expireTimeoutMs : Int32 := 0

structure NotificationEvent where
  kind : NotificationEventKind
  notification : Option Notification
  notificationId : UInt32
  closeReason : UInt32

def NotificationEvent.published (kind : NotificationEventKind) (notification : Notification) : NotificationEvent :=
  ⟨kind, some notification, notification.id, 0⟩

def NotificationEvent.closed (notificationId closeReason : UInt32) : NotificationEvent :=
  ⟨.closed, none, notificationId, closeReason⟩

def maxNotifications : Nat := 256

def lowDefaultTimeout : Nat := 4 * 1000000000
def normalDefaultTimeout : Nat := 7 * 1000000000

/-- `effective_timeout`, in nanoseconds. -/
def effectiveTimeout (notification : Notification) : Option Nat :=
  if notification.urgency = .critical ∨ notification.expireTimeoutMs = 0 then none
  else if 0 < notification.expireTimeoutMs then some (notification.expireTimeoutMs.toInt.toNat * 1000000)
  else some (if notification.urgency = .low then lowDefaultTimeout else normalDefaultTimeout)

structure StoredNotification where
  notification : Notification
  expiresAt : Option Int
  invokedActions : Finset String

structure NotificationStore where
  notifications : AList fun _ : UInt32 => StoredNotification := ∅
  order : List UInt32 := []
  nextId : UInt32 := 0

inductive ActionDecision where
  | invoke (resident : Bool)
  | alreadyInvoked
  | unknownNotification
  | unknownAction

namespace NotificationStore

def close (s : NotificationStore) (notificationId reason : UInt32) : NotificationStore × Option NotificationEvent :=
  match s.notifications.lookup notificationId with
  | none => (s, none)
  | some _ =>
    ({ s with
        notifications := s.notifications.erase notificationId
        order := s.order.filter (· != notificationId) }, some (.closed notificationId reason))

/-- `close` of each, with the events of those that were there. -/
def closeAll (reason : UInt32) : NotificationStore → List UInt32 → NotificationStore × List NotificationEvent
  | s, [] => (s, [])
  | s, id :: ids =>
    let closed := s.close id reason
    let rest := closeAll reason closed.1 ids
    (rest.1, closed.2.toList ++ rest.2)

def due (s : NotificationStore) (now : Int) (id : UInt32) : Bool :=
  ((s.notifications.lookup id).bind (·.expiresAt)).any fun deadline => deadline ≤ now

def expireDue (s : NotificationStore) (now : Int) : NotificationStore × List NotificationEvent :=
  closeAll 1 s (s.order.filter (s.due now))

/-- `next_notification_id`: as many tries as there are notifications, and one more. -/
def nextNotificationId (s : NotificationStore) : Option UInt32 :=
  findFree bump32 (fun id => (s.notifications.lookup id).isSome) (s.notifications.entries.length + 1) s.nextId

/-- The oldest goes where there is no room for another one. -/
def makeRoom (s : NotificationStore) : NotificationStore × Option NotificationEvent :=
  if maxNotifications ≤ s.notifications.entries.length then
    match s.order.head? with
    | none => (s, none)
    | some oldest => s.close oldest 4
  else (s, none)

def store (s : NotificationStore) (notification : Notification) (now : Int) : NotificationStore :=
  { s with
    notifications := s.notifications.insert notification.id
      { notification, expiresAt := (effectiveTimeout notification).bind (checkedAdd now), invokedActions := ∅ } }

def add (s : NotificationStore) (notification : Notification) (now : Int) :
    Option (NotificationStore × UInt32 × List NotificationEvent) := do
  let room := s.makeRoom
  let id ← room.1.nextNotificationId
  let notification := { notification with id }
  let stored := { room.1 with nextId := id }.store notification now
  return ({ stored with order := stored.order ++ [id] }, id, room.2.toList ++ [.published .added notification])

def notify (s : NotificationStore) (replacesId : UInt32) (notification : Notification) (now : Int) :
    Option (NotificationStore × UInt32 × List NotificationEvent) :=
  if replacesId ≠ 0 ∧ (s.notifications.lookup replacesId).isSome then
    let notification := { notification with id := replacesId }
    some (s.store notification now, replacesId, [.published .replaced notification])
  else s.add notification now

def beginAction (s : NotificationStore) (notificationId : UInt32) (actionKey : String) :
    NotificationStore × ActionDecision :=
  match s.notifications.lookup notificationId with
  | none => (s, .unknownNotification)
  | some stored =>
    if !stored.notification.actions.any fun action => action.key == actionKey then (s, .unknownAction)
    else if actionKey ∈ stored.invokedActions then (s, .alreadyInvoked)
    else
      ({ s with
          notifications := s.notifications.insert notificationId
            { stored with invokedActions := insert actionKey stored.invokedActions } },
        .invoke stored.notification.resident)

def rollbackAction (s : NotificationStore) (notificationId : UInt32) (actionKey : String) : NotificationStore :=
  match s.notifications.lookup notificationId with
  | none => s
  | some stored =>
    { s with
      notifications := s.notifications.insert notificationId
        { stored with invokedActions := stored.invokedActions.erase actionKey } }

end NotificationStore

/-! ## Steps of the store -/

inductive Step where
  | notify (replacesId : UInt32) (notification : Notification) (now : Int)
  | close (notificationId : UInt32)
  | dismiss (notificationId : UInt32)
  | action (notificationId : UInt32) (actionKey : String)
  | rollback (notificationId : UInt32) (actionKey : String)
  | expire (now : Int)

inductive Output where
  | event (event : NotificationEvent)
  | reported (notificationId : UInt32) (actionKey : String)
  | rolledBack (notificationId : UInt32) (actionKey : String)

def step (s : NotificationStore) : Step → Option (NotificationStore × List Output)
  | .notify replacesId notification now => do
    let notified ← s.notify replacesId notification now
    return (notified.1, notified.2.2.map .event)
  | .close id => some ((s.close id 3).1, (s.close id 3).2.toList.map .event)
  | .dismiss id => some ((s.close id 2).1, (s.close id 2).2.toList.map .event)
  | .action id key => some (match s.beginAction id key with
    | (s, .invoke _) => (s, [.reported id key])
    | (s, _) => (s, []))
  | .rollback id key => some (s.rollbackAction id key, [.rolledBack id key])
  | .expire now => some ((s.expireDue now).1, (s.expireDue now).2.map .event)

def run : NotificationStore → List Step → Option (NotificationStore × List Output)
  | s, [] => some (s, [])
  | s, e :: es => do
    let first ← step s e
    let rest ← run first.1 es
    return (rest.1, first.2 ++ rest.2)

/-! ## The worker -/

inductive Command where
  | notify (replacesId : UInt32) (notification : Notification)
  | close (notificationId : UInt32)
  | dismiss (notificationId : UInt32)
  | invokeAction (notificationId : UInt32) (actionKey : String)

/-- `invoke_action`, whose signal is or is not emitted. -/
def invokeAction (s : NotificationStore) (id : UInt32) (key : String) (emitted : Bool) :
    NotificationStore × List Output :=
  match s.beginAction id key with
  | (s, .invoke resident) =>
    if !emitted then (s.rollbackAction id key, [.reported id key, .rolledBack id key])
    else if resident then (s, [.reported id key])
    else ((s.close id 2).1, .reported id key :: (s.close id 2).2.toList.map .event)
  | (s, _) => (s, [])

def handle (s : NotificationStore) (now : Int) (emitted : Bool) :
    Option Command → Option (NotificationStore × List Output)
  | some (.notify replacesId notification) => do
    let notified ← s.notify replacesId notification now
    return (notified.1, notified.2.2.map .event)
  | some (.close id) => some ((s.close id 3).1, (s.close id 3).2.toList.map .event)
  | some (.dismiss id) => some ((s.close id 2).1, (s.close id 2).2.toList.map .event)
  | some (.invokeAction id key) => some (invokeAction s id key emitted)
  | none => some (s, [])

/-- One turn of the worker's loop, on a command or, where the next deadline comes first, on none. -/
def turn (s : NotificationStore) (command : Option Command) (now : Int) (emitted : Bool) (later : Int) :
    Option (NotificationStore × List Output) := do
  let handled ← handle s now emitted command
  let expired := handled.1.expireDue later
  return (expired.1, handled.2 ++ expired.2.map .event)

end Deniald.Notification
