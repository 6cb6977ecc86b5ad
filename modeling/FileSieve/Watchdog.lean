/-! The watchdog: a timer that acts once its time is up, unless its owner disarms it first. Timer and owner share a
flag under a lock, and a condition on which the timer waits; here are the steps that each can make, in any
interleaving. -/

namespace FileSieve

inductive WatchdogParty where
  | timer
  | owner
  deriving DecidableEq, Repr

/-- Where a timer with a deadline stands. It has the lock from when it checks the flag until it waits, leaves, or
is about to act. -/
inductive TimerPlace where
  | locking
  | checking
  | leaving
  | reading
  | early
  | waiting
  | due
  | released
  | acting
  deriving DecidableEq, Repr

inductive TimerPhase where
  | spawned (timeout : Nat)
  | begun (deadline : Nat) (place : TimerPlace)
  | ended
  deriving DecidableEq, Repr

inductive WatchdogEnd where
  | disarm
  | drop
  deriving DecidableEq, Repr

/-- Where an owner stands that stops the timer. It has the lock until it has set the flag and notified the timer. -/
inductive StopPlace where
  | locking
  | locked
  | flagged
  | notified
  | joining
  deriving DecidableEq, Repr

inductive OwnerPhase where
  | holding
  | stopping (way : WatchdogEnd) (place : StopPlace)
  | returned
  deriving DecidableEq, Repr

/-- Times are in nanoseconds. An owner can join the timer once. Nobody fails while having the lock, so taking it does
not fail either. -/
structure Watchdog where
  clock : Nat
  lock : Option WatchdogParty
  disarmed : Bool
  timer : TimerPhase
  owner : OwnerPhase
  joinable : Bool
  actions : Nat
  deriving DecidableEq, Repr

inductive TimerStep where
  | start
  | lock
  | check
  | read
  | wait
  | wake
  | release
  | act
  | finish
  | leave
  deriving DecidableEq, Repr

inductive OwnerStep where
  | stop (way : WatchdogEnd)
  | lock
  | flag
  | notify
  | unlock
  | join
  deriving DecidableEq, Repr

inductive WatchdogMove where
  | pass (time : Nat)
  | timer (step : TimerStep)
  | owner (step : OwnerStep)
  deriving DecidableEq, Repr

/-- A watchdog that has been disarmed is dropped as well. -/
def WatchdogEnd.behind : WatchdogEnd → OwnerPhase
  | disarm => .stopping .drop .locking
  | drop => .returned

def TimerPhase.notified : TimerPhase → TimerPhase
  | begun deadline .waiting => begun deadline .locking
  | phase => phase

namespace Watchdog

def exitCode : Nat := 124

/-- The last instant that a clock can show: its seconds are signed and have 64 bits. -/
def lastInstant : Nat := 9223372036854775807 * 1000000000 + 999999999

def armed (clock timeout : Nat) : Watchdog :=
  { clock, lock := none, disarmed := false, timer := .spawned timeout, owner := .holding, joinable := true
    actions := 0 }

/-- The state after a step of the timer, if it can be made. It sets its deadline when it starts, and fails if no
instant is that late. From a wait it may wake at any time, without cause. -/
def timerStep? (watchdog : Watchdog) (step : TimerStep) : Option Watchdog :=
  match step, watchdog.timer with
  | .start, .spawned timeout =>
    let deadline := watchdog.clock + timeout
    some { watchdog with timer := if deadline ≤ lastInstant then .begun deadline .locking else .ended }
  | .lock, .begun deadline .locking =>
    if watchdog.lock = none then some { watchdog with lock := some .timer, timer := .begun deadline .checking }
    else none
  | .check, .begun deadline .checking =>
    some { watchdog with timer := .begun deadline (if watchdog.disarmed then .leaving else .reading) }
  | .read, .begun deadline .reading =>
    some { watchdog with timer := .begun deadline (if deadline ≤ watchdog.clock then .due else .early) }
  | .wait, .begun deadline .early => some { watchdog with lock := none, timer := .begun deadline .waiting }
  | .wake, .begun deadline .waiting => some { watchdog with timer := .begun deadline .locking }
  | .release, .begun deadline .due => some { watchdog with lock := none, timer := .begun deadline .released }
  | .act, .begun deadline .released =>
    some { watchdog with timer := .begun deadline .acting, actions := watchdog.actions + 1 }
  | .finish, .begun _ .acting => some { watchdog with timer := .ended }
  | .leave, .begun _ .leaving => some { watchdog with lock := none, timer := .ended }
  | _, _ => none

def ownerStep? (watchdog : Watchdog) (step : OwnerStep) : Option Watchdog :=
  match step, watchdog.owner with
  | .stop way, .holding => some { watchdog with owner := .stopping way .locking }
  | .lock, .stopping way .locking =>
    if watchdog.lock = none then some { watchdog with lock := some .owner, owner := .stopping way .locked } else none
  | .flag, .stopping way .locked => some { watchdog with disarmed := true, owner := .stopping way .flagged }
  | .notify, .stopping way .flagged =>
    some { watchdog with timer := watchdog.timer.notified, owner := .stopping way .notified }
  | .unlock, .stopping way .notified => some { watchdog with lock := none, owner := .stopping way .joining }
  | .join, .stopping way .joining =>
    if watchdog.joinable → watchdog.timer = .ended then some { watchdog with joinable := false, owner := way.behind }
    else none
  | _, _ => none

def move? (watchdog : Watchdog) : WatchdogMove → Option Watchdog
  | .pass time => some { watchdog with clock := watchdog.clock + time }
  | .timer step => watchdog.timerStep? step
  | .owner step => watchdog.ownerStep? step

def run? (watchdog : Watchdog) (moves : List WatchdogMove) : Option Watchdog :=
  moves.foldlM move? watchdog

def stopping (way : WatchdogEnd) : List WatchdogMove :=
  [.owner (.stop way), .owner .lock, .owner .flag, .owner .notify, .owner .unlock]

def nanoseconds (milliseconds : Nat) : Nat := milliseconds * 1000000

def waitingMoves (timeout : Nat) : List WatchdogMove :=
  [.timer .start, .pass (nanoseconds timeout), .timer .lock, .timer .check, .timer .read, .timer .release,
    .timer .act, .timer .finish] ++ stopping .drop ++ [.owner .join]

def disarmingMoves : List WatchdogMove :=
  stopping .disarm ++ [.timer .start, .timer .lock, .timer .check, .timer .leave, .owner .join, .owner .lock,
    .owner .flag, .owner .notify, .owner .unlock, .owner .join]

def fired (timeout : Nat) (moves : List WatchdogMove) : Bool :=
  ((armed 0 (nanoseconds timeout)).run? moves).any fun watchdog => 0 < watchdog.actions

end Watchdog
end FileSieve
