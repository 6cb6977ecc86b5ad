import FileSieve.Watchdog

/-! The watchdog acts in time. In any interleaving the lock tells who is between taking it and giving it back, so the
flag stays as the timer has seen it until the timer waits or is about to act. The action therefore runs at most once,
not before the deadline, not once its owner has come back, and not at all if the flag was set in time. -/

namespace FileSieve

namespace TimerPlace

def holds : TimerPlace → Bool
  | checking | leaving | reading | early | due => true
  | locking | waiting | released | acting => false

def seenUnset : TimerPlace → Bool
  | reading | early | due => true
  | locking | checking | leaving | waiting | released | acting => false

def isLate : TimerPlace → Bool
  | due | released | acting => true
  | locking | checking | leaving | reading | early | waiting => false

def isFiring : TimerPlace → Bool
  | released | acting => true
  | locking | checking | leaving | reading | early | waiting | due => false

theorem holds_of_seenUnset (place : TimerPlace) (seen : place.seenUnset = true) : place.holds = true := by
  cases place <;> first | rfl | cases seen

end TimerPlace

namespace TimerPhase

def isAt (places : TimerPlace → Bool) : TimerPhase → Bool
  | begun _ place => places place
  | spawned _ | ended => false

theorem isAt_mono {few many : TimerPlace → Bool} (more : ∀ place, few place = true → many place = true)
    {phase : TimerPhase} (there : phase.isAt few = true) : phase.isAt many = true := by
  cases phase with
  | begun deadline place => exact more place there
  | spawned | ended => cases there

/-- How often the action can still be started. -/
def chances : TimerPhase → Nat
  | spawned _ => 1
  | begun _ .acting => 0
  | begun _ _ => 1
  | ended => 0

theorem isAt_notified {places : TimerPlace → Bool} (alike : places .waiting = places .locking) (phase : TimerPhase) :
    phase.notified.isAt places = phase.isAt places := by
  fun_cases notified phase with
  | case1 deadline => exact alike.symm
  | case2 => rfl

theorem chances_notified (phase : TimerPhase) : phase.notified.chances = phase.chances := by
  fun_cases notified phase <;> rfl

theorem begun_of_notified {phase : TimerPhase} {deadline : Nat} {place : TimerPlace}
    (stands : phase.notified = .begun deadline place) :
    ∃ before, phase = .begun deadline before ∧ before.isLate = place.isLate := by
  unfold notified at stands
  split at stands
  · cases stands
    exact ⟨.waiting, rfl, rfl⟩
  · exact ⟨place, stands, rfl⟩

theorem spawned_of_notified {phase : TimerPhase} {timeout : Nat} (stands : phase.notified = .spawned timeout) :
    phase = .spawned timeout := by
  unfold notified at stands
  split at stands
  · cases stands
  · exact stands

end TimerPhase

def OwnerPhase.holds : OwnerPhase → Bool
  | stopping _ .locked | stopping _ .flagged | stopping _ .notified => true
  | holding | stopping _ .locking | stopping _ .joining | returned => false

namespace Watchdog

inductive TimerMakes (watchdog : Watchdog) : TimerStep → Watchdog → Prop
  | start (timeout : Nat) (stands : watchdog.timer = .spawned timeout)
      (shown : watchdog.clock + timeout ≤ lastInstant) :
      TimerMakes watchdog .start { watchdog with timer := .begun (watchdog.clock + timeout) .locking }
  | fail (timeout : Nat) (stands : watchdog.timer = .spawned timeout)
      (beyond : lastInstant < watchdog.clock + timeout) :
      TimerMakes watchdog .start { watchdog with timer := .ended }
  | lock (deadline : Nat) (stands : watchdog.timer = .begun deadline .locking) (free : watchdog.lock = none) :
      TimerMakes watchdog .lock { watchdog with lock := some .timer, timer := .begun deadline .checking }
  | seeSet (deadline : Nat) (stands : watchdog.timer = .begun deadline .checking) (set : watchdog.disarmed = true) :
      TimerMakes watchdog .check { watchdog with timer := .begun deadline .leaving }
  | seeUnset (deadline : Nat) (stands : watchdog.timer = .begun deadline .checking)
      (unset : watchdog.disarmed = false) :
      TimerMakes watchdog .check { watchdog with timer := .begun deadline .reading }
  | readEarly (deadline : Nat) (stands : watchdog.timer = .begun deadline .reading)
      (early : watchdog.clock < deadline) :
      TimerMakes watchdog .read { watchdog with timer := .begun deadline .early }
  | readLate (deadline : Nat) (stands : watchdog.timer = .begun deadline .reading) (late : deadline ≤ watchdog.clock) :
      TimerMakes watchdog .read { watchdog with timer := .begun deadline .due }
  | wait (deadline : Nat) (stands : watchdog.timer = .begun deadline .early) :
      TimerMakes watchdog .wait { watchdog with lock := none, timer := .begun deadline .waiting }
  | wake (deadline : Nat) (stands : watchdog.timer = .begun deadline .waiting) :
      TimerMakes watchdog .wake { watchdog with timer := .begun deadline .locking }
  | release (deadline : Nat) (stands : watchdog.timer = .begun deadline .due) :
      TimerMakes watchdog .release { watchdog with lock := none, timer := .begun deadline .released }
  | act (deadline : Nat) (stands : watchdog.timer = .begun deadline .released) :
      TimerMakes watchdog .act { watchdog with timer := .begun deadline .acting, actions := watchdog.actions + 1 }
  | finish (deadline : Nat) (stands : watchdog.timer = .begun deadline .acting) :
      TimerMakes watchdog .finish { watchdog with timer := .ended }
  | leave (deadline : Nat) (stands : watchdog.timer = .begun deadline .leaving) :
      TimerMakes watchdog .leave { watchdog with lock := none, timer := .ended }

inductive OwnerMakes (watchdog : Watchdog) : OwnerStep → Watchdog → Prop
  | stop (way : WatchdogEnd) (stands : watchdog.owner = .holding) :
      OwnerMakes watchdog (.stop way) { watchdog with owner := .stopping way .locking }
  | lock (way : WatchdogEnd) (stands : watchdog.owner = .stopping way .locking) (free : watchdog.lock = none) :
      OwnerMakes watchdog .lock { watchdog with lock := some .owner, owner := .stopping way .locked }
  | flag (way : WatchdogEnd) (stands : watchdog.owner = .stopping way .locked) :
      OwnerMakes watchdog .flag { watchdog with disarmed := true, owner := .stopping way .flagged }
  | notify (way : WatchdogEnd) (stands : watchdog.owner = .stopping way .flagged) :
      OwnerMakes watchdog .notify
        { watchdog with timer := watchdog.timer.notified, owner := .stopping way .notified }
  | unlock (way : WatchdogEnd) (stands : watchdog.owner = .stopping way .notified) :
      OwnerMakes watchdog .unlock { watchdog with lock := none, owner := .stopping way .joining }
  | join (way : WatchdogEnd) (stands : watchdog.owner = .stopping way .joining)
      (finished : watchdog.joinable = true → watchdog.timer = .ended) :
      OwnerMakes watchdog .join { watchdog with joinable := false, owner := way.behind }

variable {watchdog next : Watchdog}

theorem makes_of_timerStep {step : TimerStep} (made : watchdog.timerStep? step = some next) :
    TimerMakes watchdog step next := by
  unfold timerStep? at made
  split at made
  case h_1 timeout stands =>
    cases made
    split
    · rename_i shown
      exact .start timeout stands shown
    · rename_i beyond
      exact .fail timeout stands (Nat.lt_of_not_le beyond)
  case h_2 deadline stands =>
    split at made
    · rename_i free
      cases made
      exact .lock deadline stands free
    · cases made
  case h_3 deadline stands =>
    cases made
    split
    · rename_i set
      exact .seeSet deadline stands set
    · rename_i unset
      exact .seeUnset deadline stands (Bool.eq_false_iff.mpr unset)
  case h_4 deadline stands =>
    cases made
    split
    · rename_i late
      exact .readLate deadline stands late
    · rename_i early
      exact .readEarly deadline stands (Nat.lt_of_not_le early)
  case h_5 deadline stands => cases made; exact .wait deadline stands
  case h_6 deadline stands => cases made; exact .wake deadline stands
  case h_7 deadline stands => cases made; exact .release deadline stands
  case h_8 deadline stands => cases made; exact .act deadline stands
  case h_9 deadline stands => cases made; exact .finish deadline stands
  case h_10 deadline stands => cases made; exact .leave deadline stands
  case h_11 => cases made

theorem makes_of_ownerStep {step : OwnerStep} (made : watchdog.ownerStep? step = some next) :
    OwnerMakes watchdog step next := by
  unfold ownerStep? at made
  split at made
  case h_1 way stands => cases made; exact .stop way stands
  case h_2 way stands =>
    split at made
    · rename_i free
      cases made
      exact .lock way stands free
    · cases made
  case h_3 way stands => cases made; exact .flag way stands
  case h_4 way stands => cases made; exact .notify way stands
  case h_5 way stands => cases made; exact .unlock way stands
  case h_6 way stands =>
    split at made
    · rename_i finished
      cases made
      exact .join way stands finished
    · cases made
  case h_7 => cases made

theorem TimerMakes.not_ended {step : TimerStep} (makes : TimerMakes watchdog step next) : watchdog.timer ≠ .ended := by
  intro ended
  cases makes <;> cases ended.symm.trans ‹_›

def Holds (watchdog : Watchdog) : WatchdogParty → Prop
  | .timer => watchdog.timer.isAt TimerPlace.holds = true
  | .owner => watchdog.owner.holds = true

def Locked (watchdog : Watchdog) : Prop := ∀ party, watchdog.lock = some party ↔ watchdog.Holds party

theorem Locked.exclusive (locked : watchdog.Locked) (owner : watchdog.Holds .owner) : ¬watchdog.Holds .timer := by
  intro timer
  cases ((locked .owner).mpr owner).symm.trans ((locked .timer).mpr timer)

theorem Locked.timer_step {step : TimerStep} (locked : watchdog.Locked) (makes : TimerMakes watchdog step next) :
    next.Locked := by
  have timer := locked .timer
  have owner := locked .owner
  cases makes with
  | lock deadline stands free =>
      rw [free] at owner
      rintro (_ | _)
      · exact iff_of_true rfl rfl
      · exact iff_of_false nofun ((not_congr owner).mp nofun)
  | wait deadline stands | release deadline stands | leave deadline stands =>
      -- The timer gives back a lock that it has, so the owner does not have it.
      have had : watchdog.lock = some .timer := timer.mpr (by rw [Holds, stands]; rfl)
      rw [had] at owner
      rintro (_ | _)
      · exact iff_of_false nofun nofun
      · exact iff_of_false nofun ((not_congr owner).mp nofun)
  | start _ stands | fail _ stands | seeSet _ stands | seeUnset _ stands | readEarly _ stands | readLate _ stands
  | wake _ stands | act _ stands | finish _ stands =>
      rw [Holds, stands] at timer
      rintro (_ | _)
      · exact timer
      · exact owner

theorem Locked.owner_step {step : OwnerStep} (locked : watchdog.Locked) (makes : OwnerMakes watchdog step next) :
    next.Locked := by
  have timer := locked .timer
  have owner := locked .owner
  cases makes with
  | lock way stands free =>
      rw [free] at timer
      rintro (_ | _)
      · exact iff_of_false nofun ((not_congr timer).mp nofun)
      · exact iff_of_true rfl rfl
  | unlock way stands =>
      have had : watchdog.lock = some .owner := owner.mpr (by rw [Holds, stands]; rfl)
      rw [had] at timer
      rintro (_ | _)
      · exact iff_of_false nofun ((not_congr timer).mp nofun)
      · exact iff_of_false nofun nofun
  | notify way stands =>
      rw [Holds, stands] at owner
      rintro (_ | _)
      · rw [Holds, TimerPhase.isAt_notified rfl]
        exact timer
      · exact owner
  | stop way stands | flag way stands =>
      rw [Holds, stands] at owner
      rintro (_ | _)
      · exact timer
      · exact owner
  | join way stands finished =>
      rw [Holds, stands] at owner
      rintro (_ | _)
      · exact timer
      · cases way <;> exact owner

def SeesFlag (watchdog : Watchdog) : Prop :=
  watchdog.timer.isAt TimerPlace.seenUnset = true → watchdog.disarmed = false

theorem SeesFlag.timer_step {step : TimerStep} (sees : watchdog.SeesFlag) (makes : TimerMakes watchdog step next) :
    next.SeesFlag := by
  cases makes with
  | seeUnset deadline stands unset => exact fun _ => unset
  | readEarly deadline stands | readLate deadline stands => exact fun _ => sees (by rw [stands]; rfl)
  | start | fail | lock | seeSet | wait | wake | release | act | finish | leave => exact nofun

/-- The owner has the lock when it sets the flag, so the timer is not between a look at the flag and what it does
about it. -/
theorem SeesFlag.owner_step {step : OwnerStep} (locked : watchdog.Locked) (sees : watchdog.SeesFlag)
    (makes : OwnerMakes watchdog step next) : next.SeesFlag := by
  cases makes with
  | flag way stands =>
      intro seen
      have mine : watchdog.Holds .owner := by rw [Holds, stands]; rfl
      refine absurd ?_ (locked.exclusive mine)
      change watchdog.timer.isAt TimerPlace.seenUnset = true at seen
      exact TimerPhase.isAt_mono TimerPlace.holds_of_seenUnset seen
  | notify way stands =>
      rw [SeesFlag, TimerPhase.isAt_notified rfl]
      exact sees
  | stop | lock | unlock | join => exact sees

/-- No deadline is before the earliest one, and what the timer has read on the clock is still true. -/
structure Timed (earliest : Nat) (watchdog : Watchdog) : Prop where
  spawned : ∀ timeout, watchdog.timer = .spawned timeout → earliest ≤ watchdog.clock + timeout
  begun : ∀ deadline place, watchdog.timer = .begun deadline place →
    earliest ≤ deadline ∧ (place.isLate = true → deadline ≤ watchdog.clock)

variable {earliest : Nat}

theorem Timed.timer_step {step : TimerStep} (timed : watchdog.Timed earliest)
    (makes : TimerMakes watchdog step next) : next.Timed earliest := by
  cases makes with
  | start timeout stands =>
      refine ⟨nofun, ?_⟩
      rintro _ _ ⟨⟩
      exact ⟨timed.spawned timeout stands, nofun⟩
  | readLate deadline stands late =>
      refine ⟨nofun, ?_⟩
      rintro _ _ ⟨⟩
      exact ⟨(timed.begun deadline _ stands).1, fun _ => late⟩
  | release deadline stands | act deadline stands =>
      refine ⟨nofun, ?_⟩
      rintro _ _ ⟨⟩
      obtain ⟨after, reached⟩ := timed.begun deadline _ stands
      exact ⟨after, fun _ => reached rfl⟩
  | lock deadline stands | seeSet deadline stands | seeUnset deadline stands | readEarly deadline stands
  | wait deadline stands | wake deadline stands =>
      refine ⟨nofun, ?_⟩
      rintro _ _ ⟨⟩
      exact ⟨(timed.begun deadline _ stands).1, nofun⟩
  | fail | finish | leave => exact ⟨nofun, nofun⟩

theorem Timed.owner_step {step : OwnerStep} (timed : watchdog.Timed earliest)
    (makes : OwnerMakes watchdog step next) : next.Timed earliest := by
  cases makes with
  | notify way stands =>
      constructor
      · intro timeout spawned
        exact timed.spawned timeout (TimerPhase.spawned_of_notified spawned)
      · intro deadline place begun
        obtain ⟨before, stood, same⟩ := TimerPhase.begun_of_notified begun
        exact same ▸ timed.begun deadline before stood
  | stop | lock | flag | unlock | join => exact ⟨timed.spawned, timed.begun⟩

theorem Timed.pass (timed : watchdog.Timed earliest) (time : Nat) :
    Timed earliest { watchdog with clock := watchdog.clock + time } where
  spawned := by
    intro timeout stands
    have before := timed.spawned timeout stands
    change earliest ≤ watchdog.clock + time + timeout
    omega
  begun := by
    intro deadline place stands
    obtain ⟨after, reached⟩ := timed.begun deadline place stands
    exact ⟨after, fun late => Nat.le_add_right_of_le (reached late)⟩

theorem TimerMakes.once {step : TimerStep} (makes : TimerMakes watchdog step next) :
    next.actions + next.timer.chances ≤ watchdog.actions + watchdog.timer.chances := by
  cases makes <;> simp only [TimerPhase.chances, ‹watchdog.timer = _›] <;> omega

theorem OwnerMakes.once {step : OwnerStep} (makes : OwnerMakes watchdog step next) :
    next.actions + next.timer.chances = watchdog.actions + watchdog.timer.chances := by
  cases makes with
  | notify => exact congrArg (watchdog.actions + ·) (TimerPhase.chances_notified _)
  | stop | lock | flag | unlock | join => rfl

/-- An owner that has joined the timer has seen it end, and does not come back before. -/
structure Joined (watchdog : Watchdog) : Prop where
  ended : watchdog.joinable = false → watchdog.timer = .ended
  gone : watchdog.owner = .returned → watchdog.joinable = false

theorem Joined.timer_step {step : TimerStep} (joined : watchdog.Joined) (makes : TimerMakes watchdog step next) :
    next.Joined := by
  have running := makes.not_ended
  constructor
  · intro gone
    refine absurd (joined.ended ?_) running
    cases makes <;> exact gone
  · cases makes <;> exact joined.gone

theorem Joined.owner_step {step : OwnerStep} (joined : watchdog.Joined) (makes : OwnerMakes watchdog step next) :
    next.Joined := by
  cases makes with
  | join way stands finished =>
      refine ⟨fun _ => ?_, fun _ => rfl⟩
      cases left : watchdog.joinable with
      | true => exact finished left
      | false => exact joined.ended left
  | notify way stands =>
      refine ⟨fun left => ?_, nofun⟩
      change watchdog.timer.notified = .ended
      rw [joined.ended left]
      rfl
  | stop | lock | flag | unlock => exact ⟨joined.ended, nofun⟩

structure Sound (earliest : Nat) (watchdog : Watchdog) : Prop where
  locked : watchdog.Locked
  sees : watchdog.SeesFlag
  timed : watchdog.Timed earliest
  once : watchdog.actions + watchdog.timer.chances ≤ 1
  joined : watchdog.Joined

theorem armed_sound (clock timeout : Nat) : (armed clock timeout).Sound (clock + timeout) where
  locked := by rintro (_ | _) <;> exact iff_of_false nofun nofun
  sees := nofun
  timed := ⟨by rintro _ ⟨⟩; exact Nat.le_refl _, nofun⟩
  once := Nat.le_refl _
  joined := ⟨nofun, nofun⟩

theorem Sound.move {move : WatchdogMove} (sound : watchdog.Sound earliest)
    (made : watchdog.move? move = some next) : next.Sound earliest := by
  cases move with
  | pass time =>
      cases made
      exact ⟨sound.locked, sound.sees, sound.timed.pass time, sound.once, sound.joined.ended, sound.joined.gone⟩
  | timer step =>
      have makes := makes_of_timerStep made
      exact ⟨sound.locked.timer_step makes, sound.sees.timer_step makes, sound.timed.timer_step makes,
        Nat.le_trans makes.once sound.once, sound.joined.timer_step makes⟩
  | owner step =>
      have makes := makes_of_ownerStep made
      exact ⟨sound.locked.owner_step makes, sound.sees.owner_step sound.locked makes, sound.timed.owner_step makes,
        Nat.le_trans (Nat.le_of_eq makes.once) sound.once, sound.joined.owner_step makes⟩

theorem run_keeps {P : Watchdog → Prop} {moves : List WatchdogMove} {last : Watchdog}
    (keeps : ∀ move ∈ moves, ∀ before after, P before → before.move? move = some after → P after)
    (ran : watchdog.run? moves = some last) (start : P watchdog) : P last := by
  induction moves generalizing watchdog with
  | nil =>
      cases ran
      exact start
  | cons move moves ih =>
      obtain ⟨first, others⟩ := List.forall_mem_cons.mp keeps
      obtain ⟨after, made, rest⟩ := Option.bind_eq_some_iff.mp ran
      exact ih others rest (first watchdog after start made)

theorem Sound.run {moves : List WatchdogMove} {last : Watchdog} (sound : watchdog.Sound earliest)
    (ran : watchdog.run? moves = some last) : last.Sound earliest :=
  run_keeps (fun _ _ _ _ before made => before.move made) ran sound

theorem ended_stays {move : WatchdogMove} (ended : watchdog.timer = .ended)
    (made : watchdog.move? move = some next) : next.timer = .ended ∧ next.actions = watchdog.actions := by
  cases move with
  | pass time =>
      cases made
      exact ⟨ended, rfl⟩
  | timer step => exact absurd ended (makes_of_timerStep made).not_ended
  | owner step =>
      cases makes_of_ownerStep made with
      | notify =>
          refine ⟨?_, rfl⟩
          change watchdog.timer.notified = .ended
          rw [ended]
          rfl
      | stop | lock | flag | unlock | join => exact ⟨ended, rfl⟩

theorem disarmed_stays {move : WatchdogMove} (disarmed : watchdog.disarmed = true)
    (made : watchdog.move? move = some next) : next.disarmed = true := by
  cases move with
  | pass time =>
      cases made
      exact disarmed
  | timer step => cases makes_of_timerStep made <;> exact disarmed
  | owner step => cases makes_of_ownerStep made <;> first | exact disarmed | rfl

structure Unfired (watchdog : Watchdog) : Prop where
  held : watchdog.timer.isAt TimerPlace.isFiring = false
  never : watchdog.actions = 0

theorem Unfired.move {move : WatchdogMove} (unfired : watchdog.Unfired) (other : move ≠ .timer .release)
    (made : watchdog.move? move = some next) : next.Unfired := by
  cases move with
  | pass time =>
      cases made
      exact ⟨unfired.held, unfired.never⟩
  | timer step =>
      cases makes_of_timerStep made with
      | release => exact absurd rfl other
      | act deadline stands =>
          have held := unfired.held
          rw [stands] at held
          cases held
      | start | fail | lock | seeSet | seeUnset | readEarly | readLate | wait | wake | finish | leave =>
          exact ⟨rfl, unfired.never⟩
  | owner step =>
      cases makes_of_ownerStep made with
      | notify => exact ⟨(TimerPhase.isAt_notified rfl _).trans unfired.held, unfired.never⟩
      | stop | lock | flag | unlock | join => exact ⟨unfired.held, unfired.never⟩

theorem SeesFlag.not_release (sees : watchdog.SeesFlag) (disarmed : watchdog.disarmed = true) :
    watchdog.move? (.timer .release) ≠ some next := by
  intro made
  cases makes_of_timerStep made with
  | release deadline stands =>
      have unset := sees (by rw [stands]; rfl)
      cases disarmed.symm.trans unset

theorem Sound.stays_unfired {moves : List WatchdogMove} {last : Watchdog} (sound : watchdog.Sound earliest)
    (disarmed : watchdog.disarmed = true) (unfired : watchdog.Unfired) (ran : watchdog.run? moves = some last) :
    last.Unfired := by
  have kept : last.Sound earliest ∧ last.disarmed = true ∧ last.Unfired := by
    refine run_keeps (P := fun state => state.Sound earliest ∧ state.disarmed = true ∧ state.Unfired) ?_ ran
      ⟨sound, disarmed, unfired⟩
    rintro move - before after ⟨sound, disarmed, unfired⟩ made
    have other : move ≠ .timer .release := by
      rintro rfl
      exact sound.sees.not_release disarmed made
    exact ⟨sound.move made, disarmed_stays disarmed made, unfired.move other made⟩
  exact kept.2.2

/-- In any interleaving and for any timeout, the action is started at most once, and not before the deadline. When its
owner has come back from disarming or dropping the watchdog, the timer has ended and never acts again. If the owner has
set the flag before the timer gives the lock back in order to act, the action is never started. -/
theorem acts_in_time (clock timeout : Nat) (moves : List WatchdogMove) (watchdog : Watchdog)
    (ran : (armed clock timeout).run? moves = some watchdog) :
    watchdog.actions ≤ 1 ∧
      (∀ next, watchdog.move? (.timer .act) = some next →
        ∃ deadline, watchdog.timer = .begun deadline .released ∧ clock + timeout ≤ deadline ∧
          deadline ≤ watchdog.clock) ∧
      (watchdog.owner = .returned → watchdog.timer = .ended ∧ ∀ later next, watchdog.run? later = some next →
        next.timer = .ended ∧ next.actions = watchdog.actions) ∧
      ∀ front back, moves = front ++ .owner .flag :: back → .timer .release ∉ front → watchdog.actions = 0 := by
  have sound := (armed_sound clock timeout).run ran
  refine ⟨Nat.le_trans (Nat.le_add_right _ _) sound.once, ?_, ?_, ?_⟩
  · intro next made
    cases makes_of_timerStep made with
    | act deadline stands =>
        obtain ⟨after, reached⟩ := sound.timed.begun deadline .released stands
        exact ⟨deadline, stands, after, reached rfl⟩
  · intro returned
    have ended := sound.joined.ended (sound.joined.gone returned)
    refine ⟨ended, fun later next reran => ?_⟩
    refine run_keeps (P := fun state => state.timer = .ended ∧ state.actions = watchdog.actions) ?_ reran ⟨ended, rfl⟩
    rintro move - before after ⟨stopped, same⟩ made
    obtain ⟨stays, again⟩ := ended_stays stopped made
    exact ⟨stays, again.trans same⟩
  · rintro front back rfl early
    rw [run?, List.foldlM_append] at ran
    obtain ⟨before, ranFront, ranBack⟩ := Option.bind_eq_some_iff.mp ran
    obtain ⟨flagged, made, rest⟩ := Option.bind_eq_some_iff.mp ranBack
    -- The timer acts only behind its last release of the lock, and that has not come yet.
    have unfired : before.Unfired := by
      refine run_keeps ?_ ranFront ⟨rfl, rfl⟩
      intro move member state after unfired moved
      exact unfired.move (fun same => early (same ▸ member)) moved
    have disarmed : flagged.disarmed = true := by
      cases makes_of_ownerStep made
      rfl
    have soundFlagged := ((armed_sound clock timeout).run ranFront).move made
    have other : WatchdogMove.owner .flag ≠ .timer .release := nofun
    exact (soundFlagged.stays_unfired disarmed (unfired.move other made) rest).never

/-- A timer that wakes up without cause waits once more. When the flag is set it is about to act already, so its owner
waits until the action is over. -/
def overtakenMoves : List WatchdogMove :=
  [.timer .start, .timer .lock, .timer .check, .timer .read, .timer .wait, .timer .wake, .timer .lock, .timer .check,
    .timer .read, .timer .wait, .pass 5, .timer .wake, .timer .lock, .timer .check, .timer .read, .timer .release] ++
  stopping .drop ++ [.timer .act, .timer .finish, .owner .join]

theorem acts_in_time_overtaken :
    (armed 3 5).run? overtakenMoves = some ⟨8, none, true, .ended, .returned, false, 1⟩ ∧
      ∀ later next, run? ⟨8, none, true, .ended, .returned, false, 1⟩ later = some next →
        next.timer = .ended ∧ next.actions = 1 := by
  have ran : (armed 3 5).run? overtakenMoves = some ⟨8, none, true, .ended, .returned, false, 1⟩ := by decide
  exact ⟨ran, ((acts_in_time 3 5 overtakenMoves _ ran).2.2.1 rfl).2⟩

example : fired 60000 disarmingMoves = false := by decide

end Watchdog

end FileSieve
