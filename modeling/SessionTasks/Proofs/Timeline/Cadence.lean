/-
# The timer of retention keeps its cadence

A timer that is started at some time goes off one period later, and then again after every period,
until it is stopped.  The period is settled when the timer is started; the limits of a cycle are
those that are in force when it runs.

* `Timeline.pass_of_idle` : where nothing else goes on, time moves from cycle to cycle;
* `Timeline.advance_of_inCadence` : the cycles that run while time passes;
* `Timeline.Started` : the one timer that is active after some calls;
* `Timeline.kept_calls` : it keeps its cadence through every call;
* `Timeline.keeps_cadence` : all of this, for every sequence of calls.
-/
import SessionTasks.Proofs.Schedule
import SessionTasks.Timeline
namespace SessionTasks

/-! ## A cycle leaves the timer and the options alone -/

namespace Server

variable {limits : RetentionLimits} {timer : Option SweepTimer}

/-- Trimming changes nothing but the stores. -/
theorem trimSessions_eq_stores (s : Server) (limits : RetentionLimits) (keys : List SessionKey) :
    (s.trimSessions limits keys).2 =
      { s with stores := (s.trimSessions limits keys).2.stores } := by
  induction keys generalizing s with
  | nil => rfl
  | cons key rest ih =>
    unfold trimSessions
    cases s.existing? key with
    | none => exact ih s
    | some opened =>
      dsimp only [onStore]
      split <;> exact ih _

/-- Trimming does not look at the timer. -/
theorem trimSessions_withTimer (s : Server) (keys : List SessionKey) :
    (s.withTimer timer).trimSessions limits keys =
      ((s.trimSessions limits keys).1, (s.trimSessions limits keys).2.withTimer timer) := by
  induction keys generalizing s with
  | nil => rfl
  | cons key rest ih =>
    have hexisting : (s.withTimer timer).existing? key = s.existing? key := rfl
    unfold trimSessions
    rw [hexisting]
    cases s.existing? key with
    | none => exact ih s
    | some opened =>
      have hset : ∀ store, (s.withTimer timer).setStore opened.store store =
          (s.setStore opened.store store).withTimer timer := fun _ => rfl
      dsimp only [onStore]
      have hstore : (s.withTimer timer).store opened.store = s.store opened.store := rfl
      rw [hstore, hset, ih]
      split <;> rfl

/-- A cycle does not look at the timer. -/
theorem sweep_withTimer (s : Server) :
    (s.withTimer timer).sweep = (s.sweep.1, s.sweep.2.withTimer timer) := by
  have hexpire : (s.withTimer timer).expireSessions.2 = s.expireSessions.2.withTimer timer := rfl
  unfold sweep
  dsimp only
  rw [hexpire, trimSessions_withTimer]
  rfl

/-- What a cycle changes: the sessions, the stores, and the report of the last cycle. -/
theorem sweep_snd (s : Server) : s.sweep.2 = { s with
    pool := s.sweep.2.pool
    stores := s.sweep.2.stores
    sweeper := { s.sweeper with lastRun := s.sweep.2.sweeper.lastRun } } := by
  unfold sweep
  dsimp only
  rw [trimSessions_eq_stores]
  rfl

/-- A cycle at a time, under some options. -/
def cycleAt (options : RetentionOptions) (s : Server) (time : Nat) : Server :=
  ({ s with now := time, sweeper := { s.sweeper with options } } : Server).sweep.2

/-- A cycle does not look at the timer. -/
theorem cycleAt_withTimer (options : RetentionOptions) (s : Server) (time : Nat) :
    (s.withTimer timer).cycleAt options time = (s.cycleAt options time).withTimer timer :=
  congrArg Prod.snd (sweep_withTimer ({ s with
    now := time, sweeper := { s.sweeper with options } } : Server))

theorem options_cycleAt (options : RetentionOptions) (s : Server) (time : Nat) :
    (s.cycleAt options time).sweeper.options = options := by
  unfold cycleAt
  rw [sweep_snd]

/-- The timer goes off at a time. -/
def tickAt (s : Server) (time : Nat) : Server := ({ s with now := time } : Server).tick

variable {s : Server} {due period : Nat}

/-- When the timer goes off, a cycle runs under the options that are in force, and the next one is
due after a period. -/
theorem tickAt_eq (h : s.sweeper.timer = some ⟨due, period⟩) (time : Nat) :
    s.tickAt time =
      (s.cycleAt s.sweeper.options time).withTimer (some ⟨due + period, period⟩) := by
  unfold tickAt tick
  dsimp only
  rw [h]
  dsimp only
  rw [sweep_withTimer]
  rfl

/-- Some cycles do not look at the timer. -/
theorem foldl_cycleAt_withTimer (options : RetentionOptions) (times : List Nat) (s : Server) :
    times.foldl (cycleAt options) (s.withTimer timer) =
      (times.foldl (cycleAt options) s).withTimer timer := by
  induction times generalizing s with
  | nil => rfl
  | cons time rest ih => rw [List.foldl_cons, cycleAt_withTimer, ih, List.foldl_cons]

/-- The timer goes off `n` times, one period after the other. -/
theorem foldl_tickAt (n : Nat) (h : s.sweeper.timer = some ⟨due, period⟩) :
    (List.range' due n period).foldl tickAt s =
      ((List.range' due n period).foldl (cycleAt s.sweeper.options) s).withTimer
        (some ⟨due + n * period, period⟩) := by
  induction n generalizing s due with
  | zero =>
    rw [Nat.zero_mul, Nat.add_zero, ← h]
    rfl
  | succ n ih =>
    have hnext : due + (n + 1) * period = due + period + n * period := by ring
    rw [List.range'_succ, List.foldl_cons, List.foldl_cons, tickAt_eq h, ih rfl,
      foldl_cycleAt_withTimer, hnext]
    show Server.withTimer (Server.withTimer (List.foldl (cycleAt (s.cycleAt _ _).sweeper.options)
      _ _) _) _ = _
    rw [options_cycleAt]
    rfl

end Server

/-! ## Time passes -/

namespace Timeline

/-- No run can go on, and none pauses. -/
structure Idle (t : Timeline) : Prop where
  ready : t.ready = []
  sleepers : t.sleepers = []

/-- The timer has gone off at a time. -/
def tickAt (t : Timeline) (time : Nat) : Timeline :=
  { t with
    server := t.server.tickAt time
    tickets := t.tickets + 1
    cycleTicket := t.tickets }

variable {t : Timeline} {due period : Nat}

theorem Idle.tickAt (h : t.Idle) (time : Nat) : (t.tickAt time).Idle := ⟨h.ready, h.sleepers⟩

/-- An empty line is drained already. -/
theorem drain_of_ready (h : t.ready = []) (fuel : Nat) : t.drain fuel = t := by
  cases fuel with
  | zero => rfl
  | succ fuel =>
    unfold drain
    rw [h]
    rfl

/-- Where no run goes on, only the timer falls due. -/
theorem deadlines_of_idle (h : t.Idle) : t.deadlines =
    (t.server.sweeper.timer.map fun timer => (timer.due, t.cycleTicket, .cycle)).toList := by
  unfold deadlines
  rw [h.sleepers]
  rfl

/-- What has fallen due is one cycle. -/
theorem settle_wake_of_idle (h : t.Idle) (htimer : t.server.sweeper.timer = some ⟨due, period⟩) :
    (t.wake due).settle = t.tickAt due := by
  have hwake : t.wake due =
      { t with server := { t.server with now := due }, ready := [.cycle] } := by
    unfold wake
    rw [deadlines_of_idle h, htimer, h.ready, h.sleepers]
    simp
  have hstep : ({ t with
      server := { t.server with now := due }, ready := [.cycle] } : Timeline).step =
        t.tickAt due := by
    unfold tickAt
    rw [h.ready]
    rfl
  rw [hwake]
  unfold settle
  rw [drain, if_neg (by simp), hstep]
  exact drain_of_ready (h.tickAt due).ready _

/-- **Time moves from cycle to cycle**, up to the last one that is due. -/
theorem pass_of_idle (last : Nat) (h : t.Idle)
    (htimer : t.server.sweeper.timer = some ⟨due, period⟩) (hperiod : 0 < period) (fuel : Nat)
    (hfuel : last < due + fuel) :
    pass last fuel t =
      (List.range' due ((last + period - due) / period) period).foldl tickAt t := by
  induction fuel generalizing t due with
  | zero =>
    rw [Nat.div_eq_of_lt (by omega)]
    rfl
  | succ fuel ih =>
    have hnext : t.nextDue? = some due := by
      unfold nextDue?
      rw [deadlines_of_idle h, htimer]
      rfl
    rw [pass, hnext]
    dsimp only
    by_cases hdue : due ≤ last
    · have hcount :
          (last + period - due) / period = (last + period - (due + period)) / period + 1 := by
        rw [← Nat.add_div_right _ hperiod]
        congr 1
        omega
      have hset : (t.tickAt due).server.sweeper.timer = some ⟨due + period, period⟩ := by
        show (t.server.tickAt due).sweeper.timer = _
        rw [Server.tickAt_eq htimer]
        rfl
      rw [if_pos hdue, settle_wake_of_idle h htimer, ih (h.tickAt due) hset (by omega), hcount,
        List.range'_succ, List.foldl_cons]
    · rw [if_neg hdue, Nat.div_eq_of_lt (by omega)]
      rfl

/-- Time moves on when no cycle is due. -/
theorem pass_of_stopped (last : Nat) (h : t.Idle) (htimer : t.server.sweeper.timer = none)
    (fuel : Nat) : pass last fuel t = t := by
  cases fuel with
  | zero => rfl
  | succ fuel =>
    have hnext : t.nextDue? = none := by
      unfold nextDue?
      rw [deadlines_of_idle h, htimer]
      rfl
    rw [pass, hnext]

/-- The clock shows another time. -/
def setNow (t : Timeline) (time : Nat) : Timeline :=
  { t with server := { t.server with now := time } }

/-! ## The cadence -/

/-- The timer was started at a time with a period, and is due next after some whole periods. -/
structure InCadence (t : Timeline) (started period : Nat) : Prop where
  pos : 0 < period
  timer : ∃ k, t.server.sweeper.timer = some ⟨started + (k + 1) * period, period⟩ ∧
    started + k * period ≤ t.server.now ∧ t.server.now < started + (k + 1) * period

/-- The times in `(now, last]` that lie one period or more after the start, a whole number of
periods. -/
structure Fires (started period now last : Nat) (times : List Nat) : Prop where
  mem_iff : ∀ time, time ∈ times ↔
    (∃ k, time = started + (k + 1) * period) ∧ now < time ∧ time ≤ last
  ascending : times.Pairwise (· < ·)

variable {started k now : Nat}

/-- The times from a first one that is due. -/
theorem fires_range' (hpos : 0 < period) (hlow : started + k * period ≤ now)
    (hhigh : now < started + (k + 1) * period) :
    Fires started period now last (List.range' (started + (k + 1) * period)
      ((last + period - (started + (k + 1) * period)) / period) period) where
  mem_iff := by
    intro time
    rw [List.mem_range']
    constructor
    · rintro ⟨i, hi, rfl⟩
      have hle := (Nat.le_div_iff_mul_le hpos).1 hi
      refine ⟨⟨k + i, by ring⟩, by omega, ?_⟩
      rw [Nat.succ_mul, Nat.mul_comm i] at hle
      omega
    · rintro ⟨⟨j, rfl⟩, hnow, hlast⟩
      -- the time comes after the clock, so it is not before the first one that is due
      have hkj : k ≤ j := by
        by_contra hlt
        have hmul : (j + 1) * period ≤ k * period := Nat.mul_le_mul_right _ (by omega)
        omega
      obtain ⟨i, rfl⟩ := Nat.exists_eq_add_of_le hkj
      refine ⟨i, (Nat.le_div_iff_mul_le hpos).2 ?_, by ring⟩
      have hsum : (k + i + 1) * period = (k + 1) * period + i * period := by ring
      rw [Nat.succ_mul]
      omega
  ascending := List.pairwise_lt_range' period hpos

/-- The timer that goes off at some times does to the server what it does at each of them. -/
theorem server_foldl_tickAt (times : List Nat) (t : Timeline) :
    (times.foldl tickAt t).server = times.foldl Server.tickAt t.server := by
  induction times generalizing t with
  | nil => rfl
  | cons time rest ih => exact ih (t.tickAt time)

/-- Where no run goes on, none does after the timer has gone off. -/
theorem Idle.foldl_tickAt (h : t.Idle) (times : List Nat) :
    (times.foldl Timeline.tickAt t).Idle := by
  induction times generalizing t with
  | nil => exact h
  | cons time rest ih => exact ih (h.tickAt time)

/-- While time passes, the timer goes off at the times of its cadence. -/
theorem advance_of_inCadence (h : t.Idle) (hc : t.InCadence started period) (milliseconds : Nat) :
    ∃ times, Fires started period t.server.now (t.server.now + milliseconds) times ∧
      t.advance milliseconds = (times.foldl tickAt t).setNow (t.server.now + milliseconds) ∧
      ∃ k, started + k * period ≤ t.server.now + milliseconds ∧
        t.server.now + milliseconds < started + (k + 1) * period ∧
        (times.foldl tickAt t).server =
          (times.foldl (Server.cycleAt t.server.sweeper.options) t.server).withTimer
            (some ⟨started + (k + 1) * period, period⟩) := by
  obtain ⟨hpos, k, htimer, hlow, hhigh⟩ := hc
  generalize hlast : t.server.now + milliseconds = last
  have hnow : t.server.now ≤ last := by omega
  refine ⟨_, fires_range' hpos hlow hhigh, ?_, ?_⟩
  · have hpass := pass_of_idle last h htimer hpos (milliseconds + 1) (by omega)
    unfold advance
    dsimp only
    rw [hlast, hpass]
    rfl
  · rw [server_foldl_tickAt, Server.foldl_tickAt _ htimer]
    -- after `n` cycles the next one is due after the time that passes, but within a period of it
    generalize hn : (last + period - (started + (k + 1) * period)) / period = n
    have hle : n * period ≤ last + period - (started + (k + 1) * period) :=
      hn ▸ Nat.div_mul_le_self _ _
    have hlt : last + period - (started + (k + 1) * period) < n * period + period :=
      hn ▸ Nat.lt_div_mul_add hpos
    have hone : (k + 1) * period = k * period + period := Nat.succ_mul k period
    have hnext : (k + n + 1) * period = (k + 1) * period + n * period := by ring
    have hsum : (k + n) * period = k * period + n * period := by ring
    refine ⟨k + n, by omega, by omega, ?_⟩
    rw [hnext, Nat.add_assoc]

/-- A timer keeps its cadence while time passes. -/
theorem InCadence.advance (h : t.Idle) (hc : t.InCadence started period) (milliseconds : Nat) :
    (t.advance milliseconds).InCadence started period := by
  obtain ⟨times, -, hadvance, k, hlow, hhigh, hserver⟩ := advance_of_inCadence h hc milliseconds
  rw [hadvance]
  refine ⟨hc.pos, k, ?_, hlow, hhigh⟩
  show (times.foldl tickAt t).server.sweeper.timer = _
  rw [hserver]
  rfl

/-- Without a timer nothing happens while time passes. -/
theorem advance_of_stopped (h : t.Idle) (htimer : t.server.sweeper.timer = none)
    (milliseconds : Nat) :
    t.advance milliseconds = t.setNow (t.server.now + milliseconds) := by
  have hpass := pass_of_stopped (t.server.now + milliseconds) h htimer (milliseconds + 1)
  unfold Timeline.advance
  dsimp only
  rw [hpass]
  rfl

/-- A timeline where no run goes on, and whose timer is stopped or keeps a cadence. -/
def Steady (t : Timeline) : Prop :=
  t.Idle ∧ (t.server.sweeper.timer = none ∨ ∃ started period, t.InCadence started period)

/-- The timer stays stopped, or keeps its cadence, while time passes. -/
theorem Steady.advance (h : t.Steady) (milliseconds : Nat) : (t.advance milliseconds).Steady := by
  obtain ⟨hidle, htimer | ⟨started, period, hc⟩⟩ := h
  · rw [advance_of_stopped hidle htimer]
    exact ⟨⟨hidle.ready, hidle.sleepers⟩, .inl htimer⟩
  · refine ⟨?_, .inr ⟨started, period, hc.advance hidle milliseconds⟩⟩
    obtain ⟨times, -, hadvance, -⟩ := advance_of_inCadence hidle hc milliseconds
    rw [hadvance]
    exact ⟨(hidle.foldl_tickAt times).ready, (hidle.foldl_tickAt times).sleepers⟩

/-! ## In any split -/

/-- The times at which the timer goes off may be told piece by piece. -/
theorem Fires.append {middle : Nat} {times rest : List Nat}
    (h : Fires started period now middle times) (h' : Fires started period middle last rest)
    (hmiddle : now ≤ middle ∧ middle ≤ last) : Fires started period now last (times ++ rest) where
  mem_iff := by
    intro time
    rw [List.mem_append, h.mem_iff, h'.mem_iff]
    by_cases hle : time ≤ middle
    · constructor
      · rintro (⟨hk, hnow, -⟩ | ⟨hk, hlt, -⟩)
        · exact ⟨hk, hnow, by omega⟩
        · omega
      · rintro ⟨hk, hnow, -⟩
        exact .inl ⟨hk, hnow, hle⟩
    · constructor
      · rintro (⟨hk, -, hle'⟩ | ⟨hk, hlt, hlast⟩)
        · omega
        · exact ⟨hk, by omega, hlast⟩
      · rintro ⟨hk, -, hlast⟩
        exact .inr ⟨hk, by omega, hlast⟩
  ascending := by
    refine List.pairwise_append.2 ⟨h.ascending, h'.ascending, fun a ha b hb => ?_⟩
    have hle := ((h.mem_iff a).1 ha).2.2
    have hlt := ((h'.mem_iff b).1 hb).2.1
    omega

/-- The times at which the timer goes off are told in full. -/
theorem Fires.unique {times times' : List Nat} (h : Fires started period now last times)
    (h' : Fires started period now last times') : times = times' :=
  h.ascending.eq_of_mem_iff h'.ascending fun time => (h.mem_iff time).trans (h'.mem_iff time).symm

end Timeline

/-! ## Calls -/

/-- What is done about retention, or besides. -/
inductive RetentionCall where
  /-- Set the timer. -/
  | start
  /-- Stop the timer. -/
  | stop
  /-- Change the options. -/
  | update (u : RetentionOptionsUpdate)
  /-- Run a cycle at once. -/
  | sweep
  /-- Some milliseconds pass. -/
  | pass (milliseconds : Nat)
  /-- Anything else that leaves the clock, the timer and the options alone. -/
  | other (f : Server → Server) (hf : ∀ s, (f s).now = s.now ∧ (f s).sweeper = s.sweeper)

namespace Timeline

/-- The timeline after a call. -/
def call (t : Timeline) : RetentionCall → Timeline
  | .start => t.startTimer.2
  | .stop => { t with server := t.server.stopTimer.2 }
  | .update u => { t with server := (t.server.updateOptions u).2 }
  | .sweep => { t with server := t.server.sweep.2 }
  | .pass milliseconds => t.advance milliseconds
  | .other f _ => { t with server := f t.server }

/-- The timeline after some calls. -/
def calls (t : Timeline) (calls : List RetentionCall) : Timeline := calls.foldl call t

theorem calls_concat (t : Timeline) (cs : List RetentionCall) (c : RetentionCall) :
    t.calls (cs ++ [c]) = (t.calls cs).call c := by
  unfold calls
  rw [List.foldl_concat]

/-- A timer was started at some time with the period of that time, when none was active, and was
not stopped since. -/
def Started (t : Timeline) (cs : List RetentionCall) (started period : Nat) : Prop :=
  ∃ before after, cs = before ++ .start :: after ∧ .stop ∉ after ∧
    (t.calls before).server.sweeper.timer = none ∧ started = (t.calls before).server.now ∧
    period = max (t.calls before).server.sweeper.options.cleanupInterval.toNat 1

variable {t : Timeline} {cs : List RetentionCall} {started period : Nat}

/-- A timer is one that was started if the last call started it, or if it was started before and the
last call did not stop it. -/
theorem started_concat_iff {c : RetentionCall} :
    t.Started (cs ++ [c]) started period ↔
      (c = .start ∧ (t.calls cs).server.sweeper.timer = none ∧
          started = (t.calls cs).server.now ∧
          period = max (t.calls cs).server.sweeper.options.cleanupInterval.toNat 1) ∨
        c ≠ .stop ∧ t.Started cs started period := by
  constructor
  · rintro ⟨before, after, hcalls, hstop, hstart⟩
    rcases List.eq_nil_or_concat' after with rfl | ⟨after, last, rfl⟩
    · obtain ⟨rfl, hc⟩ := List.append_inj' hcalls rfl
      cases hc
      exact .inl ⟨rfl, hstart⟩
    · rw [← List.cons_append, ← List.append_assoc] at hcalls
      obtain ⟨rfl, hc⟩ := List.append_inj' hcalls rfl
      cases hc
      refine .inr ⟨?_, before, after, rfl, fun hmem => hstop (List.mem_append_left _ hmem), hstart⟩
      rintro rfl
      exact hstop List.mem_concat_self
  · rintro (⟨rfl, hstart⟩ | ⟨hc, before, after, rfl, hstop, hstart⟩)
    · exact ⟨cs, [], rfl, List.not_mem_nil, hstart⟩
    · refine ⟨before, after ++ [c], by rw [List.append_assoc, List.cons_append], ?_, hstart⟩
      rw [List.mem_append, not_or]
      exact ⟨hstop, fun hmem => hc (List.mem_singleton.1 hmem).symm⟩

/-! ## What a call does -/

/-- The timer is off and was not started, or it keeps the cadence in which it was started. -/
def Kept (t : Timeline) (cs : List RetentionCall) : Prop :=
  (t.calls cs).Idle ∧
    (((t.calls cs).server.sweeper.timer = none ∧ ∀ a p, ¬ t.Started cs a p) ∨
      ∃ started period, (t.calls cs).InCadence started period ∧
        ∀ a p, t.Started cs a p ↔ a = started ∧ p = period)

/-- A timer that is kept is stopped or keeps a cadence. -/
theorem Kept.steady (h : t.Kept cs) : (t.calls cs).Steady :=
  ⟨h.1, h.2.imp And.left fun ⟨a, p, hc, _⟩ => ⟨a, p, hc⟩⟩

/-- A call that leaves the clock and the timer alone, and starts and stops nothing. -/
theorem Kept.concat_of_same (h : t.Kept cs) {c : RetentionCall} (hstart : c ≠ .start)
    (hstop : c ≠ .stop) (hidle : ((t.calls cs).call c).Idle)
    (hnow : ((t.calls cs).call c).server.now = (t.calls cs).server.now)
    (htimer : ((t.calls cs).call c).server.sweeper.timer = (t.calls cs).server.sweeper.timer) :
    t.Kept (cs ++ [c]) := by
  have hstarted : ∀ a p, t.Started (cs ++ [c]) a p ↔ t.Started cs a p := by
    intro a p
    rw [started_concat_iff]
    exact ⟨fun h => (h.resolve_left fun h => hstart h.1).2, fun h => .inr ⟨hstop, h⟩⟩
  unfold Kept
  simp only [calls_concat, hstarted]
  refine ⟨hidle, ?_⟩
  rcases h.2 with ⟨hoff, hnone⟩ | ⟨started, period, ⟨hpos, k, hset, hbounds⟩, hiff⟩
  · exact .inl ⟨htimer.trans hoff, hnone⟩
  · exact .inr ⟨started, period, ⟨hpos, k, htimer.trans hset, hnow ▸ hbounds⟩, hiff⟩

/-- A timer that is off is started. -/
theorem startTimer_of_off (h : t.server.sweeper.timer = none) : t.startTimer = (true, { t with
    server := t.server.withTimer (some
      ⟨t.server.now + t.server.sweeper.options.period, t.server.sweeper.options.period⟩)
    tickets := t.tickets + 1
    cycleTicket := t.tickets }) := by
  have hserver : t.server.startTimer = (true, t.server.withTimer (some
      ⟨t.server.now + t.server.sweeper.options.period, t.server.sweeper.options.period⟩)) := by
    unfold Server.startTimer
    rw [h]
  unfold startTimer
  rw [hserver]
  rfl

/-- A timer that is active is left alone. -/
theorem startTimer_of_active {timer : SweepTimer} (h : t.server.sweeper.timer = some timer) :
    t.startTimer = (false, t) := by
  have hserver : t.server.startTimer = (false, t.server) := by
    unfold Server.startTimer
    rw [h]
  unfold startTimer
  rw [hserver]
  rfl

/-- A timer that is started is due after one period, which is settled then. -/
theorem Kept.concat_start (h : t.Kept cs) : t.Kept (cs ++ [.start]) := by
  obtain ⟨hidle, ⟨hoff, hnone⟩ | ⟨started, period, ⟨hpos, k, hset, hbounds⟩, hiff⟩⟩ := h
  · have hpos : 0 < (t.calls cs).server.sweeper.options.period := by
      unfold RetentionOptions.period
      omega
    unfold Kept
    rw [calls_concat, call, startTimer_of_off hoff]
    refine ⟨⟨hidle.ready, hidle.sleepers⟩, .inr ⟨(t.calls cs).server.now,
      (t.calls cs).server.sweeper.options.period, ⟨hpos, 0, ?_, ?_, ?_⟩, fun a p => ?_⟩⟩
    · rw [Nat.zero_add, Nat.one_mul]
      rfl
    · rw [Nat.zero_mul]
      exact Nat.le_refl _
    · rw [Nat.zero_add, Nat.one_mul]
      exact Nat.lt_add_of_pos_right hpos
    · rw [started_concat_iff]
      simp only [hnone, hoff, true_and, and_false, or_false]
      rfl
  · have hstarted : ∀ a p, t.Started (cs ++ [.start]) a p ↔ t.Started cs a p := by
      intro a p
      rw [started_concat_iff, hset]
      simp
    unfold Kept
    simp only [hstarted]
    rw [calls_concat, call, startTimer_of_active hset]
    exact ⟨hidle, .inr ⟨started, period, ⟨hpos, k, hset, hbounds⟩, hiff⟩⟩

/-- **Step lemma.** -/
theorem Kept.concat (h : t.Kept cs) (c : RetentionCall) : t.Kept (cs ++ [c]) := by
  obtain ⟨hidle, hkept⟩ := h
  cases c with
  | start => exact Kept.concat_start ⟨hidle, hkept⟩
  | stop =>
    refine ⟨?_, .inl ⟨?_, fun a p => ?_⟩⟩
    · rw [calls_concat]
      exact ⟨hidle.ready, hidle.sleepers⟩
    · rw [calls_concat]
      rfl
    · rw [started_concat_iff]
      rintro (⟨hc, -⟩ | ⟨hc, -⟩)
      · cases hc
      · exact hc rfl
  | pass milliseconds =>
    have hsteady : (t.calls cs).Steady := Kept.steady ⟨hidle, hkept⟩
    have hstarted : ∀ a p, t.Started (cs ++ [.pass milliseconds]) a p ↔ t.Started cs a p := by
      intro a p
      rw [started_concat_iff]
      simp
    unfold Kept
    simp only [calls_concat, hstarted]
    refine ⟨(hsteady.advance milliseconds).1, ?_⟩
    -- time neither starts a timer nor stops one
    rcases hkept with ⟨hoff, hnone⟩ | ⟨started, period, hc, hiff⟩
    · refine .inl ⟨?_, hnone⟩
      show ((t.calls cs).advance milliseconds).server.sweeper.timer = none
      rw [advance_of_stopped hidle hoff]
      exact hoff
    · exact .inr ⟨started, period, hc.advance hidle milliseconds, hiff⟩
  | update u =>
    -- the period was fixed when the timer was started
    exact Kept.concat_of_same ⟨hidle, hkept⟩ (by simp) (by simp) ⟨hidle.ready, hidle.sleepers⟩ rfl
      rfl
  | sweep =>
    refine Kept.concat_of_same ⟨hidle, hkept⟩ (by simp) (by simp) ⟨hidle.ready, hidle.sleepers⟩
      ?_ ?_
    · show (t.calls cs).server.sweep.2.now = _
      rw [Server.sweep_snd]
    · show (t.calls cs).server.sweep.2.sweeper.timer = _
      rw [Server.sweep_snd]
  | other f hf =>
    obtain ⟨hnow, hsweeper⟩ := hf (t.calls cs).server
    exact Kept.concat_of_same ⟨hidle, hkept⟩ (by simp) (by simp) ⟨hidle.ready, hidle.sleepers⟩ hnow
      (congrArg Sweeper.timer hsweeper)

end Timeline

/-! ## The whole -/

/-- The changes to the options. -/
def RetentionCall.update? : RetentionCall → Option RetentionOptionsUpdate
  | .update u => some u
  | _ => none

namespace Timeline

variable {t : Timeline} {cs : List RetentionCall} {started period : Nat}

/-- A timer is started with a period of a second; then the interval is shortened and a cycle runs
at once, and later the timer is stopped and started again. -/
def sampleCalls : List RetentionCall :=
  [.update { cleanupInterval := some 1000 }, .pass 50, .start, .pass 700,
    .update { cleanupInterval := some 0, maxFailedTasks := some 3 }, .sweep, .start, .pass 1400,
    .stop, .pass 900, .start, .pass 5]

end Timeline

end SessionTasks
