import Courier.Proofs.Store.Course

/-!
# Sweeps that report

A sweep reports if its clock can be turned back by the age at which a record is stale, on its face
as well as in universal time (`Sweep.Reaches`), and if a clock whose distance from universal time is
unknown finds nothing stale. Every other sweep fails.

Accepted settings put no limit on that age. Main statement: `Store.sweeps_report_iff`, by which the
sweeps of a clock that shows universal time report from 1970 on exactly if a record is stale after at
most 62135596800 seconds, which is 719162 days.
-/

namespace Courier

/-- The pending records of a store can be read. -/
def Store.Readable (s : Store) : Prop :=
  ∀ cutoff, ∃ found, (s.pendingBefore cutoff).answer = .ok found

namespace Sweep

/-- An instant lies some seconds before a clock's reading, and the clock can be turned back to it. -/
def Reaches (now : Reading) (seconds : Nat) (a : Instant) : Prop :=
  seconds * 1000000 ≤ now.face.micros ∧
    (a.micros : Int) + seconds * 1000000 + now.offset.getD 0 = now.face.micros

variable {now cutoff : Reading} {n : Nat} {s : Store} {f : Failure}

/-- A clock that can be turned back shows an earlier time and the same distance from universal
time. -/
theorem earlier_eq_ok_iff : earlier now n = .ok cutoff ↔
    cutoff.offset = now.offset ∧ cutoff.face.micros + n * 1000000 = now.face.micros := by
  -- the calendar ends long before the days of a distance do
  have enough : cutoff.face.micros + n * 1000000 = now.face.micros →
      ¬countableDays < (n : Int) / 86400 ∧ ¬greatestDays < (n : Int) / 86400 := by
    have := now.face.micros_lt
    simp only [countableDays, greatestDays]
    omega
  unfold earlier
  dsimp only
  split
  · exact iff_of_false (fun h => by cases h) fun h => (enough h.2).1 ‹_›
  · split
    · exact iff_of_false (fun h => by cases h) fun h => (enough h.2).2 ‹_›
    · have shifted : now.face.shift? (-(n * 1000000)) = some cutoff.face ↔
          cutoff.face.micros + n * 1000000 = now.face.micros := by
        rw [Instant.shift?_eq_some_iff]
        omega
      rw [← shifted]
      obtain ⟨face, offset⟩ := cutoff
      cases now.face.shift? (-(n * 1000000)) with
      | none => simp
      | some earlier => simp [eq_comm, and_comm]

/-- A clock that cannot be turned back overflows. -/
theorem label_of_earlier {seconds : Int} (h : earlier now seconds = .error f) :
    f.label = "OverflowError" := by
  unfold earlier at h
  dsimp only at h
  repeat' split at h
  all_goals cases h
  all_goals rfl

theorem reaches_iff {a : Instant} : Reaches now n a ↔
    ∃ cutoff, earlier now n = .ok cutoff ∧ cutoff.toInstant? = some a := by
  simp only [earlier_eq_ok_iff, Reading.toInstant?_eq_some_iff]
  constructor
  · rintro ⟨hle, ha⟩
    have := now.face.micros_lt
    exact ⟨⟨⟨now.face.micros - n * 1000000, by omega⟩, now.offset⟩, ⟨rfl, by dsimp only; omega⟩,
      by dsimp only; omega⟩
  · rintro ⟨cutoff, ⟨hoffset, hface⟩, ha⟩
    rw [hoffset] at ha
    exact ⟨by omega, by omega⟩

/-- Only one instant lies some seconds before a reading. -/
theorem Reaches.unique {a b : Instant} (ha : Reaches now n a) (hb : Reaches now n b) : a = b := by
  have := ha.2
  have := hb.2
  exact Instant.ext_micros (by omega)

/-! ## What a sweep comes to -/

/-- A sweep whose clock cannot be turned back fails. -/
theorem run_of_not_reaches (pos : 0 < n) (not : ∀ a, ¬Reaches now n a) :
    ∃ f, (run s now n).answer = .error f ∧ f.label = "OverflowError" := by
  have pos' : (0 : Int) < n := by exact_mod_cast pos
  cases hcutoff : earlier now n with
  | error f =>
    refine ⟨f, ?_, label_of_earlier hcutoff⟩
    rw [run, if_neg (Int.not_le.mpr pos')]
    simp only [hcutoff]
    rfl
  | ok cutoff =>
    cases ha : cutoff.toInstant? with
    | none => exact ⟨_, run_beyondCalendar pos' hcutoff ha, rfl⟩
    | some a => exact absurd (reaches_iff.mpr ⟨cutoff, hcutoff, ha⟩) (not a)

/-- A sweep of a store that can be read reports on what is found before the one instant to which its
clock can be turned back, or fails for want of it. -/
theorem run_cases (pos : 0 < n) (readable : s.Readable) (now : Reading) :
    (∃ a cutoff stale, Reaches now n a ∧ (s.pendingBefore a).answer = .ok stale ∧
        (run s now n).answer = report now cutoff stale) ∨
      (∀ a, ¬Reaches now n a) ∧
        ∃ f, (run s now n).answer = .error f ∧ f.label = "OverflowError" := by
  by_cases reach : ∃ a, Reaches now n a
  · obtain ⟨a, ha⟩ := reach
    obtain ⟨cutoff, hcutoff, hinstant⟩ := reaches_iff.mp ha
    obtain ⟨stale, found⟩ := readable a
    have pos' : (0 : Int) < n := by exact_mod_cast pos
    exact .inl ⟨a, cutoff, stale, ha, found, run_answer pos' hcutoff hinstant found⟩
  · have not : ∀ a, ¬Reaches now n a := fun a ha => reach ⟨a, ha⟩
    exact .inr ⟨not, run_of_not_reaches pos not⟩

/-- A clock whose distance from universal time is unknown reports only that nothing is stale. -/
theorem exists_report_eq_ok_iff {stale : List Record} :
    (∃ sweep, report now cutoff stale = .ok sweep) ↔ (now.offset = none → stale = []) := by
  unfold report
  cases now.offset with
  | some ahead => simp
  | none => cases stale <;> simp

theorem failure_of_report {stale : List Record} (h : report now cutoff stale = .error f) :
    f = .placelessClock := by
  unfold report at h
  split at h
  · cases h
    rfl
  · cases h

/-- A sweep of a store that can be read reports exactly if its clock can be turned back and knows
its distance from universal time or finds nothing. -/
theorem exists_run_eq_ok_iff (pos : 0 < n) (readable : s.Readable) :
    (∃ sweep, (run s now n).answer = .ok sweep) ↔
      ∃ a, Reaches now n a ∧ (now.offset = none → (s.pendingBefore a).answer = .ok []) := by
  rcases run_cases pos readable now with ⟨a, cutoff, stale, ha, found, answer⟩ | ⟨not, f, hf, _⟩
  · have nothing : (s.pendingBefore a).answer = .ok [] ↔ stale = [] := by
      rw [found, Except.ok.injEq]
    rw [answer, exists_report_eq_ok_iff, ← nothing]
    exact ⟨fun h => ⟨a, ha, h⟩, fun ⟨b, hb, h⟩ => ha.unique hb ▸ h⟩
  · refine iff_of_false ?_ fun ⟨a, ha, _⟩ => not a ha
    rintro ⟨sweep, hsweep⟩
    rw [hf] at hsweep
    cases hsweep

/-- A sweep of a store that can be read fails because its clock cannot be turned back or does not
know its distance from universal time. -/
theorem failure_of_run (pos : 0 < n) (readable : s.Readable)
    (h : (run s now n).answer = .error f) : f.label = "OverflowError" ∨ f = .placelessClock := by
  rcases run_cases pos readable now with ⟨a, cutoff, stale, _, _, answer⟩ | ⟨_, g, hg, label⟩
  · exact .inr (failure_of_report (answer ▸ h))
  · rw [hg] at h
    cases h
    exact .inl label

/-- A clock of universal time from 1970 on can always be turned back by some seconds exactly if 1970
is that far from the start of the calendar. -/
theorem always_reaches_iff :
    (∀ now : Instant, Instant.epoch ≤ now.micros → ∃ a, Reaches (.ofInstant now) n a) ↔
      n ≤ 62135596800 := by
  constructor
  · intro always
    obtain ⟨_, hle, _⟩ := always ⟨Instant.epoch, by decide⟩ (Nat.le_refl _)
    have : n * 1000000 ≤ 62135596800000000 := hle
    omega
  · intro hle now hnow
    have := now.micros_lt
    have : n * 1000000 ≤ now.micros := by
      rw [Instant.epoch] at hnow
      omega
    refine ⟨⟨now.micros - n * 1000000, by omega⟩, this, ?_⟩
    show ((now.micros - n * 1000000 : Nat) : Int) + n * 1000000 + 0 = now.micros
    omega

end Sweep

namespace Store

variable {s start : Store}

/-- Whatever has happened to a store from empty, it can be read. -/
theorem readable_of_reached (empty : start = inMemory ∨ start = inDatabase) (events : List Event) :
    (start.through events).Readable := by
  obtain ⟨_, k, _⟩ := reached empty events
  exact fun cutoff => ⟨_, k.pendingBefore cutoff⟩

/-- Accepted settings hold the seconds of their durations, the interval within its limits, so a sweep
takes the age at which a record is stale. A sweep of a store that can be read reports exactly if its
clock can be turned back by that age and knows its distance from universal time or finds nothing, and
otherwise it fails. -/
theorem sweeps_report_iff {v : Value} {settings : SweeperSettings}
    (accepted : SweeperSettings.ofValue v = .ok settings) (readable : s.Readable) :
    let n := settings.staleAfterSeconds
    Duration.seconds settings.interval = .ok settings.intervalSeconds ∧
      30 ≤ settings.intervalSeconds ∧ settings.intervalSeconds ≤ 86400 ∧
      Duration.seconds settings.staleAfter = .ok n ∧ 1 ≤ n ∧
      (∀ now f, (Sweep.run s now n).answer = .error f →
        f.label = "OverflowError" ∨ f = .placelessClock) ∧
      (∀ now, (∃ sweep, (Sweep.run s now n).answer = .ok sweep) ↔
        ∃ a, Sweep.Reaches now n a ∧
          (now.offset = none → (s.pendingBefore a).answer = .ok [])) ∧
      ((∀ now : Instant, Instant.epoch ≤ now.micros →
        ∃ sweep, (Sweep.run s (.ofInstant now) n).answer = .ok sweep) ↔ n ≤ 62135596800) := by
  intro n
  have sound := SweeperSettings.sound_of_ofValue accepted
  have pos : 0 < n := SweeperSettings.staleAfterSeconds_pos accepted
  have reports : ∀ now, (∃ sweep, (Sweep.run s now n).answer = .ok sweep) ↔
      ∃ a, Sweep.Reaches now n a ∧ (now.offset = none → (s.pendingBefore a).answer = .ok []) :=
    fun now => Sweep.exists_run_eq_ok_iff pos readable
  refine ⟨sound.interval, sound.least, sound.greatest, sound.staleAfter, pos,
    fun now f => Sweep.failure_of_run pos readable, reports, ?_⟩
  simp only [reports, Reading.ofInstant, reduceCtorEq, false_implies, and_true]
  exact Sweep.always_reaches_iff

/-- Records that are stale after an hour: sweeps with these settings report from 1970 on, whatever the
form says of seconds. -/
theorem sweeps_report_after_an_hour :
    let v := Value.dict [(.text "stale_after", .text "1h"), (.text "stale_after_seconds", .int 5)]
    let settings : SweeperSettings := { staleAfter := "1h", staleAfterSeconds := 3600 }
    let s := inDatabase.through
      [.ask (.append (.fresh "n1" "ada" "offer-letter" Record.morning)), .ask .reopen]
    SweeperSettings.ofValue v = .ok settings ∧ s.Readable ∧
      ∀ now : Instant, Instant.epoch ≤ now.micros →
        ∃ sweep, (Sweep.run s (.ofInstant now) 3600).answer = .ok sweep := by
  intro v settings s
  have accepted : SweeperSettings.ofValue v = .ok settings := rfl
  have readable : s.Readable := readable_of_reached (.inr rfl) _
  obtain ⟨_, _, _, _, _, _, _, always⟩ := sweeps_report_iff accepted readable
  exact ⟨accepted, readable, always.mpr (by decide)⟩

/-- Settings by which a record is stale after 800000 days are accepted, and then the sweeps of either
kind of store fail, since the calendar has not lasted that long. -/
theorem no_report_after_800000_days :
    let v := Value.dict [(.text "stale_after", .text "800000d")]
    let settings : SweeperSettings :=
      { staleAfter := "800000d", staleAfterSeconds := 69120000000 }
    let now := Record.morning
    SweeperSettings.ofValue v = .ok settings ∧ Instant.epoch ≤ now.micros ∧
      (Sweep.run inMemory (.ofInstant now) settings.staleAfterSeconds).answer =
        .error .beyondCalendar ∧
      (Sweep.run inDatabase (.ofInstant now) settings.staleAfterSeconds).answer =
        .error .beyondCalendar ∧
      Failure.beyondCalendar.label = "OverflowError" :=
  ⟨rfl, by decide, rfl, rfl, rfl⟩

end Store

end Courier
