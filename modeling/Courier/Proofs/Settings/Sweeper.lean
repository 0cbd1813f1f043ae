import Courier.Proofs.Form.Field
import Courier.Settings.Sweeper

/-!
# Accepted settings of the sweep

Accepted settings hold the seconds that their durations stand for, whatever the form says of seconds
(`SweeperSettings.Sound`). The interval keeps a lower and an upper limit, while the age at which a
record is stale only has to be positive.
-/

namespace Courier.SweeperSettings

open Form

/-- Settings whose seconds are those of their durations and whose interval keeps its limits. -/
structure Sound (s : SweeperSettings) : Prop where
  interval : Duration.seconds s.interval = .ok s.intervalSeconds
  least : leastInterval ≤ s.intervalSeconds
  greatest : s.intervalSeconds ≤ greatestInterval
  staleAfter : Duration.seconds s.staleAfter = .ok s.staleAfterSeconds

variable {v : Value} {d : String × Nat} {s : SweeperSettings}

/-- A duration that is read stands for its seconds. -/
theorem seconds_of_duration (h : duration v = .ok d) : Duration.seconds d.1 = .ok d.2 := by
  obtain ⟨text, _, hs⟩ := Checked.andThen_eq_ok_iff.mp h
  cases hseconds : Duration.seconds text with
  | error fault =>
    rw [hseconds] at hs
    cases hs
  | ok n =>
    rw [hseconds] at hs
    cases hs
    exact hseconds

/-- An interval is a duration within its limits. -/
theorem duration_of_intervalOf (h : intervalOf v = .ok d) :
    duration v = .ok d ∧ leastInterval ≤ d.2 ∧ d.2 ≤ greatestInterval := by
  obtain ⟨⟨text, n⟩, hduration, hlimits⟩ := Checked.andThen_eq_ok_iff.mp h
  dsimp only at hlimits
  split at hlimits
  · cases hlimits
  · split at hlimits
    · cases hlimits
    · rename_i least greatest
      cases hlimits
      exact ⟨hduration, Nat.not_lt.mp least, Nat.not_lt.mp greatest⟩

theorem sound_of_ofValue (accepted : ofValue v = .ok s) : s.Sound := by
  obtain ⟨form, _, hform⟩ := Checked.andThen_eq_ok_iff.mp accepted
  obtain ⟨_, _, hthree, _, rfl⟩ := Checked.seq_eq_ok_iff.mp hform
  obtain ⟨_, _, htwo, _, rfl⟩ := Checked.seq_eq_ok_iff.mp hthree
  obtain ⟨_, staleAfter, hone, hstale, rfl⟩ := Checked.seq_eq_ok_iff.mp htwo
  obtain ⟨interval, hinterval, rfl⟩ := Checked.map_eq_ok_iff.mp hone
  have stale : Duration.seconds staleAfter.1 = .ok staleAfter.2 := by
    rcases of_field hstale with rfl | ⟨v, hv⟩
    · rfl
    · exact seconds_of_duration hv
  rcases of_field hinterval with rfl | ⟨v, hv⟩
  · have usual : Duration.seconds "5m" = .ok 300 := rfl
    have limits : leastInterval ≤ 300 ∧ 300 ≤ greatestInterval := by decide
    exact ⟨usual, limits.1, limits.2, stale⟩
  · obtain ⟨hduration, least, greatest⟩ := duration_of_intervalOf hv
    exact ⟨seconds_of_duration hduration, least, greatest, stale⟩

/-- Accepted settings let some time pass before a record is stale. -/
theorem staleAfterSeconds_pos (accepted : ofValue v = .ok s) : 0 < s.staleAfterSeconds :=
  Duration.seconds_pos (sound_of_ofValue accepted).staleAfter

end Courier.SweeperSettings
