import Courier.Proofs.Preference.Rereading
import Courier.Proofs.Text.Decimal

/-!
# Times of quiet hours

Quiet hours have two times, and a text is taken for either of them exactly if an hour and a minute
of the day can be read off it (`QuietHours.Edge.takes_iff`, `QuietHours.Edge.refuses_iff`). That is
the case for every text in the usual form (`QuietHours.IsTime`), but not for these alone: the last
digit of either pair may be of any script, and a line end may follow the last one
(`QuietHours.Reads`). The text is kept as it is.

Main statement: `QuietHours.times_taken_exactly`.
-/

namespace Courier.QuietHours

open Courier.Text

/-! ## Reading the time -/

/-- Four digits tell an hour and a minute of the day. The second and the fourth may be of any
script, the second only before eight in the evening. -/
structure Tells (hour minute : Nat) (a b c d : Char) : Prop where
  hour_lt : hour < 24
  minute_lt : minute < 60
  hour_eq : digitsValue [a, b] = hour
  minute_eq : digitsValue [c, d] = minute
  first : a.isDigit = true
  second : Text.isDigit b = true
  third : c.isDigit = true
  fourth : Text.isDigit d = true
  evening : 20 ≤ hour → b.isDigit = true

/-- An hour and a minute can be read off a text, perhaps with a line end after them. -/
def Reads (s : String) (hour minute : Nat) : Prop := ∃ a b c d,
  (s.toList = [a, b, ':', c, d] ∨ s.toList = [a, b, ':', c, d, '\n']) ∧ Tells hour minute a b c d

/-- The text for an hour and a minute. -/
def timeText (hour minute : Nat) : String := Date.padded 2 hour ++ ":" ++ Date.padded 2 minute

/-- A text is in the usual form for a minute of the day. -/
def IsTime (s : String) : Prop := ∃ hour < 24, ∃ minute < 60, s = timeText hour minute

/-- The first two digits of a time. -/
theorem hour_iff {a b : Char} :
    ((a == '0' || a == '1') && Text.isDigit b || a == '2' && '0' ≤ b && b ≤ '3') = true ↔
      a.isDigit = true ∧ Text.isDigit b = true ∧ digitsValue [a, b] < 24 ∧
        (20 ≤ digitsValue [a, b] → b.isDigit = true) := by
  simp only [Bool.or_eq_true, Bool.and_eq_true, beq_iff_eq, decide_eq_true_eq]
  constructor
  · rintro (⟨early, digit⟩ | ⟨⟨rfl, low⟩, high⟩)
    · have first : a.isDigit = true ∧ a.toNat ≤ 49 := by
        rcases early with rfl | rfl <;> decide
      have := digitValue?_getD_lt b
      rw [digitsValue_pair first.1]
      exact ⟨first.1, digit, by omega, by omega⟩
    · have bounds : 48 ≤ b.toNat ∧ b.toNat ≤ 51 :=
        ⟨UInt32.le_iff_toNat_le.mp low, UInt32.le_iff_toNat_le.mp high⟩
      have digit := isDigit_of_toNat_bounds bounds.1 (by omega)
      have first : ('2' : Char).toNat = 50 := rfl
      rw [digitsValue_pair rfl, digitValue?_getD digit, first]
      exact ⟨rfl, isDigit_of_ascii_digit digit, by omega, fun _ => digit⟩
  · rintro ⟨first, digit, small, evening⟩
    have bounds := toNat_bounds first
    rw [digitsValue_pair first] at small evening
    rcases Nat.lt_or_ge a.toNat 50 with early | late
    · have : a.toNat = 48 ∨ a.toNat = 49 := by omega
      exact .inl ⟨this.imp Char.toNat_inj.mp Char.toNat_inj.mp, digit⟩
    · have two : a.toNat = 50 := by omega
      have second := evening (by omega)
      have range := toNat_bounds second
      rw [digitValue?_getD second] at small
      refine .inr ⟨⟨Char.toNat_inj.mp two, UInt32.le_iff_toNat_le.mpr range.1⟩,
        UInt32.le_iff_toNat_le.mpr ?_⟩
      change b.toNat ≤ 51
      omega

/-- The last two digits of a time. -/
theorem minute_iff {c d : Char} : (('0' ≤ c && c ≤ '5') && Text.isDigit d) = true ↔
    c.isDigit = true ∧ Text.isDigit d = true ∧ digitsValue [c, d] < 60 := by
  have five : ('5' : Char).val.toNat = 53 := rfl
  simp only [Bool.and_eq_true, decide_eq_true_eq, Char.le_def, UInt32.le_iff_toNat_le, five]
  constructor
  · rintro ⟨⟨low, high⟩, digit⟩
    have third := isDigit_of_toNat_bounds low (Nat.le_trans high (by decide))
    have := digitValue?_getD_lt d
    have : c.toNat ≤ 53 := high
    refine ⟨third, digit, ?_⟩
    rw [digitsValue_pair third]
    omega
  · rintro ⟨third, digit, small⟩
    have bounds := toNat_bounds third
    rw [digitsValue_pair third] at small
    have high : c.toNat ≤ 53 := by omega
    exact ⟨⟨bounds.1, high⟩, digit⟩

/-- Five characters are a clock if an hour and a minute can be read off them. -/
theorem isClock_five_iff {a b c d : Char} :
    isClock [a, b, ':', c, d] = true ↔ ∃ hour minute, Tells hour minute a b c d := by
  have pairs : isClock [a, b, ':', c, d] =
      (((a == '0' || a == '1') && Text.isDigit b || a == '2' && '0' ≤ b && b ≤ '3') &&
        (('0' ≤ c && c ≤ '5') && Text.isDigit d)) := by
    simp only [isClock, Bool.and_assoc]
  rw [pairs, Bool.and_eq_true, hour_iff, minute_iff]
  constructor
  · rintro ⟨⟨first, second, hour, evening⟩, third, fourth, minute⟩
    exact ⟨_, _, hour, minute, rfl, rfl, first, second, third, fourth, evening⟩
  · rintro ⟨_, _, hour, minute, rfl, rfl, first, second, third, fourth, evening⟩
    exact ⟨⟨first, second, hour, evening⟩, third, fourth, minute⟩

theorem exists_of_isClock {cs : List Char} (h : isClock cs = true) :
    ∃ a b c d, cs = [a, b, ':', c, d] := by
  unfold isClock at h
  split at h
  · exact ⟨_, _, _, _, rfl⟩
  · cases h

/-- A text is a clock without a last line end exactly if the time can be read off it. -/
theorem isClock_bare_iff {s : String} :
    isClock (Text.withoutLineEnd s.toList) = true ↔
      ∃ hour minute, Reads s hour minute := by
  constructor
  · intro h
    obtain ⟨a, b, c, d, hcs⟩ := exists_of_isClock h
    rw [hcs] at h
    obtain ⟨hour, minute, tells⟩ := isClock_five_iff.mp h
    refine ⟨hour, minute, a, b, c, d, ?_, tells⟩
    unfold Text.withoutLineEnd at hcs
    split at hcs
    · rename_i last
      have ended := List.dropLast_append_getLast? '\n' (by simpa using last)
      rw [hcs] at ended
      exact .inr ended.symm
    · exact .inl hcs
  · rintro ⟨hour, minute, a, b, c, d, hs, tells⟩
    have clock := isClock_five_iff.mpr ⟨hour, minute, tells⟩
    rcases hs with hs | hs
    · have : d ≠ '\n' := by
        rintro rfl
        exact absurd tells.fourth (by decide)
      simpa [Text.withoutLineEnd, hs, this] using clock
    · simpa [Text.withoutLineEnd, hs] using clock

/-! ## Taking a text for a time -/

theorem clock_of_reads {s : String} (h : ∃ hour minute, Reads s hour minute) :
    clock (.text s) = .ok s :=
  if_pos (isClock_bare_iff.mpr h)

theorem clock_of_not_reads {s : String} (h : ¬∃ hour minute, Reads s hour minute) :
    clock (.text s) = .problem (.notAClock s) :=
  if_neg fun clock => h (isClock_bare_iff.mp clock)

/-- The two times of quiet hours. -/
inductive Edge where
  | start
  | stop

namespace Edge

/-- The field for a time. -/
def field : Edge → String
  | start => "start"
  | stop => "end"

/-- The time where none is given. -/
def default : Edge → String
  | start => "22:00"
  | stop => "08:00"

/-- The hours with one of the times set. -/
def set (q : QuietHours) (s : String) : Edge → QuietHours
  | start => { q with start := s }
  | stop => { q with stop := s }

/-- A text is taken for a time: it may be put into any form that describes hours, and is kept as it
is. -/
def Takes (edge : Edge) (s : String) : Prop := ∀ (form : Bag) (q : QuietHours),
  ofValue (.dict form) = .ok q →
    ofValue (.dict (form.put (.text edge.field) (.text s))) = .ok (edge.set q s)

/-- A text is refused for a time: no form has it without an issue there that names it. -/
def Refuses (edge : Edge) (s : String) : Prop := ∀ form : Bag, ∃ issues,
  ofValue (.dict (form.put (.text edge.field) (.text s))) = .wrong issues ∧
    ⟨[edge.field], .notAClock s⟩ ∈ issues

variable {edge : Edge} {s : String}

theorem field_put {α : Type} (name : String) (other : name ≠ edge.field) (form : Bag) (v : Value)
    (default : α) (check : Value → Checked α) :
    Form.field (form.put (.text edge.field) v) name default check =
      Form.field form name default check := by
  rw [Form.field, Form.field, Bag.getText?_put_of_ne other]

theorem field_put_self (edge : Edge) (form : Bag) (s : String) :
    Form.field (form.put (.text edge.field) (.text s)) edge.field edge.default clock =
      (clock (.text s)).within edge.field :=
  Form.field_of_getText? (Bag.getText?_put_self form edge.field (.text s))

theorem takes_of_reads (h : ∃ hour minute, Reads s hour minute) : edge.Takes s := by
  intro form q hq
  obtain ⟨enabled, start, stop⟩ := ofValue_dict_eq_ok_iff.mp hq
  have given := edge.field_put_self form s
  rw [clock_of_reads h, Checked.within_ok] at given
  refine ofValue_dict_eq_ok_iff.mpr ?_
  cases edge with
  | start =>
    rw [field_put "enabled" (by decide), field_put "end" (by decide)]
    exact ⟨enabled, given, stop⟩
  | stop =>
    rw [field_put "enabled" (by decide), field_put "start" (by decide)]
    exact ⟨enabled, start, given⟩

theorem refuses_of_not_reads (h : ¬∃ hour minute, Reads s hour minute) : edge.Refuses s := by
  intro form
  have given := edge.field_put_self form s
  rw [clock_of_not_reads h] at given
  rw [ofValue_dict]
  -- the issues of the other two fields stand beside this one, whatever they are
  generalize form.put (.text edge.field) (.text s) = form at given ⊢
  cases edge with
  | start =>
    change Form.field form "start" "22:00" clock = .wrong [⟨["start"], .notAClock s⟩] at given
    rw [given]
    cases Form.field form "enabled" false Form.boolean <;>
      cases Form.field form "end" "08:00" clock <;> exact ⟨_, rfl, by simp [Edge.field]⟩
  | stop =>
    change Form.field form "end" "08:00" clock = .wrong [⟨["end"], .notAClock s⟩] at given
    rw [given]
    cases Form.field form "enabled" false Form.boolean <;>
      cases Form.field form "start" "22:00" clock <;> exact ⟨_, rfl, by simp [Edge.field]⟩

theorem not_takes_of_refuses (h : edge.Refuses s) : ¬edge.Takes s := by
  intro taken
  obtain ⟨issues, refused, -⟩ := h []
  have accepted := taken [] {} rfl
  rw [refused] at accepted
  cases accepted

theorem takes_iff : edge.Takes s ↔ ∃ hour minute, Reads s hour minute :=
  ⟨fun h => by_contra fun other => not_takes_of_refuses (refuses_of_not_reads other) h,
    takes_of_reads⟩

theorem refuses_iff : edge.Refuses s ↔ ¬∃ hour minute, Reads s hour minute :=
  ⟨fun h reads => not_takes_of_refuses h (takes_of_reads reads), refuses_of_not_reads⟩

end Edge

/-! ## The usual form -/

/-- The time is read off in one way. -/
theorem Reads.unique {s : String} {hour minute hour' minute' : Nat} (h : Reads s hour minute)
    (h' : Reads s hour' minute') : hour = hour' ∧ minute = minute' := by
  obtain ⟨a, b, c, d, hs, tells⟩ := h
  obtain ⟨a', b', c', d', hs', tells'⟩ := h'
  have same : a = a' ∧ b = b' ∧ c = c' ∧ d = d' := by
    rcases hs with hs | hs <;> rcases hs' with hs' | hs' <;> simp_all
  obtain ⟨rfl, rfl, rfl, rfl⟩ := same
  exact ⟨tells.hour_eq.symm.trans tells'.hour_eq, tells.minute_eq.symm.trans tells'.minute_eq⟩

theorem toList_timeText (hour minute : Nat) : (timeText hour minute).toList =
    (Date.padded 2 hour).toList ++ ':' :: (Date.padded 2 minute).toList := by
  simp [timeText]

/-- The usual form is that of five ASCII characters off which the time can be read. -/
theorem isTime_iff {s : String} : IsTime s ↔ (∃ hour minute, Reads s hour minute) ∧
    s.length = 5 ∧ ∀ c ∈ s.toList, c.toNat < 128 := by
  constructor
  · rintro ⟨hour, hhour, minute, hminute, rfl⟩
    obtain ⟨a, b, hab, first, second, hour_eq⟩ := Date.exists_padded_two (n := hour) (by omega)
    obtain ⟨c, d, hcd, third, fourth, minute_eq⟩ := Date.exists_padded_two (n := minute) (by omega)
    have text : (timeText hour minute).toList = [a, b, ':', c, d] := by
      rw [toList_timeText, hab, hcd]
      rfl
    have tells : Tells hour minute a b c d := ⟨hhour, hminute, hour_eq, minute_eq, first,
      isDigit_of_ascii_digit second, third, isDigit_of_ascii_digit fourth, fun _ => second⟩
    have ascii : ∀ e : Char, e.isDigit = true → e.toNat < 128 := fun e he => by
      have := toNat_bounds he
      omega
    refine ⟨⟨hour, minute, a, b, c, d, .inl text, tells⟩, ?_, ?_⟩
    · rw [← String.length_toList, text]
      rfl
    · rw [text]
      simp only [List.forall_mem_cons]
      exact ⟨ascii a first, ascii b second, by decide, ascii c third, ascii d fourth, nofun⟩
  · rintro ⟨⟨hour, minute, a, b, c, d, hs, tells⟩, five, ascii⟩
    have text : s.toList = [a, b, ':', c, d] := by
      refine hs.resolve_right fun ended => ?_
      rw [← String.length_toList, ended] at five
      cases five
    simp only [text, List.forall_mem_cons] at ascii
    obtain ⟨-, hb, -, -, hd, -⟩ := ascii
    have second : b.isDigit = true := isDigit_eq_of_ascii hb ▸ tells.second
    have fourth : d.isDigit = true := isDigit_eq_of_ascii hd ▸ tells.fourth
    refine ⟨hour, tells.hour_lt, minute, tells.minute_lt, ?_⟩
    rw [← String.toList_inj, toList_timeText, text, ← tells.hour_eq, ← tells.minute_eq,
      Date.toList_padded_digitsValue tells.first second,
      Date.toList_padded_digitsValue tells.third fourth]
    rfl

/-- A text is taken for either time of quiet hours exactly if an hour and a minute can be read off
it, and there is one way to read them; any other is refused by name. These texts are the ones in the
usual form as long as what is taken has five characters and all of them are ASCII. -/
theorem times_taken_exactly (edge : Edge) (s : String) :
    (edge.Takes s ↔ ∃ hour minute, Reads s hour minute) ∧
    (edge.Refuses s ↔ ¬∃ hour minute, Reads s hour minute) ∧
    (∀ hour minute hour' minute', Reads s hour minute → Reads s hour' minute' →
      hour = hour' ∧ minute = minute') ∧
    ((edge.Takes s ↔ IsTime s) ↔
      (edge.Takes s → s.length = 5 ∧ ∀ c ∈ s.toList, c.toNat < 128)) := by
  refine ⟨Edge.takes_iff, Edge.refuses_iff, fun _ _ _ _ => Reads.unique, ?_⟩
  rw [isTime_iff, ← edge.takes_iff, iff_self_and]

/-- A line end after the time does not keep it from being taken, nor does a digit of another script,
and neither text is in the usual form. -/
theorem unusual_times_taken :
    ofValue (.dict [(.text "enabled", .bool true), (.text "start", .text "07:30\n"),
        (.text "end", .text "08:00")]) = .ok ⟨true, "07:30\n", "08:00"⟩ ∧
      ¬IsTime "07:30\n" ∧
    ofValue (.dict [(.text "enabled", .bool true), (.text "start", .text "0५:30"),
        (.text "end", .text "08:00")]) = .ok ⟨true, "0५:30", "08:00"⟩ ∧
      ¬IsTime "0५:30" := by
  refine ⟨rfl, ?_, rfl, ?_⟩
  · rw [isTime_iff]
    rintro ⟨-, five, -⟩
    exact absurd five (by decide)
  · rw [isTime_iff]
    rintro ⟨-, -, ascii⟩
    exact absurd (ascii '५' (by decide)) (by decide)

end Courier.QuietHours
