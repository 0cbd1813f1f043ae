import Courier.Proofs.Record.Times
import Courier.Proofs.Store.Course

/-!
# The times of records in a store

A record is appended as a new attempt, and whatever happens to the store afterwards, with whatever
times requests come, its times fit its status (`Record.Timed`). A request may confirm it as delivered
at a moment before it was sent, which the store does not refuse (`Store.ConfirmsEarly`). Exactly then
the last change goes back, and exactly from then on the times are out of order.

Main statement: `Store.times_unless_confirmed_early`.
-/

namespace Courier.Store

/-- An event confirms a record early: it is a request to do so, and the store answers it. -/
def ConfirmsEarly (s : Store) (id : String) (e : Event) : Prop :=
  ∃ m x x', e = .ask (.move id m) ∧ (s.find? id).answer = .ok (some x) ∧ x.ConfirmedEarly m ∧
    (s.move id m).2.answer = .ok x'

/-- None of the events in turn confirms a record early. -/
def NeverConfirmsEarly (s : Store) (id : String) : List Event → Prop
  | [] => True
  | e :: rest => ¬s.ConfirmsEarly id e ∧ NeverConfirmsEarly (s.next e) id rest

/-- What an event makes of the times of a record. -/
structure Passes (s : Store) (id : String) (e : Event) (x x' : Record) : Prop where
  timed : x'.Timed
  createdAt : x'.createdAt = x.createdAt
  inOrder_iff : x'.InOrder ↔ x.InOrder ∧ ¬s.ConfirmsEarly id e
  back_iff : x'.updatedAt < x.updatedAt ↔ s.ConfirmsEarly id e

variable {s start : Store} {h : History} {id : String} {x : Record}

/-- A record that an event leaves alone. -/
theorem Passes.same {e : Event} (timed : x.Timed) (not : ¬s.ConfirmsEarly id e) :
    s.Passes id e x x where
  timed := timed
  createdAt := rfl
  inOrder_iff := (and_iff_left not).symm
  back_iff := iff_of_false (Nat.lt_irrefl _) not

/-- Only an answered request to move the record confirms it. -/
theorem not_confirmsEarly {e : Event}
    (unmoved : ∀ m new, e = .ask (.move id m) → (s.move id m).2.answer ≠ .ok new) :
    ¬s.ConfirmsEarly id e := fun ⟨m, _, new, he, _, _, answered⟩ => unmoved m new he answered

namespace Keeps

/-- An answered request confirms the record that is found. -/
theorem confirmsEarly_iff {m : Record.Move} {new : Record} (k : s.Keeps h)
    (hfind : h.find? id = some x) (answered : (s.move id m).2.answer = .ok new) :
    s.ConfirmsEarly id (.ask (.move id m)) ↔ x.ConfirmedEarly m := by
  constructor
  · rintro ⟨_, y, _, ⟨⟩, hy, early, _⟩
    obtain rfl : x = y := by simpa [k.find?, hfind] using hy
    exact early
  · exact fun early => ⟨m, x, new, rfl, by rw [k.find?, hfind], early, answered⟩

/-- What an event makes of the times of a record. -/
theorem passes (k : s.Keeps h) (hfind : h.find? id = some x) (timed : x.Timed) (e : Event) :
    ∃ h' x', (s.next e).Keeps h' ∧ h'.find? id = some x' ∧ s.Passes id e x x' := by
  obtain ⟨h', k', turns⟩ := k.turns e
  cases turns with
  | same _ moves => exact ⟨h, x, k', hfind, .same timed (not_confirmsEarly (moves id))⟩
  | append answered free =>
    exact ⟨_, x, k', History.find?_append_of_some hfind, .same timed (not_confirmsEarly (by simp))⟩
  | @move id' m new _ answered moved =>
    by_cases hid : id' = id
    · subst hid
      obtain ⟨_, hfind₀, hafter, _⟩ := History.of_move moved
      obtain rfl := Option.some.inj (hfind.symm.trans hfind₀)
      obtain ⟨timed', inOrder, back⟩ := timed.after hafter
      rw [← k.confirmsEarly_iff hfind answered] at inOrder back
      exact ⟨h', new, k', History.find?_of_move moved, timed',
        (Record.later_of_after hafter).createdAt, inOrder, back⟩
    · have hfind' := (History.find?_of_move_of_ne moved hid).trans hfind
      exact ⟨h', x, k', hfind', .same timed (not_confirmsEarly (by simp [hid]))⟩

/-- The times of a record stay in order until it is confirmed early. -/
theorem through_times : ∀ {s : Store} {h : History} {x : Record}, s.Keeps h →
    h.find? id = some x → x.Timed → ∀ events : List Event,
      ∃ h' x', (s.through events).Keeps h' ∧ h'.find? id = some x' ∧ x'.Timed ∧
        x'.createdAt = x.createdAt ∧ (x'.InOrder ↔ x.InOrder ∧ s.NeverConfirmsEarly id events)
  | s, h, x, k, hfind, timed, [] => ⟨h, x, k, hfind, timed, rfl, (and_iff_left trivial).symm⟩
  | s, h, x, k, hfind, timed, e :: rest => by
    obtain ⟨h₁, x₁, k₁, hfind₁, p⟩ := k.passes hfind timed e
    obtain ⟨h₂, x₂, k₂, hfind₂, timed₂, created₂, inOrder₂⟩ :=
      through_times k₁ hfind₁ p.timed rest
    refine ⟨h₂, x₂, k₂, hfind₂, timed₂, created₂.trans p.createdAt, ?_⟩
    rw [inOrder₂, p.inOrder_iff, and_assoc, NeverConfirmsEarly]

end Keeps

/-- Whatever has happened to a store from empty, in memory or in a database, a record is appended
that is pending and was not changed since its creation, and then anything may happen at any times:
the times of the record fit its status and none comes before its creation. They are in order exactly
if the record was not confirmed early so far, and its last change goes back exactly with what
confirms it early. -/
theorem times_unless_confirmed_early (empty : start = inMemory ∨ start = inDatabase)
    (earlier later : List Event) {r kept : Record} (c : r.Consistent) (pending : r.status = .pending)
    (unchanged : r.updatedAt = r.createdAt)
    (appended : ((start.through earlier).append r).2.answer = .ok kept) :
    let made := (start.through earlier).next (.ask (.append r))
    let s := made.through later
    ∃ x, (s.find? r.id).answer = .ok (some x) ∧ x.Timed ∧ x.createdAt = r.createdAt ∧
      (x.InOrder ↔ made.NeverConfirmsEarly r.id later) ∧
      ∀ e, ∃ x', ((s.next e).find? r.id).answer = .ok (some x') ∧
        (x'.updatedAt < x.updatedAt ↔ s.ConfirmsEarly r.id e) := by
  intro made s
  obtain ⟨h, k, _⟩ := reached empty earlier
  obtain ⟨free, ⟨metadata, rfl⟩, k₁⟩ := k.of_append appended
  have timed : Record.Timed { r with metadata := metadata } :=
    Record.timed_of_pending ⟨c.created_le_updated, c.sentAt_iff, c.error_iff, c.deliveredAt_iff⟩
      pending unchanged
  have hfind : History.find? ⟨h.records ++ [{ r with metadata := metadata }]⟩ r.id =
      some { r with metadata := metadata } :=
    @History.find?_append_new h { r with metadata := metadata } free
  obtain ⟨h', x, k', hfind', timed', created, inOrder⟩ := k₁.through_times hfind timed later
  refine ⟨x, (k'.find? r.id).trans (congrArg _ hfind'), timed', created, ?_, fun e => ?_⟩
  · rw [inOrder, and_iff_right (timed.inOrder_of_not_delivered (pending ▸ nofun))]
    rfl
  · obtain ⟨h'', x', k'', hfind'', p⟩ := k'.passes hfind' timed' e
    exact ⟨x', (k''.find? r.id).trans (congrArg _ hfind''), p.back_iff⟩

/-- A clock that steps back to before the creation does no harm: a record of ten that is sent and
confirmed at nine has been sent and delivered at ten. -/
theorem times_unless_confirmed_early_at_nine :
    let r := Record.fresh "n1" "ada" "offer-letter" ten
    let delivered := (r.moved .sent Record.morning none).moved .delivered Record.morning none
    let later := [Event.ask (.move "n1" ⟨"sent", .ofInstant Record.morning, none⟩),
      .ask (.move "n1" ⟨"delivered", .ofInstant Record.morning, none⟩)]
    let made := inMemory.next (.ask (.append r))
    made.NeverConfirmsEarly "n1" later ∧
      ((made.through later).find? "n1").answer = .ok (some delivered) ∧
      delivered.times = [ten, ten, ten, ten] := by
  intro r delivered later made
  have answer : ((made.through later).find? "n1").answer = .ok (some delivered) := rfl
  have times : delivered.times = [ten, ten, ten, ten] := rfl
  obtain ⟨x, found, _, _, inOrder, _⟩ := times_unless_confirmed_early (.inl rfl) [] later
    (Record.consistent_fresh "n1" "ada" "offer-letter" ten) rfl rfl rfl
  obtain rfl : delivered = x := Option.some.inj (Except.ok.inj (answer.symm.trans found))
  refine ⟨inOrder.mp ?_, answer, times⟩
  rw [Record.InOrder, times]
  decide

/-- A record of nine is sent at eleven and confirmed as delivered at ten. Either kind of store takes
the confirmation: the last change goes back from eleven to ten, and the delivery comes before the
sending. -/
theorem delivered_before_sent :
    let r := Record.fresh "n1" "ada" "offer-letter" Record.morning
    let sent := r.moved .sent eleven none
    let delivered := sent.moved .delivered ten none
    let events := [Event.ask (.append r), .ask (.move "n1" ⟨"sent", .ofInstant eleven, none⟩)]
    let confirm := Event.ask (.move "n1" ⟨"delivered", .ofInstant ten, none⟩)
    let before := fun start : Store => (start.through events).find? "n1"
    let after := fun start : Store => ((start.through events).next confirm).find? "n1"
    r.Consistent ∧ r.status = .pending ∧ r.updatedAt = r.createdAt ∧
      (before inMemory).answer = .ok (some sent) ∧
      (after inMemory).answer = .ok (some delivered) ∧
      (before inDatabase).answer = .ok (some sent) ∧
      (after inDatabase).answer = .ok (some delivered) ∧
      delivered.updatedAt < sent.updatedAt ∧
      delivered.times = [Record.morning, eleven, ten, ten] ∧ ¬delivered.InOrder := by
  intro r sent delivered events confirm before after
  have times : delivered.times = [Record.morning, eleven, ten, ten] := rfl
  have disorder : ¬delivered.InOrder := by
    rw [Record.InOrder, times]
    decide
  have found : ∀ start, start = inMemory ∨ start = inDatabase →
      (before start).answer = .ok (some sent) ∧ (after start).answer = .ok (some delivered) := by
    intro start empty
    have usual : ∀ r' ∈ [r], r'.Consistent ∧ r'.Datable ∧ r'.metadata = [] :=
      List.forall_mem_singleton.mpr
        ⟨Record.consistent_fresh .., datable_fresh (by decide +kernel), rfl⟩
    have k₁ : (start.append r).1.Keeps ⟨[r]⟩ := keeps_of_appends empty usual (by simp)
    have working₁ : (start.append r).1.faults.move = none := by
      rw [faults_append]
      rcases empty with rfl | rfl <;> rfl
    have hsend : History.move ⟨[r]⟩ "n1" ⟨"sent", .ofInstant eleven, none⟩ =
        .ok (⟨[sent]⟩, sent) := rfl
    obtain ⟨_, k₂⟩ := k₁.move_ok working₁ hsend
    have hconfirm : History.move ⟨[sent]⟩ "n1" ⟨"delivered", .ofInstant ten, none⟩ =
        .ok (⟨[delivered]⟩, delivered) := rfl
    obtain ⟨_, k₃⟩ := k₂.move_ok (by rw [faults_move, working₁]) hconfirm
    exact ⟨k₂.find? "n1", k₃.find? "n1"⟩
  exact ⟨Record.consistent_fresh .., rfl, rfl, (found _ (.inl rfl)).1, (found _ (.inl rfl)).2,
    (found _ (.inr rfl)).1, (found _ (.inr rfl)).2, by decide, times, disorder⟩

end Courier.Store
