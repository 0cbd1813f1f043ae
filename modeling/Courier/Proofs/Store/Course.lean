import Courier.Proofs.Store.Sweeping

/-!
# The course of a store

From empty, anything may happen to a store, in any order: it is asked something, preferences are kept
beside its records, it is closed and opened again, and failures begin to hinder it or cease to
(`Store.Event`). A store has gained the records that it has answered on being asked to append them.

Main statement: whatever has happened to a store, it keeps the records that it has gained, in that
order, each at the same or a later moment of its life (`Store.reached`).
-/

namespace Courier.Store

/-- What may happen to a store. -/
inductive Event where
  | ask (op : Operation)
  | prefer (p : Preference)
  /-- From now on these failures befall requests. -/
  | hinder (faults : Faults)

/-- The store after an event. -/
def next (s : Store) : Event → Store
  | .ask op => (s.perform op).1
  | .prefer p => (s.putPreference p).1
  | .hinder faults => { s with faults := faults }

/-- The store after events in turn. -/
def through (s : Store) (events : List Event) : Store := events.foldl next s

/-- The record that a store gains by an event, as the store keeps it. -/
def gains (s : Store) : Event → List Record
  | .ask (.append r) => (s.append r).2.answer.toOption.toList
  | _ => []

/-- The records that a store gains by events in turn. -/
def gained (s : Store) : List Event → List Record
  | [] => []
  | e :: rest => s.gains e ++ gained (s.next e) rest

variable {s start : Store} {h : History}

/-! ## What a store keeps -/

theorem keeps_of_empty (empty : start = inMemory ∨ start = inDatabase) : start.Keeps {} := by
  rcases empty with rfl | rfl
  · exact keeps_inMemory
  · exact keeps_inDatabase

/-- What an event makes of the history that a store keeps. -/
inductive Turns (s : Store) (h : History) : Event → History → Prop
  /-- Nothing is appended and nothing is moved. -/
  | same {e : Event} (gains : s.gains e = [])
      (moves : ∀ id m new, e = .ask (.move id m) → (s.move id m).2.answer ≠ .ok new) : Turns s h e h
  | append {r kept : Record} (answered : (s.append r).2.answer = .ok kept)
      (free : h.has kept.id = false) : Turns s h (.ask (.append r)) ⟨h.records ++ [kept]⟩
  | move {id : String} {m : Record.Move} {new : Record} {h' : History}
      (answered : (s.move id m).2.answer = .ok new) (moved : h.move id m = .ok (h', new)) :
      Turns s h (.ask (.move id m)) h'

namespace Keeps

theorem turns (k : s.Keeps h) (e : Event) : ∃ h', (s.next e).Keeps h' ∧ s.Turns h e h' := by
  cases e with
  | prefer p => exact ⟨h, k.putPreference p, .same rfl (by simp)⟩
  | hinder faults => exact ⟨h, k, .same rfl (by simp)⟩
  | ask op =>
    cases op with
    | append r =>
      cases ha : (s.append r).2.answer with
      | error f =>
        refine ⟨h, ?_, .same (by simp [gains, ha, Except.toOption]) (by simp)⟩
        rw [Store.next, Store.perform, append_error ha]
        exact k
      | ok kept =>
        obtain ⟨free, ⟨metadata, rfl⟩, k'⟩ := k.of_append ha
        exact ⟨_, k', .append ha free⟩
    | move id m =>
      cases hm : (s.move id m).2.answer with
      | error f =>
        refine ⟨h, ?_, .same rfl ?_⟩
        · rw [Store.next, Store.perform, move_error hm]
          exact k
        · rintro _ _ _ ⟨⟩
          simp [hm]
      | ok new =>
        obtain ⟨h', hmove, k'⟩ := k.of_move hm
        exact ⟨h', k', .move hm hmove⟩
    | reopen => exact ⟨h, k.reopened, .same rfl (by simp)⟩
    | find id => exact ⟨h, k, .same rfl (by simp)⟩
    | query recipient limit => exact ⟨h, k, .same rfl (by simp)⟩
    | all recipient => exact ⟨h, k, .same rfl (by simp)⟩

/-- Whatever happens, no record is lost or leaves its place. -/
theorem next (k : s.Keeps h) (d : h.Distinct) (e : Event) : ∃ h' : History,
    (s.next e).Keeps h' ∧ h'.Distinct ∧
      List.Forall₂ Record.Later (h.records ++ s.gains e) h'.records := by
  obtain ⟨h', k', turns⟩ := k.turns e
  cases turns with
  | same gains =>
    refine ⟨h, k', d, ?_⟩
    rw [gains, List.append_nil]
    exact List.forall₂_same.mpr fun r _ => Record.Later.refl r
  | append answered free =>
    refine ⟨_, k', d.append (History.append_ok_iff.mpr ⟨free, rfl⟩), ?_⟩
    rw [gains, answered]
    exact List.forall₂_same.mpr fun r _ => Record.Later.refl r
  | move answered moved =>
    refine ⟨h', k', d.move moved, ?_⟩
    show List.Forall₂ Record.Later (h.records ++ []) h'.records
    rw [List.append_nil]
    exact History.forall₂_later_of_move d moved

theorem through : ∀ {s : Store} {h : History}, s.Keeps h → h.Distinct → ∀ events : List Event,
    ∃ h' : History, (s.through events).Keeps h' ∧ h'.Distinct ∧
      List.Forall₂ Record.Later (h.records ++ s.gained events) h'.records
  | s, h, k, d, [] =>
    ⟨h, k, d, by
      rw [gained, List.append_nil]
      exact List.forall₂_same.mpr fun r _ => Record.Later.refl r⟩
  | s, h, k, d, e :: rest => by
    obtain ⟨h₁, k₁, d₁, first⟩ := k.next d e
    obtain ⟨h₂, k₂, d₂, second⟩ := Keeps.through k₁ d₁ rest
    refine ⟨h₂, k₂, d₂, ?_⟩
    have gained : List.Forall₂ Record.Later ((s.next e).gained rest) ((s.next e).gained rest) :=
      List.forall₂_same.mpr fun r _ => Record.Later.refl r
    rw [Store.gained, ← List.append_assoc]
    exact Matching.trans (List.rel_append first gained) second fun _ _ _ => Record.Later.trans

/-! ## Records that are kept as they were given -/

/-- A store that nothing hinders keeps a record without metadata as it was given. -/
theorem append_ok (k : s.Keeps h) (working : s.faults.append = none) {r : Record}
    (free : h.has r.id = false) (c : r.Consistent) (d : r.Datable) (bare : r.metadata = []) :
    (s.append r).2.answer = .ok r ∧ (s.append r).1.Keeps ⟨h.records ++ [r]⟩ := by
  obtain ⟨backing, faults⟩ := s
  cases backing with
  | memory h₀ p =>
    obtain rfl : h₀ = h := k
    rw [append_memory_ok working (History.append_ok_iff.mpr ⟨free, rfl⟩)]
    exact ⟨rfl, rfl⟩
  | database db =>
    have hms : Record.metadataJson? r.metadata = .ok [] := by
      rw [bare]
      rfl
    have same : r.documented [] = r := by
      rw [Record.documented, show Record.fromDocument [] = [] from rfl, ← bare]
    obtain ⟨db', happend, k'⟩ := Database.Keeps.append_of_datable k free c d hms rfl
    rw [same] at happend k'
    rw [append_database_ok working happend]
    exact ⟨rfl, k'⟩

/-- A store that nothing hinders keeps new attempts in the order in which they were appended. -/
theorem through_appends : ∀ {s : Store} {h : History}, s.Keeps h → s.faults.append = none →
    ∀ records : List Record, (∀ r ∈ records, r.Consistent ∧ r.Datable ∧ r.metadata = []) →
      ((h.records ++ records).map Record.id).Nodup →
        (s.through (records.map fun r => .ask (.append r))).Keeps ⟨h.records ++ records⟩
  | s, h, k, _, [], _, _ => by
    rw [List.append_nil]
    exact k
  | s, h, k, working, r :: rest, usual, own => by
    obtain ⟨⟨c, d, bare⟩, others⟩ := List.forall_mem_cons.mp usual
    rw [List.append_cons] at own ⊢
    have free : h.has r.id = false := by
      rw [List.append_assoc, List.map_append, List.nodup_append] at own
      rw [← Bool.not_eq_true, History.has_iff]
      rintro ⟨x, hx, same⟩
      exact own.2.2 _ (List.mem_map_of_mem hx) r.id (by simp) same
    obtain ⟨_, k₁⟩ := k.append_ok working free c d bare
    have working₁ : (s.append r).1.faults.append = none := by rw [faults_append, working]
    exact through_appends k₁ working₁ rest others own

end Keeps

/-- An empty store keeps the new attempts that are appended to it. -/
theorem keeps_of_appends (empty : start = inMemory ∨ start = inDatabase) {records : List Record}
    (usual : ∀ r ∈ records, r.Consistent ∧ r.Datable ∧ r.metadata = [])
    (own : (records.map Record.id).Nodup) :
    (start.through (records.map fun r => .ask (.append r))).Keeps ⟨records⟩ := by
  have working : start.faults.append = none := by rcases empty with rfl | rfl <;> rfl
  exact (keeps_of_empty empty).through_appends working records usual own

/-- Whatever has happened to a store from empty, it keeps the records that it has gained, in that
order, each at the same or a later moment of its life. -/
theorem reached (empty : start = inMemory ∨ start = inDatabase) (events : List Event) :
    ∃ h : History, (start.through events).Keeps h ∧ h.Distinct ∧
      List.Forall₂ Record.Later (start.gained events) h.records :=
  (keeps_of_empty empty).through List.nodup_nil events

end Courier.Store
