import Courier.Proofs.Preference.Rereading
import Courier.Proofs.Preference.Shelf
import Courier.Proofs.Store.Agreement

/-!
# Preferences are replaced as a whole

Preferences are put into a store in turn, and a database may be closed and opened again in between.
Whatever was put, what the store answers about a recipient are the preferences put last for that
recipient, as a whole, and the list of all preferences has those of everybody (`RemembersLast`). A
store in memory and a store in a database both do so (`Store.preferences_last_put`), the database
although it checks what a row holds whenever it reads one.
-/

namespace Courier.Store

/-- What befalls the preferences of a store. -/
inductive Setting where
  | put (p : Preference)
  /-- The database is closed and opened again. -/
  | reopen

/-- The preferences that are put, in turn. -/
def puts (steps : List Setting) : List Preference :=
  steps.filterMap fun
    | .put p => some p
    | .reopen => none

/-- The store after a step. -/
def set (s : Store) : Setting → Store
  | .put p => (s.putPreference p).1
  | .reopen => s.reopened

/-- The store after steps in turn. -/
def setAll (s : Store) (steps : List Setting) : Store := steps.foldl set s

/-- What a store does with preferences that are put into it: it takes all of them, answers with the
last ones put for a recipient, and lists those of every recipient, once each. -/
structure RemembersLast (s : Store) (steps : List Setting) : Prop where
  takes : ∀ p, ((s.setAll steps).putPreference p).2.answer = .ok ()
  answers : ∀ recipient, ((s.setAll steps).preference? recipient).answer =
    .ok (Preference.lastOf recipient (puts steps))
  lists : ∃ ps, (s.setAll steps).allPreferences.answer = .ok ps ∧
    (ps.map Preference.recipient).Nodup ∧
      (∀ recipient, recipient ∈ ps.map Preference.recipient ↔
        ∃ p ∈ puts steps, p.recipient = recipient) ∧
      ∀ p ∈ ps, Preference.lastOf p.recipient (puts steps) = some p

/-! ## The shelf of a store -/

/-- Preferences put into a store in memory go to its shelf. -/
theorem setAll_memory (h : History) (shelf : Shelf) (steps : List Setting) :
    setAll ⟨.memory h shelf, {}⟩ steps = ⟨.memory h (shelf.putAll (puts steps)), {}⟩ := by
  induction steps generalizing shelf with
  | nil => rfl
  | cons step rest ih => cases step <;> exact ih _

/-- A store in a database, with the rows of the preferences on a shelf. -/
def shelved (rows : List Row) (shelf : Shelf) : Store :=
  ⟨.database ⟨some rows, some (shelf.map PreferenceRow.ofPreference)⟩, {}⟩

/-- Preferences put into a store in a database are written over the rows of its table. -/
theorem setAll_database (rows : List Row) (shelf : Shelf) (steps : List Setting) :
    (shelved rows shelf).setAll steps = shelved rows (shelf.putAll (puts steps)) := by
  induction steps generalizing shelf with
  | nil => rfl
  | cons step rest ih =>
    cases step with
    | put p =>
      have once : (shelved rows shelf).set (.put p) = shelved rows (shelf.put p) := by
        rw [shelved.eq_def rows (shelf.put p), ← PreferenceRow.put_map]
        rfl
      exact (congrArg (setAll · rest) once).trans (ih (shelf.put p))
    | reopen => exact ih shelf

/-- What a list says that holds what is on the shelf, in any order. -/
theorem lists_of_perm {ps listed : List Preference} (same : listed.Perm (Shelf.putAll [] ps)) :
    (listed.map Preference.recipient).Nodup ∧
      (∀ recipient, recipient ∈ listed.map Preference.recipient ↔
        ∃ p ∈ ps, p.recipient = recipient) ∧
      ∀ p ∈ listed, Preference.lastOf p.recipient ps = some p := by
  have distinct := Shelf.nodup_recipients_putAll ps
  have recipients : (listed.map Preference.recipient).Perm (Shelf.putAll [] ps).recipients :=
    same.map _
  refine ⟨recipients.nodup_iff.mpr distinct,
    fun recipient => recipients.mem_iff.trans Shelf.mem_recipients_putAll, fun p hp => ?_⟩
  rw [← Shelf.get?_putAll]
  exact (Shelf.mem_iff_get? distinct).mp (same.mem_iff.mp hp)

theorem remembersLast_inMemory (steps : List Setting) : RemembersLast inMemory steps := by
  have held : inMemory.setAll steps = ⟨.memory {} (Shelf.putAll [] (puts steps)), {}⟩ :=
    setAll_memory {} [] steps
  refine ⟨fun p => ?_, fun recipient => ?_, Shelf.putAll [] (puts steps), ?_,
    lists_of_perm (.refl _)⟩
  · rw [held]
    rfl
  · rw [held, ← Shelf.get?_putAll]
    rfl
  · rw [held]
    rfl

/-! ## The table of a database -/

section Table

variable {ps : List Preference}
  (read : ∀ p ∈ ps, (PreferenceRow.ofPreference p).toPreference = .ok p) (rows : List Row)

include read

/-- What a database finds for a recipient is what was put there last. -/
theorem preference?_putAll (recipient : String) :
    Database.preference? ⟨some rows, some ((Shelf.putAll [] ps).map PreferenceRow.ofPreference)⟩
      recipient = .ok (Preference.lastOf recipient ps) := by
  simp only [Database.preference?, Database.preferenceRows, bind, Except.bind,
    PreferenceRow.find?_map, Shelf.get?_putAll]
  cases hlast : Preference.lastOf recipient ps with
  | none => rfl
  | some p =>
    simp only [Option.map_some, read p (Preference.mem_of_lastOf hlast)]
    rfl

/-- A database lists what is on its shelf, sorted. -/
theorem allPreferences_putAll : ∃ listed,
    Database.allPreferences
        ⟨some rows, some ((Shelf.putAll [] ps).map PreferenceRow.ofPreference)⟩ = .ok listed ∧
      listed.Perm (Shelf.putAll [] ps) := by
  have same := List.mergeSort_perm (Shelf.putAll [] ps)
    fun p q => decide (p.recipient ≤ q.recipient)
  have sorted : ((Shelf.putAll [] ps).map PreferenceRow.ofPreference).mergeSort
      (fun a b => decide (a.recipient ≤ b.recipient)) =
      ((Shelf.putAll [] ps).mergeSort
        fun p q => decide (p.recipient ≤ q.recipient)).map PreferenceRow.ofPreference :=
    (List.map_mergeSort (f := PreferenceRow.ofPreference) fun _ _ _ _ => rfl).symm
  refine ⟨_, ?_, same⟩
  simp only [Database.allPreferences, Database.preferenceRows, bind, Except.bind, sorted]
  refine Matching.mapM_ok_iff.mpr (List.forall₂_map_left_iff.mpr
    (List.forall₂_same.mpr fun p hp => read p ?_))
  exact Preference.mem_of_lastOf ((lists_of_perm same).2.2 p hp)

end Table

theorem remembersLast_inDatabase {steps : List Setting}
    (accepted : ∀ p ∈ puts steps, p.IsAccepted) (stable : ∀ p ∈ puts steps, p.IsStable) :
    RemembersLast inDatabase steps := by
  have held : inDatabase.setAll steps = shelved [] (Shelf.putAll [] (puts steps)) :=
    setAll_database [] [] steps
  have read : ∀ p ∈ puts steps, (PreferenceRow.ofPreference p).toPreference = .ok p := fun p hp =>
    PreferenceRow.toPreference_eq_self (accepted p hp) (stable p hp)
  obtain ⟨listed, hlisted, same⟩ := allPreferences_putAll read []
  refine ⟨fun p => ?_, fun recipient => ?_, listed, ?_, lists_of_perm same⟩
  · rw [held]
    rfl
  · rw [held, preference?, shelved]
    simp only [preference?_putAll read, Errand.reply_ok, Reply.answer_quiet]
  · rw [held, allPreferences, shelved]
    simp only [hlisted, Errand.reply_ok, Reply.answer_quiet]

/-- Stores remember the preferences put last for everybody, as a whole: after preferences that were
accepted are put in any order, with the database opened again in between, both kinds of store
answer for a recipient with those put last for that recipient, whatever was put for others, and list
one set of preferences for everybody for whom any were put. Of a normal form of an address it is
assumed that it is its own normal form. -/
theorem preferences_last_put {steps : List Setting} (accepted : ∀ p ∈ puts steps, p.IsAccepted)
    (stable : ∀ p ∈ puts steps, p.IsStable) :
    RemembersLast inMemory steps ∧ RemembersLast inDatabase steps ∧
      ∀ recipient, ((inDatabase.setAll steps).preference? recipient).answer =
        ((inMemory.setAll steps).preference? recipient).answer := by
  have memory := remembersLast_inMemory steps
  have database := remembersLast_inDatabase accepted stable
  refine ⟨memory, database, fun recipient => ?_⟩
  rw [database.answers, memory.answers]

/-- Preferences of somebody who wants everything, with hours of rest. -/
def ada : Preference where
  recipient := "student-42"
  address := "ada@example.com"
  switches := [("interview_reminder", false)]
  frequency := .weekly
  quietHours := { enabled := true, start := "21:30" }

/-- Preferences of the same person, later. -/
def laterAda : Preference := { recipient := "student-42", address := "ada@example.org" }

/-- Preferences of somebody else. -/
def bob : Preference where
  recipient := "student-7"
  address := "bob@example.com"
  enabled := false

/-- Two sets of preferences for one person, with those of another in between. -/
def adaTwice : List Setting := [.put ada, .put bob, .reopen, .put laterAda]

theorem preferences_last_put_adaTwice :
    RemembersLast inMemory adaTwice ∧ RemembersLast inDatabase adaTwice ∧
      ∀ recipient, ((inDatabase.setAll adaTwice).preference? recipient).answer =
        ((inMemory.setAll adaTwice).preference? recipient).answer := by
  have forms : ∀ p ∈ puts adaTwice,
      (Preference.ofValue p.toJson.toValue).toOption = some p := by decide +kernel
  exact preferences_last_put (fun p hp => Preference.isAccepted_of_toOption (forms p hp))
    (by decide +kernel)

end Courier.Store
