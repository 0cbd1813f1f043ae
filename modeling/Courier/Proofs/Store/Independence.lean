import Courier.Proofs.Store.Keeping
import Courier.Proofs.Store.Keyed

/-!
# Requests that do not get in each other's way

Appending a record adds a member to a list with keys, and moving a record is a step of one member,
in memory as well as in a database. So requests to move different records are independent
(`Store.independent_move_move`), and so are appending a record and moving one that is there already
(`Store.independent_append_move`). This holds of every store, whatever it holds and whatever hinders
it.
-/

namespace Courier

/-! ## Records and rows as members -/

/-- A move as a step of a record. -/
def Record.step (m : Record.Move) (r : Record) : Except Failure (Record × Record) :=
  (r.after m).map fun new => (new, new)

theorem Record.keepsKey_step (m : Record.Move) : Keyed.KeepsKey Record.id (Record.step m) := by
  intro r new b h
  unfold Record.step at h
  cases hafter : r.after m with
  | error f =>
    rw [hafter] at h
    cases h
  | ok r' =>
    rw [hafter] at h
    cases h
    exact Record.id_of_after hafter

/-- What two steps in turn answered, the second answered on what the first did. -/
theorem of_bind_ok {ε α β : Type} {x : Except ε α} {f : α → Except ε β} {b : β}
    (h : x >>= f = .ok b) : ∃ a, x = .ok a ∧ f a = .ok b := by
  cases x with
  | error e => cases h
  | ok a => exact ⟨a, rfl, h⟩

namespace Row

/-- The row of a new record, and the record that is read back from it. -/
def made (r : Record) : Except Failure (Row × Record) := do
  let row ← Row.ofRecord r
  let row ← Database.writable row
  let kept ← row.toRecord
  return (row, kept)

/-- A move as a step of a row. -/
def step (m : Record.Move) (row : Row) : Except Failure (Row × Record) := do
  let r ← row.toRecord
  let new ← r.after m
  let row ← Row.ofRecord new
  return (row, new)

theorem id_of_ofRecord {r : Record} {row : Row} (h : ofRecord r = .ok row) : row.id = r.id := by
  obtain ⟨ms, _, rfl⟩ := ofRecord_ok_iff.mp h
  rfl

theorem id_of_toRecord {row : Row} {r : Record} (h : row.toRecord = .ok r) : r.id = row.id := by
  obtain ⟨createdAt, _, h⟩ := of_bind_ok h
  obtain ⟨updatedAt, _, h⟩ := of_bind_ok h
  obtain ⟨sentAt, _, h⟩ := of_bind_ok h
  obtain ⟨deliveredAt, _, h⟩ := of_bind_ok h
  obtain ⟨priority, _, h⟩ := of_bind_ok h
  obtain ⟨status, _, h⟩ := of_bind_ok h
  obtain ⟨_, rfl⟩ := checked_ok_iff.mp h
  rfl

theorem id_of_made {r kept : Record} {row : Row} (h : made r = .ok (row, kept)) :
    row.id = r.id := by
  obtain ⟨row', hwritten, h⟩ := of_bind_ok h
  obtain ⟨row'', hwritable, h⟩ := of_bind_ok h
  obtain ⟨kept', _, h⟩ := of_bind_ok h
  cases h
  unfold Database.writable at hwritable
  split at hwritable
  · cases hwritable
    exact id_of_ofRecord hwritten
  · cases hwritable

theorem keepsKey_step (m : Record.Move) : Keyed.KeepsKey Row.id (step m) := by
  intro row new b h
  obtain ⟨r, hread, h⟩ := of_bind_ok h
  obtain ⟨r', hafter, h⟩ := of_bind_ok h
  obtain ⟨row', hwritten, h⟩ := of_bind_ok h
  cases h
  rw [id_of_ofRecord hwritten, Record.id_of_after hafter, id_of_toRecord hread]

end Row

/-! ## Requests as changes of a list -/

namespace Database

variable (preferences : Option (List PreferenceRow)) {rows : List Row}

theorem append_of_free {r : Record} (free : (rows.any fun row => row.id == r.id) = false) :
    append ⟨some rows, preferences⟩ r =
      (Row.made r).map fun a => (⟨some (rows ++ [a.1]), preferences⟩, a.2) := by
  simp only [append, Database.rows, bind, Except.bind, free]
  cases hrow : Row.ofRecord r with
  | error f => simp [Row.made, hrow, bind, Except.bind, Except.map]
  | ok row =>
    cases hwritable : writable row with
    | error f => simp [Row.made, insert, hrow, hwritable, bind, Except.bind, Except.map]
    | ok row' =>
      cases hread : row'.toRecord <;>
        simp [Row.made, insert, hrow, hwritable, hread, bind, Except.bind, pure, Except.pure,
          Except.map]

theorem move_eq_stepped (rows : List Row) (id : String) (m : Record.Move) :
    move ⟨some rows, preferences⟩ id m = (Keyed.stepped Row.id id (Row.step m) rows).map fun a =>
      (⟨some (Keyed.replaced Row.id rows a.1), preferences⟩, a.2) := by
  simp only [move, Database.rows, bind, Except.bind, Keyed.stepped]
  cases rows.find? fun row => row.id == id with
  | none => rfl
  | some row =>
    simp only [Row.step, bind, Except.bind]
    cases row.toRecord with
    | error f => rfl
    | ok r =>
      simp only
      cases r.after m with
      | error f => rfl
      | ok new =>
        simp only
        cases Row.ofRecord new <;> rfl

end Database

theorem History.move_eq_stepped (records : List Record) (id : String) (m : Record.Move) :
    History.move ⟨records⟩ id m = (Keyed.stepped Record.id id (Record.step m) records).map fun a =>
      (⟨Keyed.replaced Record.id records a.1⟩, a.2) := by
  unfold History.move History.find? Keyed.stepped
  cases records.find? fun r => r.id == id with
  | none => rfl
  | some r =>
    simp only [Record.step]
    cases r.after m <;> rfl

namespace Store

variable {s : Store} {r : Record} {id other : String} {m m' : Record.Move} {f : Failure}

/-- A record with an identifier is there. -/
def Has (s : Store) (id : String) : Prop :=
  match s.backing with
  | .memory h _ => h.has id = true
  | .database db => ∃ rows, db.records = some rows ∧ (rows.any fun row => row.id == id) = true

/-- A store of records in memory. -/
def ofRecords (faults : Faults) (p : Shelf) (records : List Record) : Store :=
  ⟨.memory ⟨records⟩ p, faults⟩

/-- A store of rows in a database. -/
def ofRows (faults : Faults) (preferences : Option (List PreferenceRow)) (rows : List Row) : Store :=
  ⟨.database ⟨some rows, preferences⟩, faults⟩

theorem append_of_fault (h : s.faults.append = some f) (r : Record) :
    s.append r = (s, .quiet (.error f)) := by
  simp [append, h]

theorem move_of_fault (h : s.faults.move = some f) (id : String) (m : Record.Move) :
    s.move id m = (s, .quiet (.error f)) := by
  simp [move, h]

section equations

variable {faults : Faults} {p : Shelf} {preferences : Option (List PreferenceRow)}

theorem append_memory (working : faults.append = none) (r : Record) (records : List Record) :
    append (ofRecords faults p records) r =
      (ofRecords faults p (Keyed.added Record.id r.id (.ok (r, r)) records).1,
        .quiet (Keyed.added Record.id r.id (.ok (r, r)) records).2) := by
  cases taken : records.any fun x => x.id == r.id with
  | true =>
    have happend : History.append ⟨records⟩ r = .error (.duplicate r.id) := by
      simp [History.append, History.has, taken]
    rw [ofRecords, append_memory_error working happend, Keyed.added_of_taken taken]
    rfl
  | false =>
    have happend : History.append ⟨records⟩ r = .ok ⟨records ++ [r]⟩ := by
      simp [History.append, History.has, taken]
    rw [ofRecords, append_memory_ok working happend, Keyed.added_of_ok taken]
    rfl

theorem append_database (working : faults.append = none) (r : Record) (rows : List Row) :
    append (ofRows faults preferences rows) r =
      (ofRows faults preferences (Keyed.added Row.id r.id (Row.made r) rows).1,
        Errand.appendReply r.id (Keyed.added Row.id r.id (Row.made r) rows).2) := by
  cases taken : rows.any fun x => x.id == r.id with
  | true =>
    have happend : Database.append ⟨some rows, preferences⟩ r = .error (.duplicate r.id) := by
      simp only [Database.append, Database.rows, bind, Except.bind, taken]
      rfl
    rw [ofRows, append_database_error working happend, Keyed.added_of_taken taken]
    rfl
  | false =>
    have happend := Database.append_of_free preferences taken
    cases hmade : Row.made r with
    | error f =>
      rw [hmade] at happend
      rw [ofRows, append_database_error working happend, Keyed.added_of_error taken]
      rfl
    | ok a =>
      obtain ⟨row, kept⟩ := a
      rw [hmade] at happend
      rw [ofRows, append_database_ok working happend, Keyed.added_of_ok taken]
      rfl

theorem move_memory (working : faults.move = none) (id : String) (m : Record.Move)
    (records : List Record) :
    move (ofRecords faults p records) id m =
      (ofRecords faults p (Keyed.changed Record.id id (Record.step m) records).1,
        .quiet (Keyed.changed Record.id id (Record.step m) records).2) := by
  have hmove := History.move_eq_stepped records id m
  cases hstep : Keyed.stepped Record.id id (Record.step m) records with
  | error f =>
    rw [hstep] at hmove
    rw [ofRecords, move_memory_error working hmove, Keyed.changed_of_error hstep]
    rfl
  | ok a =>
    rw [hstep] at hmove
    rw [ofRecords, move_memory_ok working hmove, Keyed.changed_of_ok hstep]
    rfl

theorem move_database (working : faults.move = none) (id : String) (m : Record.Move)
    (rows : List Row) :
    move (ofRows faults preferences rows) id m =
      (ofRows faults preferences (Keyed.changed Row.id id (Row.step m) rows).1,
        (Errand.move id).reply (Keyed.changed Row.id id (Row.step m) rows).2) := by
  have hmove := Database.move_eq_stepped preferences rows id m
  cases hstep : Keyed.stepped Row.id id (Row.step m) rows with
  | error f =>
    rw [hstep] at hmove
    rw [ofRows, move_database_error working hmove, Keyed.changed_of_error hstep]
    rfl
  | ok a =>
    rw [hstep] at hmove
    rw [ofRows, move_database_ok working hmove, Keyed.changed_of_ok hstep]
    rfl

theorem append_without_table (working : faults.append = none) (r : Record) :
    append ⟨.database ⟨none, preferences⟩, faults⟩ r =
      (⟨.database ⟨none, preferences⟩, faults⟩,
        Errand.appendReply r.id (.error (Database.noSuchTable "notifications"))) :=
  append_database_error working rfl

theorem move_without_table (working : faults.move = none) (id : String) (m : Record.Move) :
    move ⟨.database ⟨none, preferences⟩, faults⟩ id m =
      (⟨.database ⟨none, preferences⟩, faults⟩,
        (Errand.move id).reply (.error (Database.noSuchTable "notifications"))) :=
  move_database_error working rfl

end equations

/-! ## Independent requests -/

/-- A record that was appended was not there, and is there now like all the others. -/
theorem has_append_iff {kept : Record} (ha : (s.append r).2.answer = .ok kept) :
    ¬s.Has r.id ∧ ∀ id, (s.append r).1.Has id ↔ s.Has id ∨ r.id = id := by
  obtain ⟨backing, faults⟩ := s
  rcases appends_of_ok ha with ⟨before, ⟨happend, _⟩, after⟩ | ⟨before, happend, after⟩
  · subst before
    obtain ⟨free, rfl⟩ := History.append_ok_iff.mp happend
    rw [after]
    exact ⟨by simp [Has, free], by simp [Has, History.has]⟩
  · subst before
    obtain ⟨rows, row, hrows, free, hwritten, _, hdb⟩ := Database.of_append happend
    have hid := Row.id_of_ofRecord hwritten
    rw [after]
    refine ⟨?_, by simp [Has, hrows, hdb, hid]⟩
    rintro ⟨rows', hrows', hany⟩
    obtain rfl : rows = rows' := Option.some.inj (hrows.symm.trans hrows')
    rw [free] at hany
    cases hany

theorem Has.append (has : s.Has id) (r : Record) : (s.append r).1.Has id := by
  cases ha : (s.append r).2.answer with
  | error f =>
    rw [append_error ha]
    exact has
  | ok kept => exact ((has_append_iff ha).2 id).mpr (.inl has)

theorem Has.move (has : s.Has id) (other : String) (m : Record.Move) :
    (s.move other m).1.Has id := by
  cases hinder : s.faults.move with
  | some f =>
    rw [move_of_fault hinder]
    exact has
  | none =>
    obtain ⟨backing, faults⟩ := s
    cases backing with
    | memory h p =>
      have hmove : move ⟨.memory h p, faults⟩ other m = _ := move_memory hinder other m h.records
      rw [hmove]
      exact (Keyed.any_changed other id (Record.step m) h.records).trans has
    | database db =>
      obtain ⟨table, preferences⟩ := db
      obtain ⟨rows, htable, hany⟩ := has
      obtain rfl : table = some rows := htable
      have hmove : move ⟨.database ⟨some rows, preferences⟩, faults⟩ other m = _ :=
        move_database hinder other m rows
      rw [hmove]
      exact ⟨_, rfl, (Keyed.any_changed other id (Row.step m) rows).trans hany⟩

/-- Requests to move different records are independent. -/
theorem independent_move_move (hne : id ≠ other) (m m' : Record.Move) (s : Store) :
    Independent (fun s => s.move id m) (fun s => s.move other m') s := by
  cases hinder : s.faults.move with
  | some f =>
    have refused := move_of_fault hinder
    exact .of_diamond (refused id m) (refused other m') (refused other m') (refused id m)
  | none =>
    obtain ⟨backing, faults⟩ := s
    cases backing with
    | memory h p =>
      exact .lift (ofRecords faults p) (move_memory hinder id m)
        (move_memory hinder other m')
        (Keyed.independent_changed (Record.keepsKey_step m) (Record.keepsKey_step m') hne h.records)
    | database db =>
      obtain ⟨table, preferences⟩ := db
      cases table with
      | none =>
        have refused := @move_without_table faults preferences hinder
        exact .of_diamond (refused id m) (refused other m') (refused other m') (refused id m)
      | some rows =>
        exact .lift (ofRows faults preferences)
          (move_database hinder id m) (move_database hinder other m')
          (Keyed.independent_changed (Row.keepsKey_step m) (Row.keepsKey_step m') hne rows)

/-- Appending a record and moving one that is there already are independent. -/
theorem independent_append_move (has : s.Has id) (r : Record) (m : Record.Move) :
    Independent (fun s => s.append r) (fun s => s.move id m) s := by
  cases hinder : s.faults.append with
  | some f =>
    have hinder' : (s.move id m).1.faults.append = some f := by rw [faults_move, hinder]
    exact .of_diamond (append_of_fault hinder r) rfl rfl (append_of_fault hinder' r)
  | none =>
    cases hinder' : s.faults.move with
    | some f =>
      have hinder'' : (s.append r).1.faults.move = some f := by rw [faults_append, hinder']
      exact .of_diamond rfl (move_of_fault hinder' id m) (move_of_fault hinder'' id m) rfl
    | none =>
      obtain ⟨backing, faults⟩ := s
      cases backing with
      | memory h p =>
        refine .lift (ofRecords faults p) (append_memory hinder r)
          (move_memory hinder' id m)
          (Keyed.independent_added_changed ?_ (Record.keepsKey_step m) has)
        rintro new c ⟨⟩
        rfl
      | database db =>
        obtain ⟨table, preferences⟩ := db
        obtain ⟨rows, htable, hany⟩ := has
        obtain rfl : table = some rows := htable
        exact .lift (ofRows faults preferences)
          (append_database hinder r) (move_database hinder' id m)
          (Keyed.independent_added_changed (fun _ _ => Row.id_of_made) (Row.keepsKey_step m) hany)

/-- Moving a record does not touch preferences. -/
theorem preference?_move (s : Store) (id : String) (m : Record.Move) (recipient : String) :
    (s.move id m).1.preference? recipient = s.preference? recipient := by
  cases hinder : s.faults.move with
  | some f => rw [move_of_fault hinder]
  | none =>
    obtain ⟨backing, faults⟩ := s
    cases backing with
    | memory h p =>
      have hmove : move ⟨.memory h p, faults⟩ id m = _ := move_memory hinder id m h.records
      rw [hmove]
      rfl
    | database db =>
      obtain ⟨table, preferences⟩ := db
      cases table with
      | none => rw [move_without_table hinder]
      | some rows =>
        have hmove : move ⟨.database ⟨some rows, preferences⟩, faults⟩ id m = _ :=
          move_database hinder id m rows
        rw [hmove]
        rfl

end Store

end Courier
