import Courier.Proofs.Database.Row

/-!
# Tables and histories

A database keeps a history if its table of records has a row for each record, in the same order
(`Database.Keeps`). Every operation on the database then answers what it answers on the history,
and yields a database that keeps the history afterwards; only appending may fail where a history
would not, and keeps metadata in the form of a document.
-/

namespace Courier

namespace Row.Keeps

variable {row row' : Row} {r r' : Record}

/-- The order of stamps is the order of times, so rows and records sort alike. -/
theorem notEarlier (k : row.Keeps r) (k' : row'.Keeps r') :
    Database.notEarlier row row' = History.notEarlier r r' := by
  rw [Database.notEarlier, History.notEarlier, k.createdAt, k'.createdAt]
  exact decide_eq_decide.mpr (Stamp.writeMicros_le_iff k'.datable.created k.datable.created)

theorem concerns (k : row.Keeps r) (recipient : Option String) :
    Database.concerns recipient row = History.concerns recipient r := by
  cases recipient with
  | none => rfl
  | some id => rw [Database.concerns, History.concerns, k.recipient]

end Row.Keeps

namespace Database

/-- A database keeps a history: its rows keep the records of the history in turn. -/
def Keeps (db : Database) (h : History) : Prop :=
  ∃ rows, db.records = some rows ∧ List.Forall₂ Row.Keeps rows h.records

/-- What it takes to insert a row. -/
theorem insert_ok_iff {db db' : Database} {rows : List Row} {row : Row} {r : Record} :
    db.insert rows row = .ok (db', r) ↔ membersAreWritable row.metadata = true ∧
      row.toRecord = .ok r ∧ db' = { db with records := some (rows ++ [row]) } := by
  by_cases hw : membersAreWritable row.metadata = true
  · cases hr : row.toRecord with
    | error f => simp [insert, writable, hw, hr, bind, Except.bind]
    | ok kept => simp [insert, writable, hw, hr, bind, Except.bind, pure, Except.pure, eq_comm,
        and_comm]
  · simp [insert, writable, hw, bind, Except.bind]

/-- Appending a record yields its row at the end of the table, read back. -/
theorem of_append {db db' : Database} {r r' : Record} (happend : db.append r = .ok (db', r')) :
    ∃ rows row, db.records = some rows ∧ (rows.any fun row => row.id == r.id) = false ∧
      Row.ofRecord r = .ok row ∧ row.toRecord = .ok r' ∧
      db' = { db with records := some (rows ++ [row]) } := by
  unfold append Database.rows at happend
  split at happend
  · rename_i rows hrows
    simp only [bind, Except.bind] at happend
    split at happend
    · cases happend
    · rename_i free
      cases hrow : Row.ofRecord r with
      | error f =>
        rw [hrow] at happend
        cases happend
      | ok row =>
        rw [hrow] at happend
        obtain ⟨_, hread, hdb⟩ := insert_ok_iff.mp happend
        exact ⟨rows, row, hrows, by simpa using free, rfl, hread, hdb⟩
  · cases happend

/-- Moving a record whose row keeps it rewrites the row. -/
theorem move_of_keeps {db : Database} {rows : List Row} {row : Row} {r : Record} {id : String}
    (hrows : db.records = some rows) (hfind : (rows.find? fun row => row.id == id) = some row)
    (k : row.Keeps r) (m : Record.Move) :
    db.move id m = (r.after m).bind fun new => (Row.ofRecord new).bind fun row =>
      .ok ({ db with records := some (rewritten rows row) }, new) := by
  rw [Database.move, Database.rows, hrows]
  simp only [bind, Except.bind, hfind, k.read]
  rfl

namespace Keeps

variable {db : Database} {h : History}

theorem of_empty : Keeps {} {} := ⟨[], rfl, .nil⟩

theorem any_id {rows : List Row} (hmatch : List.Forall₂ Row.Keeps rows h.records) (id : String) :
    (rows.any fun row => row.id == id) = h.has id :=
  Matching.any (fun row r hk => by rw [Row.Keeps.id hk]) hmatch

theorem find?_row_none {rows : List Row} {id : String}
    (hmatch : List.Forall₂ Row.Keeps rows h.records) (hnone : h.find? id = none) :
    (rows.find? fun row => row.id == id) = none :=
  Matching.find?_none (fun row r hk => by rw [Row.Keeps.id hk]) hmatch hnone

/-- The first row with an identifier keeps the first record with that identifier. -/
theorem find?_row_some {rows : List Row} {id : String} {r : Record}
    (hmatch : List.Forall₂ Row.Keeps rows h.records) (hsome : h.find? id = some r) :
    ∃ row, (rows.find? fun row => row.id == id) = some row ∧ row.Keeps r :=
  Matching.find?_some (fun row r hk => by rw [Row.Keeps.id hk]) hmatch hsome

/-- Replacing a record and rewriting its row go together. -/
theorem rel_replaced {rows : List Row} {row : Row} {r : Record}
    (hmatch : List.Forall₂ Row.Keeps rows h.records) (hk : row.Keeps r) :
    List.Forall₂ Row.Keeps (rewritten rows row) (History.replaced h.records r) := by
  refine Matching.map (fun old s hold => ?_) hmatch
  rw [hold.id, hk.id]
  split
  · exact hk
  · exact hold

/-- Rows that keep records are read back as these. -/
theorem mapM_toRecord {rows : List Row} {records : List Record}
    (hmatch : List.Forall₂ Row.Keeps rows records) : rows.mapM Row.toRecord = .ok records :=
  Matching.mapM_ok_iff.mpr (hmatch.imp fun _ _ hk => hk.read)

theorem rel_all {rows : List Row} (hmatch : List.Forall₂ Row.Keeps rows h.records)
    (recipient : Option String) :
    List.Forall₂ Row.Keeps (rows.filter (concerns recipient)) (h.all recipient) :=
  Matching.filter (fun _ _ hk => hk.concerns recipient) hmatch

variable (k : db.Keeps h)

include k

theorem exists_rows : ∃ rows, db.rows = .ok rows ∧ List.Forall₂ Row.Keeps rows h.records := by
  obtain ⟨rows, hrows, hmatch⟩ := k
  exact ⟨rows, by rw [Database.rows, hrows], hmatch⟩

/-- Preferences are kept beside the records. -/
theorem withPreferences (p : Option (List PreferenceRow)) :
    Keeps { db with preferences := p } h := k

/-- No record is lost when missing tables are made. -/
theorem withTables : db.withTables.Keeps h := by
  obtain ⟨rows, hrows, hmatch⟩ := k
  exact ⟨rows, by simp [Database.withTables, hrows], hmatch⟩

/-! ## Appending -/

theorem append_taken {r : Record} (taken : h.has r.id = true) :
    db.append r = .error (.duplicate r.id) := by
  obtain ⟨rows, hrows, hmatch⟩ := k.exists_rows
  rw [Database.append, hrows]
  simp only [bind, Except.bind, any_id hmatch, taken]
  rfl

/-- Appending a record with a new identifier inserts its row. -/
theorem append_free {r : Record} (free : h.has r.id = false) : ∃ rows,
    List.Forall₂ Row.Keeps rows h.records ∧
      db.append r = (Row.ofRecord r).bind fun row => db.insert rows row := by
  obtain ⟨rows, hrows, hmatch⟩ := k.exists_rows
  refine ⟨rows, hmatch, ?_⟩
  rw [Database.append, hrows]
  simp only [bind, Except.bind, any_id hmatch, free]
  rfl

/-- A consistent record is appended if its times can be read back and its metadata can be
written. -/
theorem append_of_datable {r : Record} {ms : List (String × Json)} (free : h.has r.id = false)
    (c : r.Consistent) (d : r.Datable) (hms : Record.metadataJson? r.metadata = .ok ms)
    (writable : membersAreWritable ms = true) :
    ∃ db', db.append r = .ok (db', r.documented ms) ∧
      db'.Keeps ⟨h.records ++ [r.documented ms]⟩ := by
  obtain ⟨rows, hmatch, happend⟩ := k.append_free free
  have hrow : Row.ofRecord r = .ok (Row.withDocument r ms) :=
    Row.ofRecord_ok_iff.mpr ⟨ms, hms, rfl⟩
  have hkeeps : (Row.withDocument r ms).Keeps (r.documented ms) := Row.keeps_of_ofRecord c d hrow
  refine ⟨{ db with records := some (rows ++ [Row.withDocument r ms]) }, ?_, _, rfl,
    List.rel_append hmatch (.cons hkeeps .nil)⟩
  rw [happend, hrow]
  exact insert_ok_iff.mpr ⟨writable, hkeeps.read, rfl⟩

/-- A record with a new identifier and with a time in a year before 1000 is refused. -/
theorem append_of_not_datable {r : Record} {ms : List (String × Json)}
    (free : h.has r.id = false) (d : ¬r.Datable)
    (hms : Record.metadataJson? r.metadata = .ok ms) (writable : membersAreWritable ms = true) :
    ∃ a, a.date.year < 1000 ∧ db.append r = .error (Row.tooEarly a) := by
  obtain ⟨rows, hmatch, happend⟩ := k.append_free free
  obtain ⟨a, ha, he⟩ := Row.toRecord_of_not_datable d ms
  refine ⟨a, ha, ?_⟩
  have hw : Database.writable (Row.withDocument r ms) = .ok (Row.withDocument r ms) :=
    if_pos writable
  rw [happend, Row.ofRecord_ok_iff.mpr ⟨ms, hms, rfl⟩, Except.bind, insert, hw, bind]
  simp only [Monad.toBind, Except.instMonad, Except.bind, he]

/-- A record that was appended had a new identifier, and is kept as it was answered. -/
theorem of_append {r r' : Record} {db' : Database} (happend : db.append r = .ok (db', r')) :
    h.has r.id = false ∧ (∃ ms, r' = r.documented ms) ∧ r'.Consistent ∧
      db'.Keeps ⟨h.records ++ [r']⟩ := by
  obtain ⟨rows, hrows, hmatch⟩ := k
  obtain ⟨rows', row, hrows', free, hrow, hread, rfl⟩ := Database.of_append happend
  obtain rfl : rows = rows' := Option.some.inj (hrows.symm.trans hrows')
  obtain ⟨hk, hms⟩ := Row.keeps_of_toRecord hrow hread
  exact ⟨any_id hmatch r.id ▸ free, hms, hk.consistent, _, rfl,
    List.rel_append hmatch (.cons hk .nil)⟩

/-! ## Moving -/

theorem move_of_none {id : String} (m : Record.Move) (hnone : h.find? id = none) :
    db.move id m = .error (.notFound id) := by
  obtain ⟨rows, hrows, hmatch⟩ := k.exists_rows
  rw [Database.move, hrows]
  simp only [bind, Except.bind, find?_row_none hmatch hnone]
  rfl

/-- A record that is found is moved, and its row is rewritten. -/
theorem move_of_some {id : String} (m : Record.Move) {r : Record} (hsome : h.find? id = some r) :
    ∃ rows, List.Forall₂ Row.Keeps rows h.records ∧
      db.move id m = (r.after m).bind fun new => (Row.ofRecord new).bind fun row =>
        .ok ({ db with records := some (rewritten rows row) }, new) := by
  obtain ⟨rows, hrows, hmatch⟩ := k
  obtain ⟨row, hrow, hk⟩ := find?_row_some hmatch hsome
  exact ⟨rows, hmatch, move_of_keeps hrows hrow hk m⟩

/-- A request to move a record fails as it fails on the history. -/
theorem move_error {id : String} {m : Record.Move} {f : Failure} (hm : h.move id m = .error f) :
    db.move id m = .error f := by
  unfold History.move at hm
  split at hm
  · rename_i hnone
    cases hm
    exact k.move_of_none m hnone
  · rename_i r hsome
    obtain ⟨rows, _, hmove⟩ := k.move_of_some m hsome
    cases hafter : r.after m with
    | error g =>
      rw [hafter] at hm
      cases hm
      rw [hmove, hafter]
      rfl
    | ok new =>
      rw [hafter] at hm
      cases hm

/-- A record that can be moved is moved as in the history. -/
theorem move_ok {id : String} {m : Record.Move} {h' : History} {r : Record}
    (hm : h.move id m = .ok (h', r)) : ∃ db', db.move id m = .ok (db', r) ∧ db'.Keeps h' := by
  unfold History.move at hm
  split at hm
  · cases hm
  · rename_i old hsome
    obtain ⟨rows, hmatch, hmove⟩ := k.move_of_some m hsome
    cases hafter : old.after m with
    | error g =>
      rw [hafter] at hm
      cases hm
    | ok new =>
      rw [hafter] at hm
      cases hm
      obtain ⟨_, _, hk⟩ := find?_row_some hmatch hsome
      obtain ⟨row, hwritten, hkept⟩ := hk.after hafter
      exact ⟨_, by rw [hmove, hafter, Except.bind, hwritten]; rfl, _, rfl,
        rel_replaced hmatch hkept⟩

/-! ## Reading -/

theorem find? (id : String) : db.find? id = .ok (h.find? id) := by
  obtain ⟨rows, hrows, hmatch⟩ := k.exists_rows
  rw [Database.find?, hrows]
  cases hfound : h.find? id with
  | none =>
    simp only [bind, Except.bind, find?_row_none hmatch hfound]
    rfl
  | some r =>
    obtain ⟨row, hrow, hk⟩ := find?_row_some hmatch hfound
    simp only [bind, Except.bind, hrow, hk.read]
    rfl

theorem all (recipient : Option String) : db.all recipient = .ok (h.all recipient) := by
  obtain ⟨rows, hrows, hmatch⟩ := k.exists_rows
  rw [Database.all, hrows]
  exact mapM_toRecord (rel_all hmatch recipient)

/-- A query answers what it answers on the history, if its limit fits into the database. -/
theorem query (recipient : String) {limit : Int} (nonneg : 0 ≤ limit)
    (fits : limit ≤ greatestInteger) : db.query recipient limit = h.query recipient limit := by
  obtain ⟨rows, hrows, hmatch⟩ := k.exists_rows
  have hsorted : List.Forall₂ Row.Keeps (newestFirst (rows.filter (concerns (some recipient))))
      (History.newestFirst (h.all (some recipient))) :=
    Matching.mergeSort (fun _ _ hk _ _ hk' => hk.notEarlier hk')
      (List.forall₂_reverse_iff.mpr (rel_all hmatch (some recipient)))
  rw [Database.query, History.query, hrows, if_neg (by omega)]
  simp only [bind, Except.bind, if_neg (Int.not_lt.mpr fits)]
  exact mapM_toRecord (List.forall₂_take limit.toNat hsorted)

end Keeps

end Database

end Courier
