import Courier.Proofs.Database.Table
import Courier.Store.Basic

/-!
# Stores and histories

A store keeps a history: in memory it holds the history itself, in a database a row for each of its
records (`Store.Keeps`). Whichever way it keeps it, what succeeds on the store succeeds on the
history and the store keeps the history afterwards (`Store.Keeps.of_append`,
`Store.Keeps.of_move`), and a store that nothing hinders moves every record that the history would
move (`Store.Keeps.move_ok`).

`Store.append_cases` and `Store.move_cases` say all that a request can do: it is answered with a
record, and the history or the database changes as the request says, or it fails and leaves the
store as it was.
-/

namespace Courier

/-- A failure to move a record that the history knows is none of the driver. -/
theorem History.isDriver_of_move {h : History} {id : String} {m : Record.Move} {f : Failure}
    (hm : h.move id m = .error f) : f.isDriver = false := by
  unfold History.move at hm
  split at hm
  · cases hm
    rfl
  · rename_i r _
    unfold Record.after at hm
    repeat' split at hm
    all_goals cases hm
    all_goals rfl

namespace Errand

variable {α : Type} {errand : Errand} {answer : Except Failure α} {a : α}

theorem answer_reply_ok_iff : (errand.reply answer).answer = .ok a ↔ answer = .ok a := by
  cases answer <;> simp [reply]

theorem answer_appendReply_ok_iff {id : String} :
    (appendReply id answer).answer = .ok a ↔ answer = .ok a := by
  unfold appendReply
  split
  · split
    · simp
    · simp [reply]
  · exact answer_reply_ok_iff

/-- What is not the driver's failure reaches the caller as it is. -/
theorem answer_reply_of_not_driver {f : Failure} (h : f.isDriver = false) :
    (errand.reply (.error f : Except Failure α)).answer = .error f := by
  simp [reply, seen, h]

end Errand

namespace Faults

theorem append_none : Faults.append {} = none := rfl

theorem move_none : Faults.move {} = none := rfl

end Faults

namespace Store

variable {s : Store} {h h' : History} {r r' : Record} {id : String} {m : Record.Move}

/-- A store keeps a history. -/
def Keeps (s : Store) (h : History) : Prop :=
  match s.backing with
  | .memory h' _ => h' = h
  | .database db => db.Keeps h

theorem keeps_inMemory : inMemory.Keeps {} := rfl

theorem keeps_inDatabase : inDatabase.Keeps {} := Database.Keeps.of_empty

/-! ## Requests that nothing hinders -/

section equations

variable {faults : Faults} {p : Shelf} {db db' : Database} {f : Failure}

theorem append_memory_ok (working : faults.append = none) (ha : h.append r = .ok h') :
    append ⟨.memory h p, faults⟩ r = (⟨.memory h' p, faults⟩, .quiet (.ok r)) := by
  simp [append, working, ha, Except.map, settle]

theorem append_memory_error (working : faults.append = none) (ha : h.append r = .error f) :
    append ⟨.memory h p, faults⟩ r = (⟨.memory h p, faults⟩, .quiet (.error f)) := by
  simp [append, working, ha, Except.map]

theorem append_database_ok (working : faults.append = none) (ha : db.append r = .ok (db', r')) :
    append ⟨.database db, faults⟩ r = (⟨.database db', faults⟩, .quiet (.ok r')) := by
  simp [append, working, ha, Except.map, settle, Errand.appendReply]

theorem append_database_error (working : faults.append = none) (ha : db.append r = .error f) :
    append ⟨.database db, faults⟩ r =
      (⟨.database db, faults⟩, Errand.appendReply r.id (.error f)) := by
  simp [append, working, ha, Except.map]

theorem move_memory_ok (working : faults.move = none) (hm : h.move id m = .ok (h', r')) :
    move ⟨.memory h p, faults⟩ id m = (⟨.memory h' p, faults⟩, .quiet (.ok r')) := by
  simp [move, working, hm, Except.map, settle]

theorem move_memory_error (working : faults.move = none) (hm : h.move id m = .error f) :
    move ⟨.memory h p, faults⟩ id m = (⟨.memory h p, faults⟩, .quiet (.error f)) := by
  simp [move, working, hm, Except.map]

theorem move_database_ok (working : faults.move = none) (hm : db.move id m = .ok (db', r')) :
    move ⟨.database db, faults⟩ id m = (⟨.database db', faults⟩, .quiet (.ok r')) := by
  simp [move, working, hm, Except.map, settle]

theorem move_database_error (working : faults.move = none) (hm : db.move id m = .error f) :
    move ⟨.database db, faults⟩ id m =
      (⟨.database db, faults⟩, (Errand.move id).reply (.error f)) := by
  simp [move, working, hm, Except.map]

end equations

/-! ## What a request does -/

/-- A store follows another: the history or the database that it lies in has changed, in one of the
given ways, and nothing else has. -/
inductive Follows (history : History → History → Prop) (database : Database → Database → Prop)
    (s s' : Store) : Prop where
  | memory {h h' : History} {p : Shelf} (before : s.backing = .memory h p)
      (changed : history h h') (after : s' = { s with backing := .memory h' p })
  | database {db db' : Database} (before : s.backing = .database db) (changed : database db db')
      (after : s' = { s with backing := .database db' })

theorem Follows.isDatabase {history : History → History → Prop}
    {database : Database → Database → Prop} {s' : Store} (f : Follows history database s s') :
    s'.isDatabase = s.isDatabase := by
  cases f with
  | memory before _ after =>
    rw [after, Store.isDatabase, Store.isDatabase, before]
  | database before _ after =>
    rw [after, Store.isDatabase, Store.isDatabase, before]

/-- What comes of appending a record. -/
def Appends (r r' : Record) : Store → Store → Prop :=
  Follows (fun h h' => h.append r = .ok h' ∧ r' = r) fun db db' => db.append r = .ok (db', r')

/-- What comes of moving a record. -/
def Moves (id : String) (m : Record.Move) (r' : Record) : Store → Store → Prop :=
  Follows (fun h h' => h.move id m = .ok (h', r')) fun db db' => db.move id m = .ok (db', r')

/-- A store either answers with the record it has appended and changes as its history or its database
does, or answers with no record and stays as it is. -/
theorem append_cases (s : Store) (r : Record) :
    ((∀ r', (s.append r).2.answer ≠ .ok r') ∧ (s.append r).1 = s) ∨
      ∃ r', (s.append r).2.answer = .ok r' ∧ Appends r r' s (s.append r).1 := by
  obtain ⟨backing, faults⟩ := s
  cases working : faults.append with
  | some f => exact .inl (by simp [append, working])
  | none =>
    cases backing with
    | memory h p =>
      cases happend : h.append r with
      | error f =>
        rw [append_memory_error working happend]
        exact .inl ⟨nofun, rfl⟩
      | ok h' =>
        rw [append_memory_ok working happend]
        exact .inr ⟨r, rfl, .memory rfl ⟨happend, rfl⟩ rfl⟩
    | database db =>
      cases happend : db.append r with
      | error f =>
        rw [append_database_error working happend]
        exact .inl ⟨fun _ ha => (nomatch Errand.answer_appendReply_ok_iff.mp ha), rfl⟩
      | ok kept =>
        rw [append_database_ok working happend]
        exact .inr ⟨kept.2, rfl, .database rfl happend rfl⟩

theorem move_cases (s : Store) (id : String) (m : Record.Move) :
    ((∀ r', (s.move id m).2.answer ≠ .ok r') ∧ (s.move id m).1 = s) ∨
      ∃ r', (s.move id m).2.answer = .ok r' ∧ Moves id m r' s (s.move id m).1 := by
  obtain ⟨backing, faults⟩ := s
  cases working : faults.move with
  | some f => exact .inl (by simp [move, working])
  | none =>
    cases backing with
    | memory h p =>
      cases hmove : h.move id m with
      | error f =>
        rw [move_memory_error working hmove]
        exact .inl ⟨nofun, rfl⟩
      | ok moved =>
        rw [move_memory_ok working hmove]
        exact .inr ⟨moved.2, rfl, .memory rfl hmove rfl⟩
    | database db =>
      cases hmove : db.move id m with
      | error f =>
        rw [move_database_error working hmove]
        exact .inl ⟨fun _ hm => (nomatch Errand.answer_reply_ok_iff.mp hm), rfl⟩
      | ok moved =>
        rw [move_database_ok working hmove]
        exact .inr ⟨moved.2, rfl, .database rfl hmove rfl⟩

theorem appends_of_ok (ha : (s.append r).2.answer = .ok r') : Appends r r' s (s.append r).1 := by
  rcases append_cases s r with ⟨none, _⟩ | ⟨r'', hanswer, appends⟩
  · exact absurd ha (none r')
  · rw [ha] at hanswer
    cases hanswer
    exact appends

theorem moves_of_ok (hm : (s.move id m).2.answer = .ok r') : Moves id m r' s (s.move id m).1 := by
  rcases move_cases s id m with ⟨none, _⟩ | ⟨r'', hanswer, moves⟩
  · exact absurd hm (none r')
  · rw [hm] at hanswer
    cases hanswer
    exact moves

theorem append_error {f : Failure} (ha : (s.append r).2.answer = .error f) :
    (s.append r).1 = s := by
  rcases append_cases s r with ⟨_, stays⟩ | ⟨r', hanswer, _⟩
  · exact stays
  · rw [ha] at hanswer
    cases hanswer

theorem move_error {f : Failure} (hm : (s.move id m).2.answer = .error f) :
    (s.move id m).1 = s := by
  rcases move_cases s id m with ⟨_, stays⟩ | ⟨r', hanswer, _⟩
  · exact stays
  · rw [hm] at hanswer
    cases hanswer

/-! ## What requests leave alone -/

theorem faults_settle {α : Type} (answer : Except Failure (Backing × α)) :
    (s.settle answer).1.faults = s.faults := by
  unfold settle
  split <;> rfl

theorem faults_append (s : Store) (r : Record) : (s.append r).1.faults = s.faults := by
  unfold append
  split
  · rfl
  · split <;> exact faults_settle _

theorem faults_move (s : Store) (id : String) (m : Record.Move) :
    (s.move id m).1.faults = s.faults := by
  unfold move
  split
  · rfl
  · split <;> exact faults_settle _

theorem faults_putPreference (s : Store) (p : Preference) :
    (s.putPreference p).1.faults = s.faults := by
  unfold putPreference
  split
  · rfl
  · exact faults_settle _

theorem isDatabase_append (s : Store) (r : Record) :
    (s.append r).1.isDatabase = s.isDatabase := by
  rcases append_cases s r with ⟨_, stays⟩ | ⟨_, _, appends⟩
  · rw [stays]
  · exact appends.isDatabase

theorem isDatabase_move (s : Store) (id : String) (m : Record.Move) :
    (s.move id m).1.isDatabase = s.isDatabase := by
  rcases move_cases s id m with ⟨_, stays⟩ | ⟨_, _, moves⟩
  · rw [stays]
  · exact moves.isDatabase

/-- A request that was answered was not hindered. -/
theorem working_of_move (hm : (s.move id m).2.answer = .ok r') : s.faults.move = none := by
  unfold move at hm
  split at hm
  · cases hm
  · assumption

/-! ## Requests on a store that keeps a history -/

namespace Keeps

variable (k : s.Keeps h)

include k

/-- A record that was appended had a new identifier. It is kept as it was answered, which is as it
was given but for the form of its metadata. -/
theorem of_append (ha : (s.append r).2.answer = .ok r') :
    h.has r.id = false ∧ (∃ metadata, r' = { r with metadata := metadata }) ∧
      (s.append r).1.Keeps ⟨h.records ++ [r']⟩ := by
  obtain ⟨backing, faults⟩ := s
  rcases appends_of_ok ha with ⟨before, ⟨happend, same⟩, after⟩ | ⟨before, happend, after⟩
  · subst before same
    obtain rfl : _ = h := k
    obtain ⟨free, rfl⟩ := History.append_ok_iff.mp happend
    exact ⟨free, ⟨_, rfl⟩, after ▸ rfl⟩
  · subst before
    obtain ⟨free, ⟨ms, hms⟩, _, k'⟩ := Database.Keeps.of_append k happend
    exact ⟨free, ⟨_, hms⟩, after ▸ k'⟩

/-- A store that nothing hinders moves every record that the history would move. -/
theorem move_ok (working : s.faults.move = none) (hm : h.move id m = .ok (h', r')) :
    (s.move id m).2.answer = .ok r' ∧ (s.move id m).1.Keeps h' := by
  obtain ⟨backing, faults⟩ := s
  cases backing with
  | memory h₀ p =>
    obtain rfl : h₀ = h := k
    rw [move_memory_ok working hm]
    exact ⟨rfl, rfl⟩
  | database db =>
    obtain ⟨db', hmove, k'⟩ := Database.Keeps.move_ok k hm
    rw [move_database_ok working hmove]
    exact ⟨rfl, k'⟩

/-- A store that nothing hinders refuses to move what the history refuses to move, in the same
words. -/
theorem answer_move_error {f : Failure} (working : s.faults.move = none)
    (hm : h.move id m = .error f) : (s.move id m).2.answer = .error f := by
  obtain ⟨backing, faults⟩ := s
  cases backing with
  | memory h₀ p =>
    obtain rfl : h₀ = h := k
    rw [move_memory_error working hm]
    rfl
  | database db =>
    rw [move_database_error working (Database.Keeps.move_error k hm)]
    exact Errand.answer_reply_of_not_driver (History.isDriver_of_move hm)

/-- A record that was moved was moved as in the history. -/
theorem of_move (hm : (s.move id m).2.answer = .ok r') :
    ∃ h', h.move id m = .ok (h', r') ∧ (s.move id m).1.Keeps h' := by
  have working := working_of_move hm
  cases hmove : h.move id m with
  | error g =>
    rw [k.answer_move_error working hmove] at hm
    cases hm
  | ok moved =>
    obtain ⟨h', r''⟩ := moved
    obtain ⟨hanswer, k'⟩ := k.move_ok working hmove
    rw [hanswer] at hm
    cases hm
    exact ⟨h', rfl, k'⟩

theorem putPreference (p : Preference) : (s.putPreference p).1.Keeps h := by
  obtain ⟨backing, faults⟩ := s
  cases backing with
  | memory h₀ shelf => exact k
  | database db =>
    cases hput : db.putPreference p with
    | error g => simpa [Store.putPreference, hput, Except.map] using k
    | ok db' =>
      simp only [Store.putPreference, hput, Except.map, settle]
      unfold Database.putPreference at hput
      cases hrows : db.preferenceRows with
      | error g =>
        rw [hrows] at hput
        cases hput
      | ok rows =>
        rw [hrows] at hput
        cases hput
        exact Database.Keeps.withPreferences k _

/-! ## Reading -/

theorem find? (id : String) : (s.find? id).answer = .ok (h.find? id) := by
  obtain ⟨backing, faults⟩ := s
  cases backing with
  | memory h₀ p =>
    obtain rfl : h₀ = h := k
    rfl
  | database db => simp [Store.find?, Database.Keeps.find? k id]

theorem all (recipient : Option String) : (s.all recipient).answer = .ok (h.all recipient) := by
  obtain ⟨backing, faults⟩ := s
  cases backing with
  | memory h₀ p =>
    obtain rfl : h₀ = h := k
    rfl
  | database db => simp [Store.all, Database.Keeps.all k recipient]

/-- A query answers what it answers on the history, if its limit fits into a database. -/
theorem query (recipient : String) {limit : Int} (fits : limit ≤ Database.greatestInteger) :
    (s.query recipient limit).answer = h.query recipient limit := by
  unfold Store.query
  split
  · rename_i negative
    rw [History.query, if_pos negative]
    rfl
  · rename_i nonneg
    obtain ⟨backing, faults⟩ := s
    cases backing with
    | memory h₀ p =>
      obtain rfl : h₀ = h := k
      rfl
    | database db =>
      simp only [Database.Keeps.query k recipient (Int.not_lt.mp nonneg) fits]
      rw [History.query, if_neg nonneg]
      rfl

end Keeps

end Store

end Courier
