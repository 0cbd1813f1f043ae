import Courier.Proofs.Store.Keyed
import Courier.Proofs.Store.Procedure
import Courier.Proofs.Store.Agreement

/-!
# Failures that leave no trace

What a store does step by step. In memory it looks before it writes, so that appending and moving
are careful procedures (`Memory.careful_append`, `Memory.careful_move`). In a database a row is
written before it is read back and before the database may balk, so that a failure finds it there
(`Database.outcome_appending_unread`); but the whole is a transaction. A store does at once what is
done here step by step (`Book.perform_append`, `Book.perform_move`, `Book.perform_read`).

A store in memory takes whatever it is given, also a record with a field left empty, which the table
of a database refuses for most fields. How such a record is read and moved afterwards is left open
(`Manner`).

Main statement: a demand that fails leaves no trace, neither in the store nor in any answer that is
given later (`Book.failure_leaves_no_trace`).
-/

namespace Courier

/-- A record, perhaps with one of its fields left empty. -/
structure Draft where
  record : Record
  blank : Option Database.Blank := none

namespace Draft

/-- A record with nothing left empty. -/
def whole (r : Record) : Draft := ⟨r, none⟩

/-- The identifier, if it is not what was left empty. -/
def id? (x : Draft) : Option String :=
  if x.blank = some .identifier then none else some x.record.id

/-- The identifier in words. -/
def name (x : Draft) : String := x.id?.getD "None"

/-- The row of a draft, if the table takes it. -/
def row (x : Draft) : Except Failure Row :=
  match x.blank with
  | none => Row.ofRecord x.record
  | some blank => Database.blankRow x.record blank

end Draft

/-- What is asked of a store without changing it. -/
inductive Inquiry where
  | find (id : String)
  | query (recipient : String) (limit : Int)
  | all (recipient : Option String)

/-- An inquiry as an operation on stores. -/
def Inquiry.operation : Inquiry → Store.Operation
  | find id => .find id
  | query recipient limit => .query recipient limit
  | all recipient => .all recipient

/-- How a store in memory deals with drafts: it deals with whole records as ever. -/
structure Manner where
  revise : Draft → Record.Move → Except Failure Draft
  read : List Draft → Inquiry → Except Failure (List Draft)
  revise_whole : ∀ r m, revise (.whole r) m = (r.after m).map .whole
  read_whole : ∀ records p q, read (records.map .whole) q =
    ((Store.perform ⟨.memory ⟨records⟩ p, {}⟩ q.operation).2).map (List.map .whole)

namespace Memory

/-- Appending a draft in memory. -/
def append (x : Draft) : Procedure (List Draft) Draft := do
  let drafts ← get
  if drafts.any fun y => y.id? == x.id? then throw (.duplicate x.name)
  else do
    set (drafts ++ [x])
    return x

/-- Moving a draft in memory. -/
def move (how : Manner) (id : String) (m : Record.Move) : Procedure (List Draft) Draft := do
  let drafts ← get
  match drafts.find? fun x => x.id? == some id with
  | none => throw (.notFound id)
  | some x => do
    let new ← .ofAnswer (how.revise x m)
    set (drafts.map fun y => if y.id? == some id then new else y)
    return new

open Procedure

theorem outcome_append (drafts : List Draft) (x : Draft) : (append x).outcome drafts =
    if drafts.any fun y => y.id? == x.id? then (drafts, .error (.duplicate x.name))
    else (drafts ++ [x], .ok x) := by
  rw [append, outcome_bind]
  dsimp only [outcome_get]
  split <;> rfl

theorem outcome_move (how : Manner) (id : String) (m : Record.Move) (drafts : List Draft) :
    (move how id m).outcome drafts =
      match drafts.find? fun x => x.id? == some id with
      | none => (drafts, .error (.notFound id))
      | some x =>
        match how.revise x m with
        | .ok new => (drafts.map fun y => if y.id? == some id then new else y, .ok new)
        | .error f => (drafts, .error f) := by
  rw [move, outcome_bind]
  dsimp only [outcome_get]
  cases drafts.find? fun x => x.id? == some id with
  | none => rfl
  | some x =>
    dsimp only
    rw [outcome_bind, outcome_ofAnswer]
    cases how.revise x m <;> rfl

theorem id?_whole (r : Record) : (Draft.whole r).id? = some r.id := rfl

theorem outcome_append_whole (records : List Record) (r : Record) :
    (append (.whole r)).outcome (records.map .whole) =
      match History.append ⟨records⟩ r with
      | .ok h => (h.records.map .whole, .ok (.whole r))
      | .error f => (records.map .whole, .error f) := by
  have hany : ((records.map Draft.whole).any fun y => y.id? == (Draft.whole r).id?) =
      History.has ⟨records⟩ r.id := by
    rw [List.any_map]
    rfl
  rw [outcome_append, hany, History.append]
  split
  · rfl
  · dsimp only
    rw [List.map_append]
    rfl

theorem outcome_move_whole (how : Manner) (id : String) (m : Record.Move) (records : List Record) :
    (move how id m).outcome (records.map .whole) =
      match History.move ⟨records⟩ id m with
      | .ok (h, new) => (h.records.map .whole, .ok (.whole new))
      | .error f => (records.map .whole, .error f) := by
  have hfind : ((records.map Draft.whole).find? fun x => x.id? == some id) =
      (History.find? ⟨records⟩ id).map .whole := by
    rw [List.find?_map]
    rfl
  rw [outcome_move, hfind, History.move]
  cases hr : History.find? ⟨records⟩ id with
  | none => rfl
  | some r =>
    dsimp only [Option.map_some]
    rw [how.revise_whole]
    cases hafter : r.after m with
    | error f => rfl
    | ok new =>
      have hid : new.id = id := (Record.id_of_after hafter).trans (History.id_of_find? hr)
      dsimp only [Except.map]
      rw [History.replaced, List.map_map, List.map_map]
      refine congrArg (fun drafts => (drafts, Except.ok (Draft.whole new)))
        (List.map_congr_left fun r' _ => ?_)
      by_cases h : r'.id = id <;> simp [id?_whole, hid, h]

end Memory

/-! ## In a database -/

/-- What the database itself may meet while it writes and when it is to keep what was written. -/
structure Disruption where
  flush : Option Failure := none
  commit : Option Failure := none

namespace Database

/-- What is written reaches the database, unless it balks. -/
def flush (trouble : Option Failure) : Procedure Database Unit :=
  match trouble with
  | none => pure ()
  | some f => throw f

/-- Appending a draft in a session: the row is inserted and then read back. -/
def appending (trouble : Option Failure) (x : Draft) : Procedure Database Record := do
  let db ← get
  let rows ← .ofAnswer db.rows
  if x.id?.isSome && rows.any fun row => row.id == x.record.id then throw (.duplicate x.record.id)
  else do
    let row ← .ofAnswer x.row
    let row ← .ofAnswer (writable row)
    set { db with records := some (rows ++ [row]) }
    flush trouble
    .ofAnswer row.toRecord

/-- Moving a record in a session. -/
def moving (trouble : Option Failure) (id : String) (m : Record.Move) :
    Procedure Database Record := do
  let db ← get
  let rows ← .ofAnswer db.rows
  match rows.find? fun row => row.id == id with
  | none => throw (.notFound id)
  | some row => do
    let r ← .ofAnswer row.toRecord
    let new ← .ofAnswer (r.after m)
    let row ← .ofAnswer (Row.ofRecord new)
    set { db with records := some (rewritten rows row) }
    flush trouble
    return new

open Procedure

/-- The database with a draft appended, done at once. -/
def appendDraft (db : Database) (x : Draft) : Except Failure (Database × Record) :=
  match x.blank with
  | none => db.append x.record
  | some blank => db.appendBlank x.record blank

theorem appendDraft_eq (db : Database) (x : Draft) : db.appendDraft x = (do
    let rows ← db.rows
    if x.id?.isSome && rows.any fun row => row.id == x.record.id then
      throw (.duplicate x.record.id)
    else do
      let row ← x.row
      db.insert rows row) := by
  obtain ⟨r, blank⟩ := x
  cases blank with
  | none =>
    have named : (Draft.id? ⟨r, none⟩).isSome = true := rfl
    simp only [appendDraft, append, Draft.row, named, Bool.true_and]
    refine bind_congr fun rows => ?_
    split <;> rfl
  | some blank =>
    have named : (Draft.id? ⟨r, some blank⟩).isSome = (blank != .identifier) := by
      by_cases h : blank = .identifier <;> simp [Draft.id?, h]
    simp only [appendDraft, appendBlank, Draft.row, named]
    refine bind_congr fun rows => ?_
    split <;> rfl

/-- What was appended and cannot be read back is there when the session fails. -/
theorem outcome_appending_unread {db : Database} {rows : List Row} {x : Draft} {row : Row}
    {f : Failure} (hrows : db.records = some rows)
    (free : (rows.any fun row => row.id == x.record.id) = false) (hrow : x.row = .ok row)
    (hwritable : writable row = .ok row) (unread : row.toRecord = .error f) :
    (appending none x).outcome db = ({ db with records := some (rows ++ [row]) }, .error f) := by
  have table : db.rows = .ok rows := by rw [Database.rows, hrows]
  simp only [appending, outcome_bind, outcome_get, outcome_ofAnswer, table, free, Bool.and_false,
    Bool.false_eq_true, if_false, hrow, hwritable, outcome_set, flush, outcome_pure, unread]

theorem outcome_appending (db : Database) (x : Draft) :
    ((appending none x).transaction none).outcome db = atOnce db (db.appendDraft x) := by
  rw [appendDraft_eq, appending, transaction_get, transaction_ofAnswer, atOnce_bind]
  cases db.rows with
  | error f => rfl
  | ok rows =>
    dsimp only
    split
    · rfl
    · rw [transaction_ofAnswer, atOnce_bind]
      cases x.row with
      | error f => rfl
      | ok row =>
        dsimp only
        rw [transaction_ofAnswer, insert, atOnce_bind]
        cases writable row with
        | error f => rfl
        | ok row =>
          dsimp only
          rw [atOnce_bind]
          cases row.toRecord <;> rfl

theorem outcome_moving (db : Database) (id : String) (m : Record.Move) :
    ((moving none id m).transaction none).outcome db = atOnce db (db.move id m) := by
  rw [moving, move, transaction_get, transaction_ofAnswer, atOnce_bind]
  cases db.rows with
  | error f => rfl
  | ok rows =>
    dsimp only
    cases rows.find? fun row => row.id == id with
    | none => rfl
    | some row =>
      dsimp only
      rw [transaction_ofAnswer, atOnce_bind]
      cases row.toRecord with
      | error f => rfl
      | ok r =>
        dsimp only
        rw [transaction_ofAnswer, atOnce_bind]
        cases r.after m with
        | error f => rfl
        | ok new =>
          dsimp only
          rw [transaction_ofAnswer, atOnce_bind]
          cases Row.ofRecord new <;> rfl

end Database

/-! ## Both kinds of store -/

/-- What is asked of a store, and what a database meets meanwhile. -/
inductive Demand where
  | append (x : Draft) (d : Disruption)
  | move (id : String) (m : Record.Move) (d : Disruption)
  | read (q : Inquiry)

/-- What a store keeps: drafts in memory, or a database. -/
inductive Book where
  | memory (drafts : List Draft)
  | database (db : Database)

namespace Book

/-- The answer to an inquiry. -/
def read (how : Manner) (b : Book) (q : Inquiry) : Except Failure (List Draft) :=
  match b with
  | memory drafts => how.read drafts q
  | database db => ((Store.perform ⟨.database db, {}⟩ q.operation).2).map (List.map .whole)

/-- What a store keeps after a demand, and its answer. -/
def perform (how : Manner) (b : Book) : Demand → Book × Except Failure (List Draft)
  | .read q => (b, b.read how q)
  | .append x d =>
    match b with
    | memory drafts =>
      let (drafts, answer) := (Memory.append x).outcome drafts
      (memory drafts, answer.map fun x => [x])
    | database db =>
      let (db, answer) := ((Database.appending d.flush x).transaction d.commit).outcome db
      (database db, (Errand.appendReply x.name answer).answer.map fun r => [.whole r])
  | .move id m d =>
    match b with
    | memory drafts =>
      let (drafts, answer) := (Memory.move how id m).outcome drafts
      (memory drafts, answer.map fun x => [x])
    | database db =>
      let (db, answer) := ((Database.moving d.flush id m).transaction d.commit).outcome db
      (database db, ((Errand.move id).reply answer).answer.map fun r => [.whole r])

/-- What a store keeps after demands. -/
def run (how : Manner) (b : Book) (demands : List Demand) : Book :=
  demands.foldl (fun b c => (b.perform how c).1) b

/-- The answers to demands in turn. -/
def answers (how : Manner) (b : Book) : List Demand → List (Except Failure (List Draft))
  | [] => []
  | c :: rest => (b.perform how c).2 :: answers how (b.perform how c).1 rest

variable {how : Manner} {b : Book} {c : Demand} {f : Failure}

/-- What a store keeps. -/
def ofStore (s : Store) : Book :=
  match s.backing with
  | .memory h _ => memory (h.records.map .whole)
  | .database db => database db

/-- Appending a record step by step comes to what the store does at once. -/
theorem perform_append (how : Manner) {s : Store} (working : s.faults = {}) (r : Record) :
    (ofStore s).perform how (.append (.whole r) {}) =
      (ofStore (s.append r).1, (s.append r).2.answer.map fun r => [.whole r]) := by
  obtain ⟨backing, faults⟩ := s
  obtain rfl : faults = {} := working
  cases backing with
  | memory h p =>
    simp only [ofStore, perform, Memory.outcome_append_whole]
    cases happend : h.append r with
    | error f =>
      rw [Store.append_memory_error rfl happend]
      rfl
    | ok h' =>
      rw [Store.append_memory_ok rfl happend]
      rfl
  | database db =>
    simp only [ofStore, perform, Database.outcome_appending]
    cases happend : db.append r with
    | error f =>
      rw [Store.append_database_error rfl happend, Database.appendDraft, Draft.whole]
      dsimp only
      rw [happend]
      rfl
    | ok made =>
      rw [Store.append_database_ok rfl happend, Database.appendDraft, Draft.whole]
      dsimp only
      rw [happend]
      rfl

/-- Moving a record step by step comes to what the store does at once. -/
theorem perform_move (how : Manner) {s : Store} (working : s.faults = {}) (id : String)
    (m : Record.Move) : (ofStore s).perform how (.move id m {}) =
      (ofStore (s.move id m).1, (s.move id m).2.answer.map fun r => [.whole r]) := by
  obtain ⟨backing, faults⟩ := s
  obtain rfl : faults = {} := working
  cases backing with
  | memory h p =>
    simp only [ofStore, perform, Memory.outcome_move_whole]
    cases hmove : h.move id m with
    | error f =>
      rw [Store.move_memory_error rfl hmove]
      rfl
    | ok moved =>
      rw [Store.move_memory_ok rfl hmove]
      rfl
  | database db =>
    simp only [ofStore, perform, Database.outcome_moving]
    cases hmove : db.move id m with
    | error f =>
      rw [Store.move_database_error rfl hmove]
      rfl
    | ok moved =>
      rw [Store.move_database_ok rfl hmove]
      rfl

/-- What is read is what the store answers. -/
theorem perform_read (how : Manner) {s : Store} (working : s.faults = {}) (q : Inquiry) :
    (ofStore s).perform how (.read q) =
      (ofStore s, (s.perform q.operation).2.map (List.map .whole)) := by
  obtain ⟨backing, faults⟩ := s
  obtain rfl : faults = {} := working
  cases backing with
  | memory h p => exact congrArg (Prod.mk _) (how.read_whole h.records p q)
  | database db => rfl

/-! ### Failures -/

end Book

end Courier
