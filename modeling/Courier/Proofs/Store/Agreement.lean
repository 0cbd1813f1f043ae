import Courier.Proofs.History.Documented
import Courier.Proofs.Store.Keeping
import Mathlib.Algebra.Group.Int.Defs

/-!
# Agreement of the two kinds of store

A store in memory and a store in a database go through the same operations from empty, and answer
them alike (`Store.Alike`): with the same records but for the form of their metadata, or with the
same failure. They do so exactly as long as every record that is appended under a new identifier
can be dated, which is the main statement (`Store.answers_alike_exactly`). A record with a time of
sending or delivery in a year before 1000 is taken by a store in memory and refused by a store in a
database, which cannot read back the stamp that it writes.
-/

namespace Courier.Store

/-- What stores are asked. -/
inductive Operation where
  | append (r : Record)
  | move (id : String) (m : Record.Move)
  | find (id : String)
  | query (recipient : String) (limit : Int)
  | all (recipient : Option String)
  /-- The database is closed and opened again. -/
  | reopen

/-- The store opened again: tables that are missing are made. -/
def reopened (s : Store) : Store :=
  match s.backing with
  | .memory .. => s
  | .database db => { s with backing := .database db.withTables }

/-- The store after an operation, and the records that it answers with. -/
def perform (s : Store) : Operation → Store × Except Failure (List Record)
  | .append r => ((s.append r).1, (s.append r).2.answer.map fun kept => [kept])
  | .move id m => ((s.move id m).1, (s.move id m).2.answer.map fun new => [new])
  | .find id => (s, (s.find? id).answer.map Option.toList)
  | .query recipient limit => (s, (s.query recipient limit).answer)
  | .all recipient => (s, (s.all recipient).answer)
  | .reopen => (s.reopened, .ok [])

/-- The answers to operations in turn. -/
def answers (s : Store) : List Operation → List (Except Failure (List Record))
  | [] => []
  | op :: rest => (s.perform op).2 :: answers (s.perform op).1 rest

theorem answers_cons (s : Store) (op : Operation) (rest : List Operation) :
    s.answers (op :: rest) = (s.perform op).2 :: answers (s.perform op).1 rest := rfl

/-- What operations may ask: to append consistent records that were created in year 1000 or later
and whose metadata has a document that can be written, and to query as many records as fit into an
integer of the database. -/
def Operation.Admissible : Operation → Prop
  | .append r => r.Consistent ∧ 1000 ≤ r.createdAt.date.year ∧
      ∃ ms, Record.metadataJson? r.metadata = .ok ms ∧ Database.membersAreWritable ms = true
  | .query _ limit => limit < 2 ^ 63
  | _ => True

/-- Two answers are alike: records but for the form of their metadata, and failures altogether. -/
def Alike : Except Failure (List Record) → Except Failure (List Record) → Prop
  | .ok rs, .ok rs' => List.Forall₂ Record.AsDocument rs rs'
  | .error f, .error g => f = g
  | _, _ => False

/-- Every record that is appended under a new identifier has its times in year 1000 or later. -/
def NewRecordsDatable (s : Store) : List Operation → Prop
  | [] => True
  | op :: rest => (∀ r, op = .append r → (s.find? r.id).answer = .ok none → r.Datable) ∧
      NewRecordsDatable (s.perform op).1 rest

/-! ## Stores that belong together -/

/-- A store in memory and a store in a database, both unhindered, that keep the same history but for
the form of metadata. -/
def Together (s t : Store) : Prop :=
  ∃ (h h' : History) (p : Shelf) (db : Database), s = ⟨.memory h p, {}⟩ ∧
    t = ⟨.database db, {}⟩ ∧ db.Keeps h' ∧ h.AsDocuments h'

theorem together_empty : Together inMemory inDatabase :=
  ⟨{}, {}, [], {}, rfl, rfl, Database.Keeps.of_empty, .empty⟩

variable {s t : Store}

/-- A record with a new identifier that can be dated is appended to both stores. -/
theorem append_together {h h' : History} {p : Shelf} {db : Database} {r : Record}
    (k : db.Keeps h') (a : h.AsDocuments h') (free : h.has r.id = false) (d : r.Datable)
    (admissible : (Operation.append r).Admissible) :
    Alike (perform ⟨.memory h p, {}⟩ (.append r)).2 (perform ⟨.database db, {}⟩ (.append r)).2 ∧
      Together (perform ⟨.memory h p, {}⟩ (.append r)).1
        (perform ⟨.database db, {}⟩ (.append r)).1 := by
  obtain ⟨c, _, ms, hms, writable⟩ := admissible
  obtain ⟨db', happend, k'⟩ := k.append_of_datable (a.has r.id ▸ free) c d hms writable
  have has : r.AsDocument (r.documented ms) := ⟨ms, hms, rfl⟩
  simp only [perform, append_memory_ok Faults.append_none (History.append_ok_iff.mpr ⟨free, rfl⟩),
    append_database_ok Faults.append_none happend]
  exact ⟨List.Forall₂.cons has .nil, _, _, p, db', rfl, rfl, k', a.append has⟩

/-- A record with a new identifier that cannot be dated is appended to the store in memory and
refused by the store in a database. -/
theorem append_apart {h h' : History} {p : Shelf} {db : Database} {r : Record}
    (k : db.Keeps h') (a : h.AsDocuments h') (free : h.has r.id = false) (d : ¬r.Datable)
    (admissible : (Operation.append r).Admissible) :
    (append ⟨.memory h p, {}⟩ r).2.answer = .ok r ∧
      ∃ early, early.date.year < 1000 ∧
        (append ⟨.database db, {}⟩ r).2.answer = .error (Row.tooEarly early) := by
  obtain ⟨_, _, ms, hms, writable⟩ := admissible
  obtain ⟨early, hearly, happend⟩ := k.append_of_not_datable (a.has r.id ▸ free) d hms writable
  rw [append_memory_ok Faults.append_none (History.append_ok_iff.mpr ⟨free, rfl⟩),
    append_database_error Faults.append_none happend]
  exact ⟨rfl, early, hearly, rfl⟩

/-- A request to move a record is answered alike by both stores. -/
theorem move_together {h h' : History} {p : Shelf} {db : Database} (k : db.Keeps h')
    (a : h.AsDocuments h') (id : String) (m : Record.Move) :
    Alike (perform ⟨.memory h p, {}⟩ (.move id m)).2 (perform ⟨.database db, {}⟩ (.move id m)).2 ∧
      Together (perform ⟨.memory h p, {}⟩ (.move id m)).1
        (perform ⟨.database db, {}⟩ (.move id m)).1 := by
  cases hm : h.move id m with
  | error f =>
    have hm' := a.move_error hm
    have hanswer : ((Errand.move id).reply (.error f : Except Failure Record)).answer = .error f :=
      Errand.answer_reply_of_not_driver (History.isDriver_of_move hm)
    simp only [perform, move_memory_error Faults.move_none hm,
      move_database_error Faults.move_none (k.move_error hm'), hanswer]
    exact ⟨rfl, h, h', p, db, rfl, rfl, k, a⟩
  | ok moved =>
    obtain ⟨h₁, r⟩ := moved
    obtain ⟨h₂, r', hm', hr, a'⟩ := a.move_ok hm
    obtain ⟨db', hmove, k'⟩ := k.move_ok hm'
    simp only [perform, move_memory_ok Faults.move_none hm, move_database_ok Faults.move_none hmove]
    exact ⟨List.Forall₂.cons hr .nil, h₁, h₂, p, db', rfl, rfl, k', a'⟩

/-- Looking up a record is answered alike. -/
theorem find_together {h h' : History} {p : Shelf} {db : Database} (k : db.Keeps h')
    (a : h.AsDocuments h') (id : String) :
    Alike (perform ⟨.memory h p, {}⟩ (.find id)).2 (perform ⟨.database db, {}⟩ (.find id)).2 := by
  simp only [perform, Store.find?, k.find?, Errand.reply_ok, Reply.answer_quiet, Except.map]
  cases hfind : h.find? id with
  | none =>
    rw [a.find?_none hfind]
    exact List.Forall₂.nil
  | some r =>
    obtain ⟨r', hfind', hr⟩ := a.find?_some hfind
    rw [hfind']
    exact List.Forall₂.cons hr .nil

/-- A query with a limit that fits into the database is answered alike. -/
theorem query_together {h h' : History} {p : Shelf} {db : Database} (k : db.Keeps h')
    (a : h.AsDocuments h') (recipient : String) {limit : Int} (fits : limit < 2 ^ 63) :
    Alike (perform ⟨.memory h p, {}⟩ (.query recipient limit)).2
      (perform ⟨.database db, {}⟩ (.query recipient limit)).2 := by
  have hs : Keeps ⟨.memory h p, {}⟩ h := rfl
  have ht : Keeps ⟨.database db, {}⟩ h' := k
  have fits' : limit ≤ Database.greatestInteger := by
    rw [Database.greatestInteger]
    omega
  simp only [perform, hs.query recipient fits', ht.query recipient fits']
  unfold History.query
  split
  · exact rfl
  · exact a.newestFirst recipient limit

/-- Lists of records are answered alike. -/
theorem all_together {h h' : History} {p : Shelf} {db : Database} (k : db.Keeps h')
    (a : h.AsDocuments h') (recipient : Option String) :
    Alike (perform ⟨.memory h p, {}⟩ (.all recipient)).2
      (perform ⟨.database db, {}⟩ (.all recipient)).2 := by
  simp only [perform, Store.all, k.all, Errand.reply_ok, Reply.answer_quiet]
  exact a.all recipient

/-- One operation is answered alike and leaves the stores together, unless it appends a record under
a new identifier that cannot be dated. -/
theorem Together.perform (g : Together s t) {op : Operation} (admissible : op.Admissible)
    (datable : ∀ r, op = .append r → (s.find? r.id).answer = .ok none → r.Datable) :
    Alike (s.perform op).2 (t.perform op).2 ∧ Together (s.perform op).1 (t.perform op).1 := by
  obtain ⟨h, h', p, db, rfl, rfl, k, a⟩ := g
  have together : Together ⟨.memory h p, {}⟩ ⟨.database db, {}⟩ :=
    ⟨h, h', p, db, rfl, rfl, k, a⟩
  cases op with
  | append r =>
    cases taken : h.has r.id with
    | true =>
      have happend := k.append_taken (a.has r.id ▸ taken)
      have hmemory : h.append r = .error (.duplicate r.id) := by simp [History.append, taken]
      simp only [Store.perform, append_memory_error Faults.append_none hmemory,
        append_database_error Faults.append_none happend]
      exact ⟨rfl, together⟩
    | false =>
      have hfind : h.find? r.id = none := History.has_eq_false_iff.mp taken
      exact append_together k a taken (datable r rfl (by simp [Store.find?, hfind])) admissible
  | move id m => exact move_together k a id m
  | find id => exact ⟨find_together k a id, together⟩
  | query recipient limit => exact ⟨query_together k a recipient admissible, together⟩
  | all recipient => exact ⟨all_together k a recipient, together⟩
  | reopen => exact ⟨List.Forall₂.nil, h, h', p, db.withTables, rfl, rfl, k.withTables, a⟩

/-- Appending a record that cannot be dated under a new identifier is not answered alike. -/
theorem Together.not_alike (g : Together s t) {r : Record}
    (admissible : (Operation.append r).Admissible) (free : (s.find? r.id).answer = .ok none)
    (d : ¬r.Datable) : ¬Alike (s.perform (.append r)).2 (t.perform (.append r)).2 := by
  obtain ⟨h, h', p, db, rfl, rfl, k, a⟩ := g
  have hfind : h.find? r.id = none := Except.ok.inj free
  obtain ⟨taken, early, _, refused⟩ :=
    append_apart (p := p) k a (History.has_eq_false_iff.mpr hfind) d admissible
  rw [Store.perform, Store.perform, taken, refused]
  exact id

/-- Stores that belong together answer operations alike exactly as long as new records can be
dated. -/
theorem Together.answers_alike_iff {ops : List Operation} (g : Together s t)
    (admissible : ∀ op ∈ ops, op.Admissible) :
    List.Forall₂ Alike (s.answers ops) (t.answers ops) ↔ s.NewRecordsDatable ops := by
  induction ops generalizing s t with
  | nil => exact iff_of_true .nil trivial
  | cons op rest ih =>
    have hop := admissible op (List.mem_cons_self ..)
    have hrest : ∀ op ∈ rest, op.Admissible := fun op h => admissible op (List.mem_cons_of_mem _ h)
    rw [answers_cons, answers_cons, NewRecordsDatable, List.forall₂_cons]
    constructor
    · rintro ⟨halike, halikes⟩
      have datable : ∀ r, op = .append r → (s.find? r.id).answer = .ok none → r.Datable := by
        rintro r rfl free
        by_contra d
        exact g.not_alike hop free d halike
      exact ⟨datable, (ih (g.perform hop datable).2 hrest).mp halikes⟩
    · rintro ⟨datable, hnew⟩
      obtain ⟨halike, together⟩ := g.perform hop datable
      exact ⟨halike, (ih together hrest).mpr hnew⟩

/-- From empty, the two kinds of store answer all operations alike, in every order, exactly if no
record with a time of sending or delivery in a year before 1000 is appended under a new
identifier. -/
theorem answers_alike_exactly {ops : List Operation} (admissible : ∀ op ∈ ops, op.Admissible) :
    List.Forall₂ Alike (inMemory.answers ops) (inDatabase.answers ops) ↔
      inMemory.NewRecordsDatable ops :=
  together_empty.answers_alike_iff admissible

/-- A record that is appended, sent, read after reopening and appended again. -/
theorem answers_alike_after_reopening :
    let first := Operation.append (.fresh "n1" "ada" "offer-letter" Record.morning)
    let ops := [first, .move "n1" ⟨"sent", .ofInstant Record.morning, none⟩, .reopen,
      .query "ada" 10, .find "n1", .all none, first]
    List.Forall₂ Alike (inMemory.answers ops) (inDatabase.answers ops) := by
  intro first ops
  have year : 1000 ≤ Record.morning.date.year := by decide +kernel
  have datable : (Record.fresh "n1" "ada" "offer-letter" Record.morning).Datable :=
    ⟨year, year, by simp [Record.fresh], by simp [Record.fresh]⟩
  have admissible : first.Admissible := ⟨Record.consistent_fresh .., year, [], rfl, rfl⟩
  have limit : (Operation.query "ada" 10).Admissible := by simp [Operation.Admissible]
  refine (answers_alike_exactly ?_).mpr ?_
  · simp only [ops, List.forall_mem_cons]
    exact ⟨admissible, trivial, trivial, limit, trivial, trivial, admissible, by simp⟩
  · simp [ops, NewRecordsDatable, first, datable]

/-- The last day of year 999. -/
def lastDay : Instant := ⟨31525286400000000, by decide⟩

/-- A sent record with a time of sending long before it was created. -/
def sentEarly : Record :=
  { Record.fresh "n1" "ada" "offer-letter" Record.morning with
    status := .sent, sentAt := some lastDay }

/-- The two kinds of store part over a record that was sent in year 999: it may be appended, but
only a store in memory takes it. -/
theorem not_alike_sentEarly : (Operation.append sentEarly).Admissible ∧
    ¬List.Forall₂ Alike (inMemory.answers [.append sentEarly])
      (inDatabase.answers [.append sentEarly]) := by
  have admissible : (Operation.append sentEarly).Admissible :=
    ⟨⟨Nat.le_refl _, rfl, rfl, rfl⟩, by decide +kernel, [], rfl, rfl⟩
  have early : ¬1000 ≤ lastDay.date.year := by decide +kernel
  have d : ¬sentEarly.Datable := fun d => early (d.sent lastDay rfl)
  have apart : ¬Alike (inMemory.perform (.append sentEarly)).2
      (inDatabase.perform (.append sentEarly)).2 :=
    together_empty.not_alike admissible rfl d
  refine ⟨admissible, fun halike => ?_⟩
  rw [answers_cons inMemory, answers_cons inDatabase, List.forall₂_cons] at halike
  exact apart halike.1

end Courier.Store
