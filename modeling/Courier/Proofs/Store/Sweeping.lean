import Courier.Proofs.Settings.Sweeper
import Courier.Proofs.Store.Agreement
import Courier.Proofs.Store.Run
import Courier.Sweep

/-!
# Sweeps of the two kinds of store

A sweep reports the pending records that were created before its cutoff, and it reports nothing
else if the store lies in memory. A database compares stamps, and the year of a stamp is not padded:
against a cutoff in a year before 1000 it also takes a pending record for stale whose year begins
with a smaller number (`Database.isMisread`). Main statement: `Store.sweeps_exact_unless_misread`.

A sweep yields a reply and no store, so there is nothing in it that could change a record.
-/

namespace Courier

/-! ## What a sweep answers -/

namespace Sweep

/-- The answer of a sweep that has found these records: a clock whose distance from universal time
is unknown cannot tell the age of a record. -/
def report (now cutoff : Reading) (stale : List Record) : Except Failure Sweep :=
  if now.offset.isNone && !stale.isEmpty then .error .placelessClock
  else .ok ⟨now, cutoff, stale⟩

/-- The identifiers of the records that a sweep reports. -/
def ids (sweep : Sweep) : List String := sweep.stale.map Record.id

variable {s : Store} {now cutoff : Reading} {seconds : Int} {a : Instant}
  {stale stale' : List Record}

theorem staleEntries_snd (now : Reading) (stale : List Record) : (staleEntries now stale).2 =
    if now.offset.isNone && !stale.isEmpty then some .placelessClock else none := by
  cases hoffset : now.offset with
  | none =>
    cases stale with
    | nil => rfl
    | cons r rest => simp [staleEntries, age, hoffset]
  | some ahead =>
    induction stale with
    | nil => rfl
    | cons r rest ih => simpa [staleEntries, age, hoffset] using ih

/-- A sweep answers with what the store finds before the cutoff. -/
theorem run_answer (pos : 0 < seconds) (hcutoff : earlier now seconds = .ok cutoff)
    (ha : cutoff.toInstant? = some a) (found : (s.pendingBefore a).answer = .ok stale) :
    (run s now seconds).answer = report now cutoff stale := by
  have entries := staleEntries_snd now stale
  rw [run, if_neg (Int.not_le.mpr pos)]
  simp only [hcutoff, ha, found, report]
  rcases hlog : staleEntries now stale with ⟨log, failure⟩
  rw [hlog] at entries
  obtain rfl := entries
  split <;> simp_all

/-- A sweep of whichever store fails if the cutoff has no instant in the calendar. -/
theorem run_beyondCalendar (pos : 0 < seconds) (hcutoff : earlier now seconds = .ok cutoff)
    (ha : cutoff.toInstant? = none) : (run s now seconds).answer = .error .beyondCalendar := by
  rw [run, if_neg (Int.not_le.mpr pos)]
  simp only [hcutoff, ha]
  rfl

/-- Nothing but the identifiers of the records found decides which identifiers are reported. -/
theorem ids_report_congr (same : stale.map Record.id = stale'.map Record.id) :
    (report now cutoff stale).map ids = (report now cutoff stale').map ids := by
  have empty : stale.isEmpty = stale'.isEmpty := by
    rw [← List.isEmpty_map (f := Record.id), same, List.isEmpty_map]
  unfold report
  rw [empty]
  split
  · rfl
  · simp only [Except.map, ids, same]

/-- No identifier is reported only if no record was found. -/
theorem ids_report_eq_nil_iff : (report now cutoff stale).map ids = .ok [] ↔ stale = [] := by
  unfold report
  split
  · rename_i h
    have : stale ≠ [] := by
      rintro rfl
      simp at h
    exact iff_of_false (fun h => by cases h) this
  · simp [Except.map, ids]

end Sweep

/-! ## What the two kinds of store find -/

namespace Database

/-- Whether a pending record counts as stale before a cutoff in a year of fewer than four digits,
because its year begins with a smaller number of as many digits. -/
def isMisread (cutoff : Instant) (r : Record) : Bool :=
  r.status == .pending && decide (cutoff.date.year < 1000) &&
    decide (Stamp.leadingYear r.createdAt cutoff < cutoff.date.year)

end Database

/-- A row is found if its record is stale or misread. -/
theorem Row.Keeps.isStale {row : Row} {r : Record} (k : row.Keeps r) (a : Instant) :
    Database.isStale (Stamp.writeMicros a) row =
      (History.isStale a r || Database.isMisread a r) := by
  have created := k.datable.created
  have status : (row.status == Status.pending.name) = (r.status == .pending) := by
    rw [k.status]
    cases r.status <;> rfl
  rw [Database.isStale, History.isStale, Database.isMisread, status, k.createdAt]
  cases r.status == Status.pending with
  | false => rfl
  | true =>
    simp only [Bool.true_and]
    -- stamps of four-digit years are compared as their instants, others by their first digits
    by_cases ha : 1000 ≤ a.date.year
    · have hlt : ¬a.date.year < 1000 := by omega
      simp [Stamp.writeMicros_lt_iff created ha, hlt]
    · have hlt : a.date.year < 1000 := by omega
      have later : ¬r.createdAt < a :=
        Instant.not_lt_of_year_lt (Nat.lt_of_lt_of_le hlt created)
      simp [Stamp.writeMicros_lt_iff_of_lt created hlt, hlt, later]

namespace Database.Keeps

variable {db : Database} {h : History} (k : db.Keeps h)

include k

theorem pendingBefore (a : Instant) : db.pendingBefore a =
    .ok (h.records.filter fun r => History.isStale a r || isMisread a r) := by
  obtain ⟨rows, hrows, hmatch⟩ := k.exists_rows
  rw [Database.pendingBefore, hrows]
  exact mapM_toRecord (Matching.filter (fun _ _ hk => hk.isStale a) hmatch)

/-- A database has no record that was created before year 1000. -/
theorem created_in_four_digits {r : Record} (hr : r ∈ h.records) :
    1000 ≤ r.createdAt.date.year := by
  obtain ⟨rows, _, hmatch⟩ := k
  obtain ⟨row, _, hk⟩ := Matching.exists_left hmatch hr
  exact hk.datable.created

end Database.Keeps

/-! ## Misread records -/

section misread

variable {records : List Record} {a : Instant}

/-- Where no record is misread, only stale records are found. -/
theorem filter_isStale_or_isMisread
    (none : ∀ r ∈ records, Database.isMisread a r = false) :
    (records.filter fun r => History.isStale a r || Database.isMisread a r) =
      records.filter (History.isStale a) :=
  List.filter_congr fun r hr => by rw [none r hr, Bool.or_false]

/-- No record of a four-digit year is stale before a cutoff that lets another be misread. -/
theorem filter_isStale_of_isMisread (created : ∀ r ∈ records, 1000 ≤ r.createdAt.date.year)
    {r : Record} (misread : Database.isMisread a r = true) :
    records.filter (History.isStale a) = [] := by
  have early : a.date.year < 1000 := by
    simp only [Database.isMisread, Bool.and_eq_true, decide_eq_true_eq] at misread
    exact misread.1.2
  refine List.filter_eq_nil_iff.mpr fun s hs => ?_
  have later : ¬s.createdAt < a :=
    Instant.not_lt_of_year_lt (Nat.lt_of_lt_of_le early (created s hs))
  simp [History.isStale, later]

/-- A sweep of records from four-digit years reports the identifiers of the stale ones, and no
others, exactly if none of the records is misread. -/
theorem Sweep.ids_report_eq_iff {now cutoff : Reading} {stale : List Record}
    (created : ∀ r ∈ records, 1000 ≤ r.createdAt.date.year)
    (same : stale.map Record.id = (records.filter (History.isStale a)).map Record.id) :
    (report now cutoff stale).map ids =
        (report now cutoff (records.filter fun r =>
          History.isStale a r || Database.isMisread a r)).map ids ↔
      ∀ r ∈ records, Database.isMisread a r = false := by
  constructor
  · intro h r hr
    by_contra hne
    have misread : Database.isMisread a r = true := by simpa using hne
    -- nothing is stale before so early a cutoff, so whatever is reported is misread
    rw [filter_isStale_of_isMisread created misread, List.map_nil, List.map_eq_nil_iff] at same
    rw [ids_report_eq_nil_iff.mpr same, eq_comm, ids_report_eq_nil_iff] at h
    have := List.filter_eq_nil_iff.mp h r hr
    simp [misread] at this
  · intro none
    rw [filter_isStale_or_isMisread none]
    exact ids_report_congr same

end misread

namespace Store

variable {s t : Store} {h : History}

namespace Keeps

/-- What a store finds pending before an instant. -/
theorem pendingBefore (k : s.Keeps h) (a : Instant) : (s.pendingBefore a).answer =
    .ok (h.records.filter fun r =>
      History.isStale a r || (s.isDatabase && Database.isMisread a r)) := by
  obtain ⟨backing, faults⟩ := s
  cases backing with
  | memory h₀ p =>
    obtain rfl : h₀ = h := k
    simp [Store.pendingBefore, isDatabase, History.pendingBefore]
  | database db => simp [Store.pendingBefore, isDatabase, Database.Keeps.pendingBefore k a]

/-- What a sweep of a store in memory answers. -/
theorem sweep_memory (k : s.Keeps h) (memory : s.isDatabase = false) {now cutoff : Reading}
    {seconds : Int} {a : Instant} (pos : 0 < seconds)
    (hcutoff : Sweep.earlier now seconds = .ok cutoff) (ha : cutoff.toInstant? = some a) :
    (Sweep.run s now seconds).answer =
      Sweep.report now cutoff (h.records.filter (History.isStale a)) :=
  Sweep.run_answer pos hcutoff ha (by simpa [memory] using k.pendingBefore a)

/-- What a sweep of a store in a database answers. -/
theorem sweep_database (k : s.Keeps h) (database : s.isDatabase = true) {now cutoff : Reading}
    {seconds : Int} {a : Instant} (pos : 0 < seconds)
    (hcutoff : Sweep.earlier now seconds = .ok cutoff) (ha : cutoff.toInstant? = some a) :
    (Sweep.run s now seconds).answer = Sweep.report now cutoff
      (h.records.filter fun r => History.isStale a r || Database.isMisread a r) :=
  Sweep.run_answer pos hcutoff ha (by simpa [database] using k.pendingBefore a)

theorem created_in_four_digits (k : s.Keeps h) (database : s.isDatabase = true) :
    ∀ r ∈ h.records, 1000 ≤ r.createdAt.date.year := by
  obtain ⟨backing, faults⟩ := s
  cases backing with
  | memory h₀ p => cases database
  | database db => exact fun r hr => Database.Keeps.created_in_four_digits k hr

end Keeps

/-! ## Runs of operations -/

/-- The store after operations in turn. -/
def afterAll (s : Store) : List Operation → Store
  | [] => s
  | op :: rest => afterAll (s.perform op).1 rest

theorem isDatabase_perform (s : Store) (op : Operation) :
    (s.perform op).1.isDatabase = s.isDatabase := by
  cases op with
  | append r => exact isDatabase_append s r
  | move id m => exact isDatabase_move s id m
  | reopen =>
    obtain ⟨backing, faults⟩ := s
    cases backing <;> rfl
  | _ => rfl

theorem isDatabase_afterAll : ∀ (s : Store) (ops : List Operation),
    (s.afterAll ops).isDatabase = s.isDatabase
  | _, [] => rfl
  | s, op :: rest => by
    rw [afterAll, isDatabase_afterAll (s.perform op).1 rest, isDatabase_perform]

theorem Keeps.reopened (k : s.Keeps h) : s.reopened.Keeps h := by
  obtain ⟨backing, faults⟩ := s
  cases backing with
  | memory h₀ p => exact k
  | database db => exact Database.Keeps.withTables k

/-- Whatever is asked of it, a store keeps some history. -/
theorem Keeps.perform (k : s.Keeps h) (op : Operation) : ∃ h', (s.perform op).1.Keeps h' := by
  cases op with
  | append r =>
    cases ha : (s.append r).2.answer with
    | error f => exact ⟨h, by rw [Store.perform, append_error ha]; exact k⟩
    | ok r' => exact ⟨_, (k.of_append ha).2.2⟩
  | move id m =>
    cases hm : (s.move id m).2.answer with
    | error f => exact ⟨h, by rw [Store.perform, move_error hm]; exact k⟩
    | ok r' =>
      obtain ⟨h', _, k'⟩ := k.of_move hm
      exact ⟨h', k'⟩
  | reopen => exact ⟨h, k.reopened⟩
  | _ => exact ⟨h, k⟩

theorem Keeps.afterAll : ∀ {s : Store} {h : History}, s.Keeps h → ∀ ops : List Operation,
    ∃ h', (s.afterAll ops).Keeps h'
  | _, h, k, [] => ⟨h, k⟩
  | _, _, k, op :: rest => by
    obtain ⟨h', k'⟩ := k.perform op
    exact Keeps.afterAll k' rest

/-- Two stores that keep the same history but for the form of metadata. -/
def Paired (s t : Store) : Prop := ∃ h h', s.Keeps h ∧ t.Keeps h' ∧ h.AsDocuments h'

/-- Answers of one record each are alike if both are failures, or records but for the form of their
metadata. -/
theorem Alike.of_single {x y : Except Failure Record}
    (alike : Alike (x.map fun r => [r]) (y.map fun r => [r])) :
    (∃ f g, x = .error f ∧ y = .error g) ∨
      ∃ r r', x = .ok r ∧ y = .ok r' ∧ r.AsDocument r' := by
  cases x with
  | error f =>
    cases y with
    | error g => exact .inl ⟨f, g, rfl, rfl⟩
    | ok r' => cases alike
  | ok r =>
    cases y with
    | error g => cases alike
    | ok r' => exact .inr ⟨r, r', rfl, rfl, (List.forall₂_cons.mp alike).1⟩

/-- Stores that answer an operation alike keep the same history afterwards if they did before. -/
theorem Paired.perform (g : Paired s t) {op : Operation}
    (alike : Alike (s.perform op).2 (t.perform op).2) :
    Paired (s.perform op).1 (t.perform op).1 := by
  obtain ⟨h, h', k, k', a⟩ := g
  cases op with
  | append r =>
    rw [Store.perform, Store.perform] at alike ⊢
    rcases Alike.of_single alike with ⟨_, _, hs, ht⟩ | ⟨_, _, hs, ht, hr⟩
    · rw [append_error hs, append_error ht]
      exact ⟨h, h', k, k', a⟩
    · exact ⟨_, _, (k.of_append hs).2.2, (k'.of_append ht).2.2, a.append hr⟩
  | move id m =>
    rw [Store.perform, Store.perform] at alike ⊢
    rcases Alike.of_single alike with ⟨_, _, hs, ht⟩ | ⟨_, _, hs, ht, _⟩
    · rw [move_error hs, move_error ht]
      exact ⟨h, h', k, k', a⟩
    · obtain ⟨h₁, hmove, k₁⟩ := k.of_move hs
      obtain ⟨h₂, hmove', k₂⟩ := k'.of_move ht
      obtain ⟨_, _, hmoved, _, a'⟩ := a.move_ok hmove
      rw [hmove'] at hmoved
      cases hmoved
      exact ⟨h₁, h₂, k₁, k₂, a'⟩
  | reopen => exact ⟨h, h', k.reopened, k'.reopened, a⟩
  | _ => exact ⟨h, h', k, k', a⟩

theorem Paired.afterAll : ∀ {s t : Store}, Paired s t → ∀ {ops : List Operation},
    List.Forall₂ Alike (s.answers ops) (t.answers ops) → Paired (s.afterAll ops) (t.afterAll ops)
  | _, _, g, [], _ => g
  | _, _, g, op :: rest, alike => by
    rw [answers_cons, answers_cons, List.forall₂_cons] at alike
    exact Paired.afterAll (g.perform alike.1) alike.2

theorem admissible_fresh {id recipient eventType : String} {now : Instant}
    (year : 1000 ≤ now.date.year) :
    (Operation.append (.fresh id recipient eventType now)).Admissible :=
  ⟨Record.consistent_fresh .., year, [], rfl, rfl⟩

theorem datable_fresh {id recipient eventType : String} {now : Instant}
    (year : 1000 ≤ now.date.year) : (Record.fresh id recipient eventType now).Datable :=
  ⟨year, year, by simp [Record.fresh], by simp [Record.fresh]⟩

/-- The same records are stale in stores that keep the same history but for the form of
metadata. -/
theorem map_id_isStale {records records' : List Record} (a : Instant)
    (hmatch : List.Forall₂ Record.AsDocument records records') :
    (records.filter (History.isStale a)).map Record.id =
      (records'.filter (History.isStale a)).map Record.id := by
  refine Matching.map_eq (fun _ _ ha => ha.id.symm) (Matching.filter ?_ hmatch)
  rintro r r' ⟨ms, _, rfl⟩
  rfl

/-- Whatever was done to the two kinds of store from empty, at whatever time and with whichever
accepted settings: a sweep in memory reports the records that are pending and were created before
the cutoff, in the order in which they were appended. A sweep in a database reports these and the
misread ones, so it is exact precisely if no record is misread; and precisely then it reports the
same identifiers as the one in memory, if the two stores have answered alike before. -/
theorem sweeps_exact_unless_misread {v : Value} {settings : SweeperSettings}
    (accepted : SweeperSettings.ofValue v = .ok settings) (ops : List Operation)
    {now cutoff : Reading} {a : Instant}
    (hcutoff : Sweep.earlier now settings.staleAfterSeconds = .ok cutoff)
    (ha : cutoff.toInstant? = some a) :
    let memory := inMemory.afterAll ops
    let database := inDatabase.afterAll ops
    let sweep := fun s : Store => (Sweep.run s now settings.staleAfterSeconds).answer
    ∃ records records', memory.all.answer = .ok records ∧ database.all.answer = .ok records' ∧
      sweep memory = Sweep.report now cutoff (records.filter (History.isStale a)) ∧
      sweep database = Sweep.report now cutoff
        (records'.filter fun r => History.isStale a r || Database.isMisread a r) ∧
      (sweep database = Sweep.report now cutoff (records'.filter (History.isStale a)) ↔
        ∀ r ∈ records', Database.isMisread a r = false) ∧
      (List.Forall₂ Alike (inMemory.answers ops) (inDatabase.answers ops) →
        ((sweep memory).map Sweep.ids = (sweep database).map Sweep.ids ↔
          ∀ r ∈ records', Database.isMisread a r = false)) := by
  intro memory database sweep
  have pos : (0 : Int) < settings.staleAfterSeconds := by
    exact_mod_cast SweeperSettings.staleAfterSeconds_pos accepted
  obtain ⟨h, k⟩ := keeps_inMemory.afterAll ops
  obtain ⟨h', k'⟩ := keeps_inDatabase.afterAll ops
  have hdatabase : database.isDatabase = true := isDatabase_afterAll inDatabase ops
  have hmemory : sweep memory = Sweep.report now cutoff (h.records.filter (History.isStale a)) :=
    k.sweep_memory (isDatabase_afterAll inMemory ops) pos hcutoff ha
  have hfound : sweep database = Sweep.report now cutoff
      (h'.records.filter fun r => History.isStale a r || Database.isMisread a r) :=
    k'.sweep_database hdatabase pos hcutoff ha
  have created := k'.created_in_four_digits hdatabase
  refine ⟨h.records, h'.records, k.all_records, k'.all_records, hmemory, hfound, ?_, ?_⟩
  · constructor
    · intro exact
      have same := congrArg (Except.map Sweep.ids) (exact.symm.trans hfound)
      exact (Sweep.ids_report_eq_iff created rfl).mp same
    · intro none
      rw [hfound, filter_isStale_or_isMisread none]
  · intro alike
    have empty : Paired inMemory inDatabase := ⟨_, _, keeps_inMemory, keeps_inDatabase, .empty⟩
    obtain ⟨g, g', l, l', paired⟩ := empty.afterAll alike
    have hsame : g.records = h.records := Except.ok.inj (l.all_records.symm.trans k.all_records)
    have hsame' : g'.records = h'.records :=
      Except.ok.inj (l'.all_records.symm.trans k'.all_records)
    rw [History.AsDocuments, hsame, hsame'] at paired
    rw [hmemory, hfound]
    exact Sweep.ids_report_eq_iff created (map_id_isStale a paired)

/-- Ten, half past ten and eleven in the morning of 10 March 2025. -/
def ten : Instant := ⟨63877197600000000, by decide⟩

@[inherit_doc ten]
def halfPastTen : Instant := ⟨63877199400000000, by decide⟩

@[inherit_doc ten]
def eleven : Instant := ⟨63877201200000000, by decide⟩

/-- At eleven, after an hour, a record made at nine is stale, one made at half past ten is not, and
one that was sent is not pending. -/
theorem sweeps_exact_at_eleven :
    let ops := [Operation.append (.fresh "n1" "ada" "offer-letter" Record.morning),
      .append (.fresh "n2" "ada" "offer-letter" halfPastTen),
      .append (.fresh "n3" "ada" "offer-letter" Record.morning),
      .move "n3" ⟨"sent", .ofInstant halfPastTen, none⟩]
    let sweep := fun s : Store => (Sweep.run s (.ofInstant eleven) 3600).answer.map Sweep.ids
    sweep (inMemory.afterAll ops) = .ok ["n1"] ∧ sweep (inDatabase.afterAll ops) = .ok ["n1"] := by
  intro ops sweep
  have accepted : SweeperSettings.ofValue (.dict [(.text "stale_after", .text "1h")]) =
      .ok { staleAfter := "1h", staleAfterSeconds := 3600 } := rfl
  have hcutoff : Sweep.earlier (.ofInstant eleven) (3600 : Nat) = .ok (.ofInstant ten) := rfl
  obtain ⟨records, records', hrecords, _, hmemory, _, _, hsame⟩ :=
    sweeps_exact_unless_misread accepted ops hcutoff (Reading.toInstant?_ofInstant ten)
  have nine : 1000 ≤ Record.morning.date.year := by decide +kernel
  have later : 1000 ≤ halfPastTen.date.year := by decide +kernel
  have alike : List.Forall₂ Alike (inMemory.answers ops) (inDatabase.answers ops) := by
    refine (together_empty.answers_alike_iff ?_).mpr ?_
    · simp only [ops, List.forall_mem_cons]
      exact ⟨admissible_fresh nine, admissible_fresh later, admissible_fresh nine, trivial, by simp⟩
    · simp [ops, NewRecordsDatable, datable_fresh nine, datable_fresh later]
  have usual : ∀ r ∈ records', Database.isMisread ten r = false := by
    have year : ¬ten.date.year < 1000 := by decide +kernel
    simp [Database.isMisread, year]
  have memory : sweep (inMemory.afterAll ops) = .ok ["n1"] := rfl
  exact ⟨memory, ((hsame alike).mpr usual).symm.trans memory⟩

/-- Nine in the morning of 27 February 525. -/
def longAgo : Instant := ⟨16540794000000000, by decide⟩

/-- A record of 2025 is reported as older than 547875 days, but only from a database, although the
two kinds of store have answered alike: the cutoff lies in the year 525, and `2025-` comes before
`525-`. -/
theorem sweeps_apart_in_year_525 :
    let record := Record.fresh "n1" "ada" "offer-letter" Record.morning
    let ops := [Operation.append record]
    let now := Reading.ofInstant Record.morning
    let sweep := fun s : Store => (Sweep.run s now 47336400000).answer.map Sweep.ids
    SweeperSettings.ofValue (.dict [(.text "stale_after", .text "547875d")]) =
        .ok { staleAfter := "547875d", staleAfterSeconds := 47336400000 } ∧
      Sweep.earlier now 47336400000 = .ok (.ofInstant longAgo) ∧
      (Operation.append record).Admissible ∧ ¬record.createdAt < longAgo ∧
      List.Forall₂ Alike (inMemory.answers ops) (inDatabase.answers ops) ∧
      sweep (inMemory.afterAll ops) = .ok [] ∧ sweep (inDatabase.afterAll ops) = .ok ["n1"] := by
  have year : 1000 ≤ Record.morning.date.year := by decide +kernel
  have admissible := @admissible_fresh "n1" "ada" "offer-letter" _ year
  have datable := @datable_fresh "n1" "ada" "offer-letter" _ year
  have alike := (together_empty.answers_alike_iff (List.forall_mem_singleton.mpr admissible)).mpr
    (by simp [NewRecordsDatable, datable])
  exact ⟨rfl, rfl, admissible, by decide, alike, rfl, rfl⟩

end Store

end Courier
