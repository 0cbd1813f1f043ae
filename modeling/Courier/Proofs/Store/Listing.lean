import Courier.Proofs.History.Order
import Courier.Proofs.Store.Course

/-!
# What a store lists

A store lists all its records in the order in which they were appended, and a query lists the first
of a recipient's records in the one arrangement with the latest first (`Store.Lists`). Requests to
move records neither add to a list nor take from it nor change its order, since what decides a
record's place, its creation and its recipient, stays with it for life.

Against a cutoff of a four-digit year a store finds the records that are pending and were created
before the cutoff, and no others (`Store.FindsPending`). It lists them as they were appended. A
caller may append a record that was created before one that is there already, so this need not be
the order in which they were created (`Store.pending_latest_first`).

Main statements, of every state that either kind of store comes to: `Store.lists_of_reached` and
`Store.pending_of_reached`.
-/

namespace Courier

open List

namespace History

variable {h h' : History} {r r' : Record}

/-- The records of a recipient. -/
def ofRecipient (records : List Record) (recipient : String) : List Record :=
  records.filter fun r => r.recipient == recipient

theorem all_some (h : History) (recipient : String) :
    h.all (some recipient) = ofRecipient h.records recipient := rfl

theorem query_of_nonneg (h : History) (recipient : String) {limit : Int} (nonneg : 0 ≤ limit) :
    h.query recipient limit =
      .ok ((newestFirst (ofRecipient h.records recipient)).take limit.toNat) :=
  if_neg (Int.not_lt.mpr nonneg)

/-! ## Later moments -/

/-- Records belong to the same recipient all their life. -/
theorem concerns_later (later : r.Later r') (recipient : Option String) :
    concerns recipient r = concerns recipient r' := by
  cases recipient with
  | none => rfl
  | some id => rw [concerns, concerns, later.recipient]

/-- Records have the same age all their life. -/
theorem notEarlier_later {s s' : Record} (later : r.Later r') (later' : s.Later s') :
    notEarlier r s = notEarlier r' s' := by
  rw [notEarlier, notEarlier, later.createdAt, later'.createdAt]

variable (later : Forall₂ Record.Later h.records h'.records)

include later

/-- A list shows the same records later on. -/
theorem ids_all_later (recipient : Option String) :
    (h.all recipient).map Record.id = (h'.all recipient).map Record.id :=
  Matching.map_eq (fun _ _ l => l.id.symm)
    (Matching.filter (fun _ _ l => concerns_later l recipient) later)

/-- A query shows the same records later on, in the same order. -/
theorem ids_query_later (recipient : String) (limit : Int) :
    (h.query recipient limit).map (map Record.id) =
      (h'.query recipient limit).map (map Record.id) := by
  have own : Forall₂ Record.Later (h.all (some recipient)) (h'.all (some recipient)) :=
    Matching.filter (fun _ _ l => concerns_later l _) later
  have sorted : Forall₂ Record.Later (newestFirst (h.all (some recipient)))
      (newestFirst (h'.all (some recipient))) :=
    Matching.mergeSort (fun _ _ l _ _ l' => notEarlier_later l l') (forall₂_reverse_iff.mpr own)
  unfold query
  split
  · rfl
  · exact congrArg Except.ok
      (Matching.map_eq (fun _ _ l => l.id.symm) (forall₂_take limit.toNat sorted))

end History

/-- Against a cutoff of a four-digit year no record is misread. -/
theorem Database.isMisread_of_four_digits {cutoff : Instant} (year : 1000 ≤ cutoff.date.year)
    (r : Record) : isMisread cutoff r = false := by
  have : ¬cutoff.date.year < 1000 := Nat.not_lt.mpr year
  simp [isMisread, this]

namespace Store

open History

/-- What a store lists if it keeps these records. -/
structure Lists (s : Store) (records : List Record) : Prop where
  /-- No record is there twice. -/
  nodup : (records.map Record.id).Nodup
  /-- All records are listed as they were appended. -/
  all : s.all.answer = .ok records
  /-- So are the records of a recipient. -/
  all_some : ∀ recipient,
    (s.all (some recipient)).answer = .ok (ofRecipient records recipient)
  /-- A query lists the first records of a recipient's only arrangement with the latest first. -/
  query : ∀ recipient, ∃ newest,
    Arranges (LatestFirst records) newest (ofRecipient records recipient) ∧
      (∀ other, Arranges (LatestFirst records) other (ofRecipient records recipient) →
        other = newest) ∧
      ∀ limit : Int, 0 ≤ limit → limit < 2 ^ 63 → (s.query recipient limit).answer =
        .ok (newest.take (min limit.toNat (ofRecipient records recipient).length))
  /-- What a query lists is the beginning of what a query with a greater limit lists. -/
  query_prefix : ∀ recipient (limit limit' : Int), 0 ≤ limit → limit ≤ limit' → limit' < 2 ^ 63 →
    ∃ first more, (s.query recipient limit).answer = .ok first ∧
      (s.query recipient limit').answer = .ok (first ++ more)
  /-- A query whose limit leaves nothing out lists all records of the recipient. -/
  query_all : ∀ recipient (limit : Int), (ofRecipient records recipient).length ≤ limit →
    limit < 2 ^ 63 → ∃ listed, (s.query recipient limit).answer = .ok listed ∧
      listed ~ ofRecipient records recipient
  query_negative : ∀ recipient (limit : Int), limit < 0 →
    (s.query recipient limit).answer = .error (.negativeLimit limit) ∧
      (Failure.negativeLimit limit).label = "ValueError"
  /-- A request to move a record does not change which records are listed, nor their order. -/
  all_move : ∀ id m recipient, ((s.move id m).1.all recipient).answer.map (map Record.id) =
    (s.all recipient).answer.map (map Record.id)
  query_move : ∀ id m recipient limit,
    ((s.move id m).1.query recipient limit).answer.map (map Record.id) =
      (s.query recipient limit).answer.map (map Record.id)

namespace Keeps

variable {s : Store} {h : History} (k : s.Keeps h)

include k

/-- A query answers what it answers on the history, unless its limit is more than a database can
count to. -/
theorem query_eq (recipient : String) (limit : Int) : (s.query recipient limit).answer =
    if s.isDatabase = true ∧ Database.greatestInteger < limit then .error .hugeLimit
    else h.query recipient limit := by
  by_cases fits : limit ≤ Database.greatestInteger
  · rw [k.query recipient fits, if_neg fun huge => Int.not_lt.mpr fits huge.2]
  · have huge : Database.greatestInteger < limit := Int.not_le.mp fits
    have nonneg : ¬limit < 0 := by
      have : (0 : Int) ≤ Database.greatestInteger := by decide
      omega
    obtain ⟨backing, faults⟩ := s
    cases backing with
    | memory h₀ p =>
      obtain rfl : h₀ = h := k
      rw [if_neg fun database => Bool.false_ne_true database.1, Store.query, if_neg nonneg]
      rfl
    | database db =>
      obtain ⟨rows, hrows, _⟩ := Database.Keeps.exists_rows k
      have refused : db.query recipient limit = .error .hugeLimit := by
        rw [Database.query, hrows]
        exact if_pos huge
      rw [if_pos ⟨rfl, huge⟩, Store.query, if_neg nonneg]
      dsimp only
      rw [refused]
      exact Errand.answer_reply_of_not_driver rfl

theorem query_take (recipient : String) {limit : Int} (nonneg : 0 ≤ limit)
    (fits : limit < 2 ^ 63) : (s.query recipient limit).answer =
      .ok ((newestFirst (ofRecipient h.records recipient)).take limit.toNat) := by
  have fits' : limit ≤ Database.greatestInteger := by
    rw [Database.greatestInteger]
    omega
  rw [k.query recipient fits', query_of_nonneg h recipient nonneg]

/-- A request to move a record leaves the store with the same records, each at the same or a later
moment of its life. -/
theorem move (d : h.Distinct) (id : String) (m : Record.Move) : ∃ h' : History,
    (s.move id m).1.Keeps h' ∧ Forall₂ Record.Later h.records h'.records := by
  cases hm : (s.move id m).2.answer with
  | error f =>
    rw [move_error hm]
    exact ⟨h, k, forall₂_same.mpr fun r _ => Record.Later.refl r⟩
  | ok new =>
    obtain ⟨h', hmove, k'⟩ := k.of_move hm
    exact ⟨h', k', forall₂_later_of_move d hmove⟩

theorem lists (d : h.Distinct) : s.Lists h.records where
  nodup := d
  all := k.all_records
  all_some recipient := k.all (some recipient)
  query recipient := by
    have arranged : Arranges (LatestFirst h.records)
        (newestFirst (ofRecipient h.records recipient)) (ofRecipient h.records recipient) :=
      arranges_newestFirst d.nodup filter_sublist
    refine ⟨_, arranged, fun other a => arranged.unique d.nodup a, fun limit nonneg fits => ?_⟩
    rw [k.query_take recipient nonneg fits, take_eq_take_min, arranged.perm.length_eq]
  query_prefix recipient limit limit' nonneg hle fits := by
    have hle' : limit.toNat ≤ limit'.toNat := Int.toNat_le_toNat hle
    obtain ⟨more, hmore⟩ := take_prefix_take_left
      (l := newestFirst (ofRecipient h.records recipient)) hle'
    refine ⟨_, more, k.query_take recipient nonneg (by omega), ?_⟩
    rw [k.query_take recipient (by omega) fits, hmore]
  query_all recipient limit enough fits := by
    refine ⟨_, k.query_take recipient (by omega) fits, ?_⟩
    have perm := newestFirst_perm (ofRecipient h.records recipient)
    rw [take_of_length_le (by rw [perm.length_eq]; omega)]
    exact perm
  query_negative recipient limit negative := by
    rw [Store.query, if_pos negative]
    exact ⟨rfl, rfl⟩
  all_move id m recipient := by
    obtain ⟨h', k', later⟩ := k.move d id m
    rw [k.all, k'.all]
    exact congrArg Except.ok (ids_all_later later recipient).symm
  query_move id m recipient limit := by
    obtain ⟨h', k', later⟩ := k.move d id m
    rw [k.query_eq, k'.query_eq, isDatabase_move]
    split
    · rfl
    · exact (ids_query_later later recipient limit).symm

end Keeps

/-- Whatever has happened to a store from empty, in memory or in a database, it lists the records
that it has gained: all of them in the order in which they were appended, and in a query a
recipient's with the latest first. -/
theorem lists_of_reached {start : Store} (empty : start = inMemory ∨ start = inDatabase)
    (events : List Event) : ∃ records, Forall₂ Record.Later (start.gained events) records ∧
      (start.through events).Lists records := by
  obtain ⟨h, k, d, later⟩ := reached empty events
  exact ⟨h.records, later, k.lists d⟩

/-- A record of nine is appended between two of ten and is sent. It stays between them
in the list of all records, while a query lists it last and the other two the other way round. -/
theorem lists_of_reached_between_two :
    let first := Record.fresh "n1" "ada" "offer-letter" ten
    let between := Record.fresh "n2" "ada" "offer-letter" Record.morning
    let last := Record.fresh "n3" "ada" "offer-letter" ten
    let sent := between.moved .sent ten none
    let events := [Event.ask (.append first), .ask (.append between), .ask (.append last),
      .ask (.move "n2" ⟨"sent", .ofInstant ten, none⟩)]
    let s := inMemory.through events
    s.all.answer = .ok [first, sent, last] ∧ s.Lists [first, sent, last] ∧
      (s.query "ada" 2).answer = .ok [last, first] ∧
      (s.query "ada" 3).answer = .ok [last, first, sent] := by
  intro first between last sent events s
  have hall : s.all.answer = .ok [first, sent, last] := rfl
  obtain ⟨records, _, lists⟩ := lists_of_reached (.inl rfl) events
  obtain rfl : [first, sent, last] = records := Except.ok.inj (hall.symm.trans lists.all)
  obtain ⟨newest, _, only, hquery⟩ := lists.query "ada"
  have arranged : Arranges (LatestFirst [first, sent, last]) [last, first, sent]
      [first, sent, last] := by
    refine ⟨@perm_append_comm _ [last] [first, sent], ?_⟩
    have same : LatestFirst [first, sent, last] last first := .inr ⟨rfl, by simp [AppendedBefore]⟩
    have later : sent.createdAt < ten := by decide
    simpa using ⟨⟨same, Or.inl later⟩, Or.inl later⟩
  obtain rfl : [last, first, sent] = newest := only _ arranged
  exact ⟨hall, lists, hquery 2 (by decide) (by decide), hquery 3 (by decide) (by decide)⟩

/-! ## Pending records -/

section pending

variable {s start : Store} {h : History} {cutoff : Instant}

/-- What a store finds pending before a cutoff if it keeps these records. -/
structure FindsPending (s : Store) (records : List Record) (cutoff : Instant)
    (pending : List Record) : Prop where
  answer : (s.pendingBefore cutoff).answer = .ok pending
  mem_iff : ∀ r, r ∈ pending ↔ r ∈ records ∧ r.status = .pending ∧ r.createdAt < cutoff
  /-- No record is there twice. -/
  nodup : (pending.map Record.id).Nodup
  /-- The records stand as they were appended. -/
  sublist : pending <+ records
  /-- The oldest comes first exactly if none was appended before one that was created earlier. -/
  oldest_iff : pending.Pairwise (OldestFirst records) ↔
    ∀ r ∈ pending, ∀ s ∈ pending, AppendedBefore records r s → r.createdAt ≤ s.createdAt

namespace Keeps

variable (k : s.Keeps h) (year : 1000 ≤ cutoff.date.year)

include k year

theorem pendingBefore_of_four_digits :
    (s.pendingBefore cutoff).answer = .ok (h.pendingBefore cutoff) := by
  rw [k.pendingBefore]
  simp [Database.isMisread_of_four_digits year, History.pendingBefore]

theorem findsPending (d : h.Distinct) :
    s.FindsPending h.records cutoff (h.pendingBefore cutoff) where
  answer := k.pendingBefore_of_four_digits year
  mem_iff _ := mem_pendingBefore
  nodup := d.sublist ((h.pendingBefore_sublist cutoff).map Record.id)
  sublist := h.pendingBefore_sublist cutoff
  oldest_iff := h.pairwise_oldestFirst_iff cutoff

end Keeps

/-- Whatever has happened to a store from empty, in memory or in a database: before a cutoff of a
four-digit year it finds exactly the pending records that were created earlier, each once and as
they were appended. -/
theorem pending_of_reached (empty : start = inMemory ∨ start = inDatabase) (events : List Event)
    (year : 1000 ≤ cutoff.date.year) : ∃ records pending,
      Forall₂ Record.Later (start.gained events) records ∧
      (start.through events).all.answer = .ok records ∧
      (start.through events).FindsPending records cutoff pending := by
  obtain ⟨h, k, d, later⟩ := reached empty events
  exact ⟨h.records, _, later, k.all_records, k.findsPending year d⟩

/-- Of two records that were created before the cutoff, one has been sent and the other is found. A
third was created at the cutoff. -/
theorem pending_of_reached_at_eleven :
    let waiting := Record.fresh "n1" "ada" "offer-letter" ten
    let events := [Event.ask (.append waiting),
      .ask (.append (.fresh "n2" "ada" "offer-letter" halfPastTen)),
      .ask (.append (.fresh "n3" "ada" "offer-letter" eleven)),
      .ask (.move "n2" ⟨"sent", .ofInstant eleven, none⟩)]
    1000 ≤ eleven.date.year ∧ ∃ records,
      (inMemory.through events).FindsPending records eleven [waiting] := by
  intro waiting events
  have year : 1000 ≤ eleven.date.year := by decide +kernel
  obtain ⟨records, pending, _, _, finds⟩ := pending_of_reached (.inl rfl) events year
  have answer : ((inMemory.through events).pendingBefore eleven).answer = .ok [waiting] := rfl
  obtain rfl : [waiting] = pending := Except.ok.inj (answer.symm.trans finds.answer)
  exact ⟨year, records, finds⟩

/-- A record of ten is appended and then a record of nine. Either kind of store finds both pending
at eleven, the later one first. -/
theorem pending_latest_first :
    let later := Record.fresh "n1" "ada" "offer-letter" ten
    let earlier := Record.fresh "n2" "ada" "offer-letter" Record.morning
    let events := [Event.ask (.append later), .ask (.append earlier)]
    1000 ≤ eleven.date.year ∧
      ((inMemory.through events).pendingBefore eleven).answer = .ok [later, earlier] ∧
      ((inDatabase.through events).pendingBefore eleven).answer = .ok [later, earlier] ∧
      ¬[later, earlier].Pairwise (OldestFirst [later, earlier]) := by
  intro later earlier events
  have year : 1000 ≤ eleven.date.year := by decide +kernel
  have usual : ∀ r ∈ [later, earlier], r.Consistent ∧ r.Datable ∧ r.metadata = [] := by
    simp only [List.forall_mem_cons]
    exact ⟨⟨Record.consistent_fresh .., datable_fresh (by decide +kernel), rfl⟩,
      ⟨Record.consistent_fresh .., datable_fresh (by decide +kernel), rfl⟩, by simp⟩
  have found : ∀ start, start = inMemory ∨ start = inDatabase →
      ((start.through events).pendingBefore eleven).answer = .ok [later, earlier] :=
    fun start empty => (keeps_of_appends empty usual (by decide)).pendingBefore_of_four_digits year
  refine ⟨year, found _ (.inl rfl), found _ (.inr rfl), ?_⟩
  have younger : ¬later.createdAt < earlier.createdAt := by decide
  have other : later.createdAt ≠ earlier.createdAt := by decide
  simp [OldestFirst, younger, other]

end pending

end Store

end Courier
