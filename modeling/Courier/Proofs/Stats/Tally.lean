import Courier.Dispatch.Basic
import Courier.Proofs.Stats.Rate
import Courier.Proofs.Store.Course
import Mathlib.Algebra.BigOperators.Group.Finset.Piecewise
import Mathlib.Algebra.BigOperators.Ring.Finset

/-!
# Counting records

Statistics are counted in one pass. A tally is right about the records seen so far (`Tally.Counts`),
one more record leaves it right (`Tally.Counts.add`), and so the statistics are right about all
records (`Stats.tells_ofRecords`): every counter shows how many records it counts, no record is lost
between the counters, and there is a rate.

What a counter shows is therefore a count of a list (`Stats.count_ofRecords`), which neither depends
on the order of the records nor on how they are cut into parts: along a list, or by recipient
(`Stats.sum_countP`).

Main statement: `Stats.ofRecords_tells`.
-/

namespace Courier

namespace Stats

variable {records seen more : List Record}

/-! ## What is counted -/

/-- The count of records with a status. -/
def countStatus (status : Status) (records : List Record) : ℕ :=
  records.countP fun r => r.status == status

/-- The count of records of an event type. -/
def countType (eventType : String) (records : List Record) : ℕ :=
  records.countP fun r => r.eventType == eventType

/-- The count of records of event types that are not tracked. -/
def countUntracked (records : List Record) : ℕ :=
  records.countP fun r => !Event.tracked.contains r.eventType

/-- Statistics whose counters show the counts of some records. -/
structure Counts (s : Stats) (records : List Record) : Prop where
  total : s.total = records.length
  sent : s.sent = countStatus .sent records
  failed : s.failed = countStatus .failed records
  pending : s.pending = countStatus .pending records
  byType : s.byType = Event.tracked.map fun t => (t, (countType t records : ℤ))

/-- What statistics tell of some records. -/
structure Tells (s : Stats) (records : List Record) : Prop extends s.Counts records where
  /-- Every record has been counted by its status. -/
  statuses : s.total = s.sent + s.failed + s.pending + countStatus .delivered records
  /-- Every record has been counted by its type, if that is tracked. -/
  types : (s.byType.map Prod.snd).sum + countUntracked records = s.total
  /-- There is a rate, of those that reached the transport. -/
  rate : Rate.percent? (s.sent + countStatus .delivered records) s.total = some s.deliveryRate

/-- A counter of statistics. -/
inductive Counter where
  | total
  | sent
  | failed
  | pending
  | ofType (eventType : String)

/-- What a counter shows. There is nothing to show for a type that is not tracked. -/
def count (s : Stats) : Counter → ℤ
  | .total => s.total
  | .sent => s.sent
  | .failed => s.failed
  | .pending => s.pending
  | .ofType t => (s.byType.lookup t).getD 0

/-- Whether a counter counts a record. -/
def Counter.counts : Counter → Record → Bool
  | .total, _ => true
  | .sent, r => r.status == .sent
  | .failed, r => r.status == .failed
  | .pending, r => r.status == .pending
  | .ofType t, r => Event.tracked.contains t && r.eventType == t

/-! ## One pass -/

theorem countStatus_concat (status : Status) (seen : List Record) (r : Record) :
    countStatus status (seen ++ [r]) =
      countStatus status seen + if r.status = status then 1 else 0 := by
  simp [countStatus, List.countP_cons]

theorem countType_concat (eventType : String) (seen : List Record) (r : Record) :
    countType eventType (seen ++ [r]) =
      countType eventType seen + if r.eventType = eventType then 1 else 0 := by
  simp [countType, List.countP_cons]

namespace Tally

/-- A tally that is right about the records seen so far. -/
structure Counts (t : Tally) (seen : List Record) : Prop extends t.toStats.Counts seen where
  delivered : t.delivered = countStatus .delivered seen

variable {t : Tally}

/-- One more record adds to the counter of its status. -/
theorem addStatus_eq (t : Tally) (status : Status) : t.addStatus status = { t with
    sent := t.sent + if status = .sent then 1 else 0
    failed := t.failed + if status = .failed then 1 else 0
    pending := t.pending + if status = .pending then 1 else 0
    delivered := t.delivered + if status = .delivered then 1 else 0 } := by
  cases status <;> simp [addStatus]

/-- One more record adds to the counter of its type, if there is one. -/
theorem addType_eq {f : String → ℤ} (h : t.byType = Event.tracked.map fun k => (k, f k))
    (eventType : String) : t.addType eventType = { t with
      byType := Event.tracked.map fun k => (k, f k + if eventType = k then 1 else 0) } := by
  unfold addType
  split
  · rw [h, List.map_map]
    congr 2
    refine List.map_congr_left fun k _ => ?_
    by_cases same : k = eventType
    · simp [same]
    · simp [same, Ne.symm same]
  · rename_i untracked
    have other : ∀ k ∈ Event.tracked, (k, f k + if eventType = k then 1 else 0) = (k, f k) := by
      intro k hk
      have : eventType ≠ k := by
        rintro rfl
        exact untracked (List.contains_iff_mem.mpr hk)
      simp [this]
    rw [List.map_congr_left other, ← h]

namespace Counts

theorem empty : Counts {} [] where
  total := rfl
  sent := rfl
  failed := rfl
  pending := rfl
  byType := rfl
  delivered := rfl

theorem add (c : t.Counts seen) (r : Record) : (t.add r).Counts (seen ++ [r]) := by
  have hadd : t.add r = _ := addType_eq (by rw [addStatus_eq]; exact c.byType) r.eventType
  rw [hadd, addStatus_eq]
  constructor
  · constructor
    · simp [c.total]
    · simp [c.sent, countStatus_concat]
    · simp [c.failed, countStatus_concat]
    · simp [c.pending, countStatus_concat]
    · simp [countType_concat]
  · simp [c.delivered, countStatus_concat]

theorem foldl : ∀ {t : Tally} {seen : List Record}, t.Counts seen → ∀ more : List Record,
    (more.foldl Tally.add t).Counts (seen ++ more)
  | _, _, c, [] => by simpa using c
  | _, seen, c, r :: rest => by simpa using (c.add r).foldl rest

end Counts

end Tally

/-! ## Counts by the value of a key -/

/-- Counted by the value of a key, one value at a time, every record is counted once. -/
theorem sum_countP {α : Type*} [DecidableEq α] (key : Record → α) (values : Finset α)
    (p : Record → Bool) (records : List Record) :
    ∑ v ∈ values, records.countP (fun r => p r && key r == v) =
      records.countP fun r => p r && decide (key r ∈ values) := by
  induction records with
  | nil => simp
  | cons r rest ih =>
    simp only [List.countP_cons, Finset.sum_add_distrib, ih]
    by_cases hp : p r <;> simp [hp]

theorem length_eq_statuses (records : List Record) : records.length =
    countStatus .sent records + countStatus .failed records + countStatus .pending records +
      countStatus .delivered records := by
  have h := sum_countP Record.status Status.all.toFinset (fun _ => true) records
  have every : ∀ r ∈ records, (true && decide (r.status ∈ Status.all.toFinset)) = true :=
    fun r _ => by cases r.status <;> rfl
  rw [List.countP_eq_length.mpr every] at h
  rw [← h]
  simp [Status.all, countStatus]
  omega

theorem tracked_nodup : Event.tracked.Nodup := by decide

theorem length_eq_types (records : List Record) : records.length =
    (Event.tracked.map fun t => countType t records).sum + countUntracked records := by
  have h := sum_countP Record.eventType Event.tracked.toFinset (fun _ => true) records
  rw [List.sum_toFinset _ tracked_nodup] at h
  rw [List.length_eq_countP_add_countP fun r => Event.tracked.contains r.eventType]
  congr 1
  · simpa [countType, eq_comm] using h
  · simp [countUntracked]

/-! ## Statistics -/

theorem ofRecords_eq (records : List Record) : ofRecords records = {
    total := records.length
    sent := countStatus .sent records
    failed := countStatus .failed records
    pending := countStatus .pending records
    byType := Event.tracked.map fun t => (t, (countType t records : ℤ))
    deliveryRate := (Rate.percent?
      ((countStatus .sent records : ℤ) + countStatus .delivered records) records.length).getD
        .zero } := by
  have c : (records.foldl Tally.add {}).Counts records := Tally.Counts.empty.foldl records
  simp only [ofRecords, c.total, c.sent, c.failed, c.pending, c.byType, c.delivered]

/-- Statistics tell of all records, whatever they are. -/
theorem tells_ofRecords (records : List Record) : (ofRecords records).Tells records := by
  have c : (ofRecords records).Counts records := by
    rw [ofRecords_eq]
    exact ⟨rfl, rfl, rfl, rfl, rfl⟩
  have statuses := length_eq_statuses records
  have fewer : countStatus .sent records + countStatus .delivered records ≤ records.length := by
    omega
  refine ⟨c, ?_, ?_, ?_⟩
  · rw [c.total, c.sent, c.failed, c.pending]
    exact_mod_cast statuses
  · rw [c.total, c.byType, length_eq_types, List.map_map]
    simp [Function.comp_def, Nat.cast_list_sum]
  · obtain ⟨rate, hrate⟩ := Rate.exists_percent? fewer
    push_cast at hrate
    rw [c.sent, c.total, ofRecords_eq]
    simp only [hrate, Option.getD_some]

theorem lookup_map_self {keys : List String} (f : String → ℤ) (k : String) :
    ((keys.map fun t => (t, f t)).lookup k).getD 0 = if keys.contains k then f k else 0 := by
  induction keys with
  | nil => rfl
  | cons t rest ih =>
    rw [List.map_cons, List.lookup_cons, List.contains_cons]
    by_cases h : k = t
    · simp [h]
    · rw [beq_false_of_ne h, Bool.false_or, ← ih]

/-- A counter shows how many records it counts. -/
theorem count_ofRecords (records : List Record) (c : Counter) :
    (ofRecords records).count c = records.countP c.counts := by
  have tells := tells_ofRecords records
  cases c with
  | total =>
    rw [count, tells.total, ← List.countP_true]
    rfl
  | sent => exact tells.sent
  | failed => exact tells.failed
  | pending => exact tells.pending
  | ofType t =>
    show _ = ((records.countP fun r => Event.tracked.contains t && r.eventType == t : ℕ) : ℤ)
    rw [count, tells.byType, lookup_map_self]
    cases Event.tracked.contains t <;> simp [countType]

/-- The order of the records makes no difference. -/
theorem ofRecords_perm (perm : records.Perm more) : ofRecords records = ofRecords more := by
  have countP (p : Record → Bool) : records.countP p = more.countP p := perm.countP_eq p
  simp only [ofRecords_eq, countStatus, countType, countP, perm.length_eq]

/-- A counter of records in two parts shows the sum of what it shows of the parts. -/
theorem count_append (records more : List Record) (c : Counter) :
    (ofRecords (records ++ more)).count c =
      (ofRecords records).count c + (ofRecords more).count c := by
  simp only [count_ofRecords, List.countP_append, Nat.cast_add]

/-- A counter of all records shows the sum of what it shows of each recipient's. -/
theorem count_eq_sum_recipients (records : List Record) (c : Counter) :
    (ofRecords records).count c = ∑ recipient ∈ (records.map Record.recipient).toFinset,
      (ofRecords (records.filter (History.concerns (some recipient)))).count c := by
  have own (recipient : String) :
      (records.filter (History.concerns (some recipient))).countP c.counts =
        records.countP fun r => c.counts r && r.recipient == recipient :=
    List.countP_filter
  have every : (records.countP fun r =>
      c.counts r && decide (r.recipient ∈ (records.map Record.recipient).toFinset)) =
        records.countP c.counts := by
    refine List.countP_congr fun r hr => ?_
    have : r.recipient ∈ records.map Record.recipient := List.mem_map_of_mem hr
    simp [this]
  simp only [count_ofRecords, own]
  rw [← Nat.cast_sum, sum_countP, every]

/-- The counts by type are what the counters of the tracked types show. -/
theorem byType_ofRecords (records : List Record) : (ofRecords records).byType =
    Event.tracked.map fun t => (t, (ofRecords records).count (.ofType t)) := by
  rw [(tells_ofRecords records).byType]
  refine List.map_congr_left fun t ht => ?_
  have tracked : Event.tracked.contains t = true := List.contains_iff_mem.mpr ht
  rw [count, (tells_ofRecords records).byType, lookup_map_self, if_pos tracked]

/-- The statistics of a dispatcher are those of the records that its store keeps. -/
theorem answer_stats {d : Dispatcher} {h : History} (k : d.store.Keeps h)
    (recipient : Option String) :
    (d.stats recipient).answer = .ok (ofRecords (h.all recipient)) := by
  rw [Dispatcher.stats, Reply.map, k.all]
  rfl

/-- Statistics tell of the records they count, whatever their order, and those of records in two
parts are the sums of those of the parts. Whatever has happened to a dispatcher's store, its
counters show of all records the sum of what they show of each recipient's. -/
theorem ofRecords_tells :
    (∀ records : List Record, (ofRecords records).Tells records) ∧
    (∀ records more : List Record, records.Perm more → ofRecords records = ofRecords more) ∧
    (∀ records more : List Record,
      (∀ c, (ofRecords (records ++ more)).count c =
        (ofRecords records).count c + (ofRecords more).count c) ∧
      (ofRecords (records ++ more)).byType = Event.tracked.map fun t =>
        (t, (ofRecords records).count (.ofType t) + (ofRecords more).count (.ofType t))) ∧
    ∀ start, start = Store.inMemory ∨ start = Store.inDatabase → ∀ (events : List Store.Event)
      (d : Dispatcher), d.store = start.through events →
        ∃ (records : List Record) (whole : Stats) (own : String → Stats),
          d.store.all.answer = .ok records ∧ (d.stats none).answer = .ok whole ∧
          (∀ recipient, (d.stats (some recipient)).answer = .ok (own recipient)) ∧
          ∀ c, whole.count c =
            ∑ recipient ∈ (records.map Record.recipient).toFinset, (own recipient).count c := by
  refine ⟨tells_ofRecords, fun _ _ => ofRecords_perm, fun records more => ⟨count_append _ _, ?_⟩,
    fun start empty events d hd => ?_⟩
  · rw [byType_ofRecords]
    simp only [count_append]
  · obtain ⟨h, k, -, -⟩ := Store.reached empty events
    rw [← hd] at k
    refine ⟨h.records, ofRecords h.records, fun recipient => ofRecords (h.all (some recipient)),
      ?_, ?_, fun recipient => answer_stats k (some recipient),
      count_eq_sum_recipients h.records⟩
    · rw [k.all, History.all_none]
    · rw [answer_stats k, History.all_none]

/-- Two recipients have a record each, one of them of a type that is not tracked. -/
theorem ofRecords_tells_two_recipients :
    let first := Record.fresh "n1" "ada" "offer-letter" Store.ten
    let second := Record.fresh "n2" "bob" "newsletter" Store.ten
    let events := [Store.Event.ask (.append first), .ask (.append second)]
    let d : Dispatcher := { store := Store.inMemory.through events }
    [first, second].Perm [second, first] ∧
      ofRecords [first, second] = ofRecords [second, first] ∧
      ∃ whole ada bob, (d.stats none).answer = .ok whole ∧
        (d.stats (some "ada")).answer = .ok ada ∧ (d.stats (some "bob")).answer = .ok bob ∧
        whole.total = 2 ∧ ∀ c, whole.count c = ada.count c + bob.count c := by
  intro first second events d
  obtain ⟨-, perm, -, sums⟩ := ofRecords_tells
  obtain ⟨records, whole, own, hall, hwhole, hown, hsum⟩ := sums _ (.inl rfl) events d rfl
  have kept : d.store.all.answer = .ok [first, second] := rfl
  obtain rfl : [first, second] = records := Except.ok.inj (kept.symm.trans hall)
  have counted : (d.stats none).answer = .ok (ofRecords [first, second]) := rfl
  obtain rfl : ofRecords [first, second] = whole := Except.ok.inj (counted.symm.trans hwhole)
  have swapped : [first, second].Perm [second, first] := .swap _ _ _
  refine ⟨swapped, perm _ _ swapped, _, _, _, hwhole, hown "ada", hown "bob", rfl, fun c => ?_⟩
  rw [hsum]
  exact Finset.sum_pair (show first.recipient ≠ second.recipient by decide)

end Stats

end Courier
