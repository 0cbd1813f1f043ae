import Courier.History.Basic

/-!
# Queries

`History.newestFirst` lists a recipient's records by creation, the latest first; of two records
created at the same instant the one appended later comes first. `History.pendingBefore` lists the
records that are still pending although they were created before a given instant, in the order in
which they were appended.
-/

namespace Courier.History

/-- Whether a record belongs to a recipient; without a recipient every record does. -/
def concerns (recipient : Option String) (r : Record) : Bool :=
  match recipient with
  | none => true
  | some id => r.recipient == id

/-- The records of a recipient, or all of them, in the order in which they were appended. -/
def all (h : History) (recipient : Option String := none) : List Record :=
  h.records.filter (concerns recipient)

/-- Whether one record may stand before another in a list with the latest first. -/
def notEarlier (r s : Record) : Bool := decide (s.createdAt ≤ r.createdAt)

/-- Records by creation, the latest first; of equals the last comes first. -/
def newestFirst (records : List Record) : List Record := records.reverse.mergeSort notEarlier

/-- The first records of a recipient with the latest first. -/
def query (h : History) (recipient : String) (limit : Int) : Except Failure (List Record) :=
  if limit < 0 then .error (.negativeLimit limit)
  else .ok ((newestFirst (h.all (some recipient))).take limit.toNat)

/-- Whether a record is pending and was created before an instant. -/
def isStale (cutoff : Instant) (r : Record) : Bool :=
  r.status == .pending && decide (r.createdAt < cutoff)

/-- The records still pending that were created before an instant. -/
def pendingBefore (h : History) (cutoff : Instant) : List Record :=
  h.records.filter (isStale cutoff)

@[simp] theorem all_none (h : History) : h.all = h.records := by
  simp [all, concerns]

theorem notEarlier_trans (r s t : Record) :
    notEarlier r s = true → notEarlier s t = true → notEarlier r t = true := by
  simp only [notEarlier, decide_eq_true_eq, Instant.le_iff]
  omega

theorem notEarlier_total (r s : Record) : (notEarlier r s || notEarlier s r) = true := by
  simp only [notEarlier, Bool.or_eq_true, decide_eq_true_eq, Instant.le_iff]
  omega

theorem newestFirst_perm (records : List Record) : (newestFirst records).Perm records :=
  (List.mergeSort_perm _ _).trans (List.reverse_perm records)

theorem newestFirst_sorted (records : List Record) :
    (newestFirst records).Pairwise fun r s => s.createdAt ≤ r.createdAt := by
  have h := @List.pairwise_mergeSort _ notEarlier notEarlier_trans notEarlier_total records.reverse
  exact h.imp fun hr => by simpa [notEarlier] using hr

theorem mem_pendingBefore {h : History} {cutoff : Instant} {r : Record} :
    r ∈ h.pendingBefore cutoff ↔
      r ∈ h.records ∧ r.status = .pending ∧ r.createdAt < cutoff := by
  simp [pendingBefore, isStale]

end Courier.History
