import Courier.History.Query
import Mathlib.Data.List.Nodup

/-!
# The order of records

Records have two orders: the one in which they were appended, and that of their creation, where the
first decides between records that were created at the same instant. An arrangement of records by
such an order lists each of them once, and there is only one (`History.Arranges.unique`).

What a query lists is the arrangement with the latest record first (`History.arranges_newestFirst`).
Pending records are listed as they were appended, which is the arrangement with the oldest first
exactly if none of them was appended before one that was created earlier
(`History.pairwise_oldestFirst_iff`).
-/

namespace Courier.History

open List

variable {records own listed : List Record} {r s : Record}

/-- Of two records, one was appended before the other. -/
def AppendedBefore (records : List Record) (r s : Record) : Prop := [r, s] <+ records

/-- Of two records, the one that was created later comes first; of two created at the same instant
the one that was appended later does. -/
def LatestFirst (records : List Record) (r s : Record) : Prop :=
  s.createdAt < r.createdAt ∨ s.createdAt = r.createdAt ∧ AppendedBefore records s r

/-- Of two records, the one that was created earlier comes first; of two created at the same instant
the one that was appended earlier does. -/
def OldestFirst (records : List Record) (r s : Record) : Prop :=
  r.createdAt < s.createdAt ∨ r.createdAt = s.createdAt ∧ AppendedBefore records r s

/-- A list has the same records as another, each as often, and in a given order. -/
structure Arranges (order : Record → Record → Prop) (listed own : List Record) : Prop where
  perm : listed ~ own
  ordered : listed.Pairwise order

/-! ## Which record was appended first -/

theorem Distinct.nodup {h : History} (d : h.Distinct) : h.records.Nodup := d.of_map Record.id

namespace AppendedBefore

theorem mem_right (b : AppendedBefore records r s) : s ∈ records := b.subset (by simp)

theorem mono (b : AppendedBefore own r s) (sub : own <+ records) : AppendedBefore records r s :=
  b.trans sub

/-- Of two records, only one was appended before the other. -/
theorem asymm (nodup : records.Nodup) (b : AppendedBefore records r s) :
    ¬AppendedBefore records s r := by
  induction records with
  | nil => cases b
  | cons x rest ih =>
    have fresh : x ∉ rest := nodup.notMem
    intro b'
    cases b with
    | cons _ b =>
      cases b' with
      | cons _ b' => exact ih nodup.of_cons b b'
      | cons_cons _ _ => exact fresh (mem_right b)
    | cons_cons _ b =>
      cases b' with
      | cons _ b' => exact fresh (mem_right b')
      | cons_cons _ _ => exact fresh (singleton_sublist.mp b)

/-- Of two records, one was appended before the other. -/
theorem total (hr : r ∈ records) (hs : s ∈ records) (hne : r ≠ s) :
    AppendedBefore records r s ∨ AppendedBefore records s r := by
  induction records with
  | nil => cases hr
  | cons x rest ih =>
    rcases mem_cons.mp hr with rfl | hr'
    · have hs' : s ∈ rest := (mem_cons.mp hs).resolve_left (Ne.symm hne)
      exact .inl (.cons_cons r (singleton_sublist.mpr hs'))
    · rcases mem_cons.mp hs with rfl | hs'
      · exact .inr (.cons_cons s (singleton_sublist.mpr hr'))
      · exact (ih hr' hs').imp (.cons x) (.cons x)

end AppendedBefore

/-! ## Arrangements -/

/-- Of two records, only one comes first. -/
theorem LatestFirst.asymm (nodup : records.Nodup) (b : LatestFirst records r s) :
    ¬LatestFirst records s r := by
  simp only [LatestFirst, Instant.lt_iff] at b ⊢
  rintro (later | ⟨same, b'⟩)
  · rcases b with b | ⟨same, _⟩
    · omega
    · rw [same] at later
      omega
  · rcases b with b | ⟨_, b⟩
    · rw [same] at b
      omega
    · exact b.asymm nodup b'

/-- Records have one arrangement with the latest first. -/
theorem Arranges.unique (nodup : records.Nodup) {listed' : List Record}
    (a : Arranges (LatestFirst records) listed own)
    (a' : Arranges (LatestFirst records) listed' own) : listed' = listed :=
  Perm.eq_of_pairwise (fun _ _ _ _ b b' => absurd b' (b.asymm nodup)) a'.ordered a.ordered
    (a'.perm.trans a.perm.symm)

/-- A query arranges records with the latest first. -/
theorem arranges_newestFirst (nodup : records.Nodup) (sub : own <+ records) :
    Arranges (LatestFirst records) (newestFirst own) own := by
  refine ⟨newestFirst_perm own, pairwise_iff_forall_sublist.mpr fun {r s} hpair => ?_⟩
  have nodup' : (newestFirst own).Nodup := (newestFirst_perm own).nodup_iff.mpr (nodup.sublist sub)
  have hle : s.createdAt ≤ r.createdAt :=
    pairwise_iff_forall_sublist.mp (newestFirst_sorted own) hpair
  by_cases hlt : s.createdAt < r.createdAt
  · exact .inl hlt
  · have same := Instant.eq_of_le_of_not_lt hle hlt
    refine .inr ⟨same, ?_⟩
    have hne : r ≠ s := by simpa using nodup'.sublist hpair
    have hmem : ∀ x ∈ [r, s], x ∈ own := fun x hx =>
      (newestFirst_perm own).mem_iff.mp (hpair.subset hx)
    rcases AppendedBefore.total (hmem r (by simp)) (hmem s (by simp)) hne with b | b
    · -- sorting leaves records of the same instant as they stand in the reversed list
      have hrev : [s, r] <+ own.reverse := reverse_sublist.mpr b
      have hback : [s, r] <+ newestFirst own :=
        pair_sublist_mergeSort notEarlier_trans notEarlier_total
          (by simp [notEarlier, same, Instant.le_iff]) hrev
      exact absurd hback (AppendedBefore.asymm nodup' hpair)
    · exact b.mono sub

/-! ## Pending records -/

theorem pendingBefore_sublist (h : History) (cutoff : Instant) :
    h.pendingBefore cutoff <+ h.records := filter_sublist

/-- Pending records are listed with the oldest first exactly if none of them was appended before one
that was created earlier. -/
theorem pairwise_oldestFirst_iff (h : History) (cutoff : Instant) :
    (h.pendingBefore cutoff).Pairwise (OldestFirst h.records) ↔
      ∀ r ∈ h.pendingBefore cutoff, ∀ s ∈ h.pendingBefore cutoff,
        AppendedBefore h.records r s → r.createdAt ≤ s.createdAt := by
  constructor
  · intro ordered r hr s hs before
    -- both are pending, so they are listed in the order in which they were appended
    have hpair : [r, s] <+ h.pendingBefore cutoff := by
      have := Sublist.filter (isStale cutoff) before
      rwa [filter_eq_self.mpr] at this
      intro x hx
      have hx' : x ∈ h.pendingBefore cutoff := by
        rcases mem_cons.mp hx with rfl | hx
        · exact hr
        · rwa [mem_singleton.mp hx]
      exact (mem_filter.mp hx').2
    rcases pairwise_iff_forall_sublist.mp ordered hpair with hlt | ⟨same, _⟩
    · exact Instant.le_of_lt hlt
    · rw [same]
      exact Nat.le_refl _
  · intro ages
    refine pairwise_iff_forall_sublist.mpr fun {r s} hpair => ?_
    have before : AppendedBefore h.records r s := hpair.trans (h.pendingBefore_sublist cutoff)
    have hle := ages r (hpair.subset (by simp)) s (hpair.subset (by simp)) before
    by_cases hlt : r.createdAt < s.createdAt
    · exact .inl hlt
    · exact .inr ⟨Instant.eq_of_le_of_not_lt hle hlt, before⟩

end Courier.History
