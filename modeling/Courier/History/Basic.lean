import Courier.Record.Transition

/-!
# Histories

A history is the list of records in the order in which they were appended. Records are never
removed, and no two have the same identifier. A record changes only by moving forward in its life.

`History.after` is the history after a request; a request that fails leaves no history at all, so
the old one stays. Queries are in `Courier.History.Query`.
-/

namespace Courier

/-- Records in the order in which they were appended. -/
structure History where
  records : List Record := []
deriving Repr, Inhabited

namespace History

/-- The record with an identifier. -/
def find? (h : History) (id : String) : Option Record := h.records.find? fun r => r.id == id

/-- Whether an identifier is taken. -/
def has (h : History) (id : String) : Bool := h.records.any fun r => r.id == id

/-- The count of records. -/
def size (h : History) : Nat := h.records.length

/-- The history with a record appended, unless its identifier is taken. -/
def append (h : History) (r : Record) : Except Failure History :=
  if h.has r.id then .error (.duplicate r.id) else .ok ⟨h.records ++ [r]⟩

/-- The records with one of them replaced by a record of the same identifier. -/
def replaced (records : List Record) (new : Record) : List Record :=
  records.map fun r => if r.id == new.id then new else r

/-- The history after a request to move a record, with the record as it is now. -/
def move (h : History) (id : String) (m : Record.Move) : Except Failure (History × Record) :=
  match h.find? id with
  | none => .error (.notFound id)
  | some r => (r.after m).map fun new => (⟨replaced h.records new⟩, new)

/-- No two records have the same identifier. -/
def Distinct (h : History) : Prop := (h.records.map Record.id).Nodup

/-! ## Lemmas -/

theorem has_iff {h : History} {id : String} : h.has id = true ↔ ∃ r ∈ h.records, r.id = id := by
  simp [has]

theorem mem_of_find? {h : History} {id : String} {r : Record} (hf : h.find? id = some r) :
    r ∈ h.records := List.mem_of_find?_eq_some hf

theorem id_of_find? {h : History} {id : String} {r : Record} (hf : h.find? id = some r) :
    r.id = id := by
  simpa using List.find?_some hf

theorem append_ok_iff {h h' : History} {r : Record} :
    h.append r = .ok h' ↔ h.has r.id = false ∧ h' = ⟨h.records ++ [r]⟩ := by
  unfold append
  split
  · rename_i taken
    simp [taken]
  · rename_i free
    simp [free, eq_comm]

theorem map_id_replaced (records : List Record) (new : Record) :
    (replaced records new).map Record.id = records.map Record.id := by
  simp only [replaced, List.map_map]
  refine List.map_congr_left fun r _ => ?_
  by_cases h : r.id = new.id <;> simp [h]

theorem Distinct.append {h h' : History} {r : Record} (d : h.Distinct)
    (ha : h.append r = .ok h') : h'.Distinct := by
  obtain ⟨free, rfl⟩ := append_ok_iff.mp ha
  have fresh : r.id ∉ h.records.map Record.id := by
    intro hm
    obtain ⟨s, hs, he⟩ := List.mem_map.mp hm
    have := has_iff.mpr ⟨s, hs, he⟩
    simp [free] at this
  unfold Distinct at *
  rw [List.map_append, List.nodup_append]
  exact ⟨d, by simp, by
    intro a ha b hb
    simp only [List.map_cons, List.map_nil, List.mem_singleton] at hb
    subst hb
    rintro rfl
    exact fresh ha⟩

theorem Distinct.move {h h' : History} {id : String} {m : Record.Move} {r : Record}
    (d : h.Distinct) (hm : h.move id m = .ok (h', r)) : h'.Distinct := by
  unfold History.move at hm
  split at hm
  · simp at hm
  · rename_i old _
    cases hn : old.after m with
    | error f => simp [hn, Except.map] at hm
    | ok new =>
      simp only [hn, Except.map, Except.ok.injEq, Prod.mk.injEq] at hm
      obtain ⟨rfl, rfl⟩ := hm
      unfold Distinct at *
      rwa [map_id_replaced]

end History

end Courier
