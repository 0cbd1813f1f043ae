import Courier.Proofs.Store.Keeping

/-!
# One record in a store

A store holds a record if looking up the record's identifier leads to it (`Store.Holds`), and, in a
database, its row keeps it. Nothing is said about the other records, so this makes sense of any
store, whatever else is in it. A store holds what it has appended, and goes on to hold a record that
it moves.
-/

namespace Courier

namespace Store

/-- A store holds a record under the record's identifier. -/
def Holds (s : Store) (r : Record) : Prop :=
  match s.backing with
  | .memory h _ => h.find? r.id = some r
  | .database db => ∃ rows row, db.records = some rows ∧
      (rows.find? fun row => row.id == r.id) = some row ∧ row.Keeps r

variable {s : Store} {r r' : Record} {m : Record.Move}

theorem Holds.find? (k : s.Holds r) : (s.find? r.id).answer = .ok (some r) := by
  obtain ⟨backing, faults⟩ := s
  cases backing with
  | memory h p =>
    have hfind : h.find? r.id = some r := k
    simp [Store.find?, hfind]
  | database db =>
    obtain ⟨rows, row, hrows, hfind, hk⟩ := k
    have hfound : db.find? r.id = .ok (some r) := by
      rw [Database.find?, Database.rows, hrows]
      simp only [bind, Except.bind, hfind, hk.read]
      rfl
    simp [Store.find?, hfound]

/-- A store holds what it has appended. -/
theorem holds_of_append (ha : (s.append r).2.answer = .ok r') :
    (s.append r).1.Holds r' ∧ ∃ metadata, r' = { r with metadata := metadata } := by
  obtain ⟨backing, faults⟩ := s
  rcases appends_of_ok ha with ⟨before, ⟨happend, same⟩, after⟩ | ⟨before, happend, after⟩
  · subst before same
    obtain ⟨free, rfl⟩ := History.append_ok_iff.mp happend
    rw [after]
    exact ⟨Matching.find?_append_new free, _, rfl⟩
  · subst before
    obtain ⟨rows, row, _, free, hrow, hread, rfl⟩ := Database.of_append happend
    obtain ⟨hk, ms, hms⟩ := Row.keeps_of_toRecord hrow hread
    have hid : row.id = r.id := by rw [hk.id, hms]; rfl
    rw [after]
    refine ⟨⟨_, row, rfl, ?_, hk⟩, _, hms⟩
    rw [← hk.id]
    exact Matching.find?_append_new (hid ▸ free)

/-- A record that is moved was held, and goes on to be held. -/
theorem Holds.of_move (k : s.Holds r) (hm : (s.move r.id m).2.answer = .ok r') :
    r.after m = .ok r' ∧ (s.move r.id m).1.Holds r' := by
  obtain ⟨backing, faults⟩ := s
  rcases moves_of_ok hm with ⟨before, hmove, after⟩ | ⟨before, hmove, after⟩
  · subst before
    have hfind : History.find? _ r.id = some r := k
    simp only [History.move, hfind] at hmove
    cases hafter : r.after m with
    | error f =>
      rw [hafter] at hmove
      cases hmove
    | ok new =>
      rw [hafter] at hmove
      cases hmove
      have hid := Record.id_of_after hafter
      rw [after]
      exact ⟨rfl, Matching.find?_replace Record.id _ (hid ▸ hfind)⟩
  · subst before
    obtain ⟨rows, row, hrows, hfind, hk⟩ := k
    rw [Database.move_of_keeps hrows hfind hk m] at hmove
    cases hafter : r.after m with
    | error f =>
      rw [hafter] at hmove
      cases hmove
    | ok new =>
      obtain ⟨row', hwritten, hk'⟩ := hk.after hafter
      rw [hafter, Except.bind, hwritten] at hmove
      cases hmove
      have hid : row'.id = r.id := by rw [hk'.id, Record.id_of_after hafter]
      rw [after]
      refine ⟨rfl, _, row', rfl, ?_, hk'⟩
      rw [← hk'.id]
      exact Matching.find?_replace Row.id row' (hid ▸ hfind)

end Store

end Courier
