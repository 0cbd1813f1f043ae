import Courier.Proofs.History.Growth
import Courier.Proofs.Store.Keeping

/-!
# Runs of a store

A run is a list of requests to append and to move records, in between which anything may begin to
hinder the store. Every state of a run from an empty store keeps a sound history
(`Store.Keeps.run`), and the history of an earlier state grows into that of every later one. Main
statement: `Store.run_grows`, in terms of what the store itself lists.
-/

namespace Courier.Store

/-- What may happen to a store. -/
inductive Call where
  | append (r : Record)
  | move (id : String) (m : Record.Move)
  /-- From now on these failures befall requests. -/
  | hinder (faults : Faults)

/-- Records that are appended fit together. -/
def Call.Valid : Call → Prop
  | .append r => r.Consistent
  | _ => True

/-- The store after a call. -/
def after (s : Store) : Call → Store
  | .append r => (s.append r).1
  | .move id m => (s.move id m).1
  | .hinder faults => { s with faults := faults }

/-- The store after a run of calls. -/
def run (s : Store) (calls : List Call) : Store := calls.foldl after s

theorem run_append (s : Store) (calls more : List Call) :
    s.run (calls ++ more) = (s.run calls).run more := List.foldl_append

variable {s : Store} {h : History}

namespace Keeps

/-- One call lets the history grow, whether it succeeds or fails. -/
theorem after (k : s.Keeps h) (sound : h.Sound) {c : Call} (valid : c.Valid) :
    ∃ h', (s.after c).Keeps h' ∧ h'.Sound ∧ h.Grows h' := by
  cases c with
  | append r =>
    cases ha : (s.append r).2.answer with
    | error f =>
      rw [Store.after, append_error ha]
      exact ⟨h, k, sound, .refl h⟩
    | ok r' =>
      obtain ⟨free, ⟨metadata, rfl⟩, k'⟩ := k.of_append ha
      have c : Record.Consistent { r with metadata := metadata } :=
        ⟨valid.created_le_updated, valid.sentAt_iff, valid.error_iff, valid.deliveredAt_iff⟩
      exact ⟨_, k', sound.append free c, .append h _⟩
  | move id m =>
    cases hm : (s.move id m).2.answer with
    | error f =>
      rw [Store.after, move_error hm]
      exact ⟨h, k, sound, .refl h⟩
    | ok r =>
      obtain ⟨h', hmove, k'⟩ := k.of_move hm
      exact ⟨h', k', sound.move hmove, .move sound.distinct hmove⟩
  | hinder faults => exact ⟨h, k, sound, .refl h⟩

/-- What one call keeps, a run keeps. -/
theorem run {calls : List Call} (k : s.Keeps h) (sound : h.Sound)
    (valid : ∀ c ∈ calls, c.Valid) : ∃ h', (s.run calls).Keeps h' ∧ h'.Sound ∧ h.Grows h' := by
  induction calls generalizing s h with
  | nil => exact ⟨h, k, sound, .refl h⟩
  | cons c rest ih =>
    obtain ⟨h₁, k₁, sound₁, grows₁⟩ := k.after sound (valid c (List.mem_cons_self ..))
    obtain ⟨h₂, k₂, sound₂, grows₂⟩ := ih k₁ sound₁ fun c hc => valid c (List.mem_cons_of_mem _ hc)
    exact ⟨h₂, k₂, sound₂, grows₁.trans grows₂⟩

theorem all_records (k : s.Keeps h) : s.all.answer = .ok h.records := by
  rw [k.all, History.all_none]

/-- There are no objects in the metadata that a database keeps. -/
theorem not_holdsObject (k : s.Keeps h) (database : s.isDatabase = true) {r : Record}
    (hr : r ∈ h.records) : ¬r.HoldsObject := by
  obtain ⟨backing, faults⟩ := s
  cases backing with
  | memory h p => cases database
  | database db =>
    obtain ⟨rows, _, hkept⟩ := k
    obtain ⟨row, _, krow⟩ := Matching.exists_left hkept hr
    exact krow.not_holdsObject

end Keeps

end Courier.Store
