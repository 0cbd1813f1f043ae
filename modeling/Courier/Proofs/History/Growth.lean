import Courier.History.Basic
import Courier.Proofs.Matching
import Courier.Proofs.Record.Life
import Mathlib.Data.List.Nodup

/-!
# Histories grow

A history grows into another if its records come first there, in the same order, each at the same
or a later moment of its life (`History.Grows`). Appending and moving let a history grow and keep
it sound (`History.Sound`): identifiers stay distinct and every record stays consistent.
-/

namespace Courier.History

/-- Nothing of a history is lost: its records come first, in their order, and have only moved on. -/
def Grows (h h' : History) : Prop :=
  ∃ older newer, h'.records = older ++ newer ∧ List.Forall₂ Record.Later h.records older

/-- A history without two records of one identifier and without an inconsistent record. -/
structure Sound (h : History) : Prop where
  distinct : h.Distinct
  consistent : ∀ r ∈ h.records, r.Consistent

variable {h h' h'' : History} {id : String} {m : Record.Move} {r r' : Record}

namespace Grows

theorem refl (h : History) : h.Grows h :=
  ⟨h.records, [], by simp, List.forall₂_same.mpr fun r _ => Record.Later.refl r⟩

theorem trans (g : h.Grows h') (g' : h'.Grows h'') : h.Grows h'' := by
  obtain ⟨older, newer, hrecords, hold⟩ := g
  obtain ⟨older', newer', hrecords', hold'⟩ := g'
  rw [hrecords] at hold'
  obtain ⟨first, second, rfl, hfirst, _⟩ := Matching.of_append_left hold'
  refine ⟨first, second ++ newer', by rw [hrecords', List.append_assoc], ?_⟩
  exact Matching.trans hold hfirst fun _ _ _ => Record.Later.trans

/-- A record of a history is there, at the same or a later moment, in what the history grows
into. -/
theorem exists_later (g : h.Grows h') (hr : r ∈ h.records) : ∃ r' ∈ h'.records, r.Later r' := by
  obtain ⟨older, newer, hrecords, hold⟩ := g
  obtain ⟨r', hr', hlater⟩ := Matching.exists_right hold hr
  exact ⟨r', by rw [hrecords]; exact List.mem_append_left _ hr', hlater⟩

/-- An identifier that is new later on is new before. -/
theorem has_eq_false (g : h.Grows h') (free : h'.has id = false) : h.has id = false := by
  by_contra taken
  obtain ⟨r, hr, hid⟩ := has_iff.mp (by simpa using taken : h.has id = true)
  obtain ⟨r', hr', hlater⟩ := g.exists_later hr
  have taken' := has_iff.mpr ⟨r', hr', hlater.id.trans hid⟩
  rw [free] at taken'
  cases taken'

theorem append (h : History) (r : Record) : h.Grows ⟨h.records ++ [r]⟩ :=
  ⟨h.records, [r], rfl, List.forall₂_same.mpr fun r _ => Record.Later.refl r⟩

end Grows

/-- An identifier is new exactly if no record is found by it. -/
theorem has_eq_false_iff : h.has id = false ↔ h.find? id = none := by
  simp [has, find?]

/-! ## Moving a record -/

theorem move_of_find? (m : Record.Move) (hfind : h.find? id = some r) :
    h.move id m = (r.after m).map fun new => (⟨replaced h.records new⟩, new) := by
  rw [move, hfind]

/-- What a move makes of a history. -/
theorem of_move (hm : h.move id m = .ok (h', r')) :
    ∃ r, h.find? id = some r ∧ r.after m = .ok r' ∧ h' = ⟨replaced h.records r'⟩ := by
  unfold move at hm
  split at hm
  · cases hm
  · rename_i r hfind
    cases hafter : r.after m with
    | error f =>
      rw [hafter] at hm
      cases hm
    | ok new =>
      rw [hafter] at hm
      cases hm
      exact ⟨r, hfind, hafter, rfl⟩

/-- The record that was moved is found. -/
theorem find?_of_move (hm : h.move id m = .ok (h', r')) : h'.find? id = some r' := by
  obtain ⟨r, hfind, hafter, rfl⟩ := of_move hm
  have hid : r'.id = id := (Record.id_of_after hafter).trans (id_of_find? hfind)
  subst hid
  exact Matching.find?_replace Record.id r' hfind

/-- Moving a record does not change what is found under another identifier. -/
theorem find?_of_move_of_ne {other : String} (hm : h.move id m = .ok (h', r'))
    (hne : id ≠ other) : h'.find? other = h.find? other := by
  obtain ⟨r, hfind, hafter, rfl⟩ := of_move hm
  have hid : r'.id = id := (Record.id_of_after hafter).trans (id_of_find? hfind)
  exact Matching.find?_replace_of_ne Record.id r' (hid ▸ hne) h.records

/-- Appending a record does not change what was found before. -/
theorem find?_append_of_some {other : String} {s : Record} (hfind : h.find? other = some s) :
    find? ⟨h.records ++ [r]⟩ other = some s := by
  have hfind' : (h.records.find? fun r => r.id == other) = some s := hfind
  simp [find?, List.find?_append, hfind']

/-- A record that was appended under a new identifier is found. -/
theorem find?_append_new (free : h.has r.id = false) :
    find? ⟨h.records ++ [r]⟩ r.id = some r :=
  @Matching.find?_append_new _ Record.id r _ free

/-- Records of one identifier are one record. -/
theorem Distinct.eq_of_id (d : h.Distinct) (hr : r ∈ h.records) (hr' : r' ∈ h.records)
    (hid : r.id = r'.id) : r = r' :=
  List.inj_on_of_nodup_map d hr hr' hid

theorem mem_replaced {records : List Record} {new s : Record} (hs : s ∈ replaced records new) :
    s = new ∨ s ∈ records ∧ s.id ≠ new.id := by
  obtain ⟨old, hold, rfl⟩ := List.mem_map.mp hs
  by_cases hid : old.id = new.id
  · simp [hid]
  · simp [hid, hold]

/-- A move leaves every record in its place, at the same or a later moment of its life. -/
theorem forall₂_later_of_move (d : h.Distinct) (hm : h.move id m = .ok (h', r')) :
    List.Forall₂ Record.Later h.records h'.records := by
  obtain ⟨r, hfind, hafter, rfl⟩ := of_move hm
  rw [replaced, List.forall₂_map_right_iff, List.forall₂_same]
  intro s hs
  split
  · rename_i hid
    have hid' : s.id = r.id := by
      rw [← Record.id_of_after hafter]
      simpa using hid
    obtain rfl := d.eq_of_id hs (mem_of_find? hfind) hid'
    exact Record.later_of_after hafter
  · exact Record.Later.refl s

theorem Grows.move (d : h.Distinct) (hm : h.move id m = .ok (h', r')) : h.Grows h' :=
  ⟨h'.records, [], by simp, forall₂_later_of_move d hm⟩

/-! ## Soundness -/

namespace Sound

theorem append (sound : h.Sound) (free : h.has r.id = false) (c : r.Consistent) :
    Sound ⟨h.records ++ [r]⟩ where
  distinct := sound.distinct.append (append_ok_iff.mpr ⟨free, rfl⟩)
  consistent s hs := by
    rcases List.mem_append.mp hs with hs | hs
    · exact sound.consistent s hs
    · rw [List.mem_singleton.mp hs]
      exact c

theorem move (sound : h.Sound) (hm : h.move id m = .ok (h', r')) : h'.Sound where
  distinct := sound.distinct.move hm
  consistent s hs := by
    obtain ⟨r, hfind, hafter, rfl⟩ := of_move hm
    rcases mem_replaced hs with rfl | ⟨hs, _⟩
    · exact (sound.consistent r (mem_of_find? hfind)).after hafter
    · exact sound.consistent s hs

end Sound

end Courier.History
