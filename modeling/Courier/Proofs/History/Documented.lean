import Courier.History.Query
import Courier.Proofs.Database.Row
import Courier.Proofs.History.Growth

/-!
# Histories in the form of documents

A database keeps the metadata of records in the form of documents (`Record.AsDocument`). Two
histories that differ in nothing else (`History.AsDocuments`) give the same answers to all requests,
up to that difference, and refuse the same requests in the same words.
-/

namespace Courier

namespace Record

/-- One record is the other with its metadata in the form of a document. -/
def AsDocument (r r' : Record) : Prop :=
  ∃ ms, metadataJson? r.metadata = .ok ms ∧ r' = r.documented ms

namespace AsDocument

variable {r r' : Record}

theorem id (a : r.AsDocument r') : r'.id = r.id := by
  obtain ⟨ms, _, rfl⟩ := a
  rfl

theorem concerns (a : r.AsDocument r') (recipient : Option String) :
    History.concerns recipient r = History.concerns recipient r' := by
  obtain ⟨ms, _, rfl⟩ := a
  cases recipient <;> rfl

theorem notEarlier {s s' : Record} (a : r.AsDocument r') (b : s.AsDocument s') :
    History.notEarlier r s = History.notEarlier r' s' := by
  obtain ⟨ms, _, rfl⟩ := a
  obtain ⟨ns, _, rfl⟩ := b
  rfl

end AsDocument

/-- Moving a record does not depend on its metadata. -/
theorem after_documented (r : Record) (ms : List (String × Json)) (m : Move) :
    (r.documented ms).after m = (r.after m).map fun new => new.documented ms := by
  have status : (r.documented ms).status = r.status := rfl
  have id : (r.documented ms).id = r.id := rfl
  unfold after
  simp only [moved_documented, status, id]
  repeat' split
  all_goals rfl

end Record

namespace History

/-- One history is the other with the metadata of its records in the form of documents. -/
def AsDocuments (h h' : History) : Prop :=
  List.Forall₂ Record.AsDocument h.records h'.records

namespace AsDocuments

variable {h h' : History} {id : String}

theorem empty : AsDocuments {} {} := .nil

variable (a : h.AsDocuments h')

include a

theorem flip : List.Forall₂ (fun r' r => Record.AsDocument r r') h'.records h.records :=
  List.Forall₂.flip a

theorem has (id : String) : h.has id = h'.has id :=
  Matching.any (fun _ _ ha => by rw [ha.id]) a

theorem append {r r' : Record} (ha : r.AsDocument r') :
    AsDocuments ⟨h.records ++ [r]⟩ ⟨h'.records ++ [r']⟩ :=
  List.rel_append a (.cons ha .nil)

theorem find?_none (hnone : h.find? id = none) : h'.find? id = none :=
  Matching.find?_none (fun _ _ ha => by rw [ha.id]) a.flip hnone

theorem find?_some {r : Record} (hsome : h.find? id = some r) :
    ∃ r', h'.find? id = some r' ∧ r.AsDocument r' :=
  Matching.find?_some (fun _ _ ha => by rw [ha.id]) a.flip hsome

theorem move_error {m : Record.Move} {f : Failure} (hm : h.move id m = .error f) :
    h'.move id m = .error f := by
  unfold History.move at hm ⊢
  split at hm
  · rename_i hnone
    rw [a.find?_none hnone]
    exact hm
  · rename_i r hsome
    obtain ⟨_, hsome', ms, _, rfl⟩ := a.find?_some hsome
    cases hafter : r.after m with
    | error g =>
      rw [hafter] at hm
      simpa only [hsome', Record.after_documented, hafter, Except.map] using hm
    | ok new =>
      rw [hafter] at hm
      cases hm

theorem move_ok {m : Record.Move} {h₁ : History} {r : Record} (hm : h.move id m = .ok (h₁, r)) :
    ∃ h₂ r', h'.move id m = .ok (h₂, r') ∧ r.AsDocument r' ∧ h₁.AsDocuments h₂ := by
  obtain ⟨old, hfind, hafter, rfl⟩ := of_move hm
  obtain ⟨_, hfind', ms, hms, rfl⟩ := a.find?_some hfind
  have hnew : r.AsDocument (r.documented ms) :=
    ⟨ms, (Record.later_of_after hafter).metadataJson?.trans hms, rfl⟩
  refine ⟨⟨replaced h'.records (r.documented ms)⟩, r.documented ms, ?_, hnew, ?_⟩
  · simp only [History.move, hfind', Record.after_documented, hafter, Except.map]
  · refine Matching.map (fun s s' hs => ?_) a
    rw [hs.id, hnew.id]
    split
    · exact hnew
    · exact hs

theorem all (recipient : Option String) :
    List.Forall₂ Record.AsDocument (h.all recipient) (h'.all recipient) :=
  Matching.filter (fun _ _ ha => ha.concerns recipient) a

theorem newestFirst (recipient : String) (limit : Int) :
    List.Forall₂ Record.AsDocument
      ((History.newestFirst (h.all (some recipient))).take limit.toNat)
      ((History.newestFirst (h'.all (some recipient))).take limit.toNat) :=
  List.forall₂_take _ (Matching.mergeSort (fun _ _ ha _ _ hb => ha.notEarlier hb)
    (List.forall₂_reverse_iff.mpr (a.all (some recipient))))

end AsDocuments

end History

end Courier
