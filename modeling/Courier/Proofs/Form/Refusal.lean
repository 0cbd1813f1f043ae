import Courier.Form.Basic

/-!
# Refusals have issues

A check that refuses a value says what is wrong with it: its list of issues is never empty
(`Checked.Explained`). The ways to combine checks keep this, so it is settled once for each kind of
value and once for each combination.
-/

namespace Courier

namespace Checked

variable {α β : Type}

/-- A refusal has at least one issue. -/
def Explained (c : Checked α) : Prop := c ≠ wrong []

theorem Explained.issues_ne_nil {c : Checked α} {issues : List Issue} (explained : c.Explained)
    (h : c = wrong issues) : issues ≠ [] := by
  rintro rfl
  exact explained h

theorem explained_ok (a : α) : (ok a).Explained := by simp [Explained]

theorem explained_problem (p : Problem) : (problem p : Checked α).Explained := by
  simp [Explained, problem]

theorem Explained.map {c : Checked α} (explained : c.Explained) (f : α → β) :
    (c.map f).Explained := by
  cases c with
  | ok a => exact explained_ok _
  | wrong issues => simpa [Explained, Checked.map] using explained

theorem Explained.seq {f : Checked (α → β)} {c : Checked α} (left : f.Explained)
    (right : c.Explained) : (f.seq c).Explained := by
  cases f <;> cases c <;> simp_all [Explained, Checked.seq]

theorem Explained.andThen {c : Checked α} {next : α → Checked β} (explained : c.Explained)
    (later : ∀ a, (next a).Explained) : (c.andThen next).Explained := by
  cases c with
  | ok a => exact later a
  | wrong issues => simpa [Explained, Checked.andThen] using explained

theorem Explained.within {c : Checked α} (explained : c.Explained) (step : String) :
    (c.within step).Explained := by
  cases c with
  | ok a => exact explained_ok _
  | wrong issues => simpa [Explained, Checked.within] using explained

theorem explained_all {cs : List (Checked α)} (explained : ∀ c ∈ cs, c.Explained) :
    (all cs).Explained := by
  induction cs with
  | nil => exact explained_ok _
  | cons c cs ih =>
    obtain ⟨first, rest⟩ := List.forall_mem_cons.mp explained
    exact (first.map _).seq (ih rest)

end Checked

namespace Form

open Checked

variable {α : Type}

theorem explained_ofValue (name : String) (v : Value) : (ofValue name v).Explained := by
  cases v with
  | dict bag => exact explained_ok _
  | _ => exact explained_problem _

theorem explained_text (v : Value) : (text v).Explained := by
  unfold text
  split
  · exact explained_ok _
  · split
    · exact explained_ok _
    · exact explained_problem _
  · exact explained_problem _

theorem explained_someText (v : Value) : (someText v).Explained := by
  refine (explained_text v).andThen fun s => ?_
  split
  · exact explained_problem _
  · exact explained_ok _

theorem explained_integerTruth (n : Int) : (integerTruth n).Explained := by
  unfold integerTruth
  repeat' split
  · exact explained_ok _
  · exact explained_ok _
  · exact explained_problem _
  · exact explained_problem _

theorem explained_boolean (v : Value) : (boolean v).Explained := by
  unfold boolean
  split
  · exact explained_ok _
  · exact explained_integerTruth _
  · split
    · exact explained_integerTruth _
    · exact explained_problem _
  · split
    · split
      · exact explained_ok _
      · exact explained_problem _
    · exact explained_problem _

theorem explained_required (bag : Bag) (name : String) {check : Value → Checked α}
    (explained : ∀ v, (check v).Explained) : (required bag name check).Explained := by
  unfold required
  split
  · exact (explained _).within name
  · simp [Explained]

theorem explained_field (bag : Bag) (name : String) (default : α) {check : Value → Checked α}
    (explained : ∀ v, (check v).Explained) : (field bag name default check).Explained := by
  unfold field
  split
  · exact (explained _).within name
  · exact explained_ok _

theorem explained_itemsFrom {check : Value → Checked α} (explained : ∀ v, (check v).Explained)
    (i : Nat) (vs : List Value) : ∀ c ∈ itemsFrom check i vs, c.Explained := by
  induction vs generalizing i with
  | nil => simp [itemsFrom]
  | cons v vs ih => exact List.forall_mem_cons.mpr ⟨(explained v).within _, ih (i + 1)⟩

theorem explained_items {check : Value → Checked α} (explained : ∀ v, (check v).Explained)
    (v : Value) : (items check v).Explained := by
  unfold items
  split
  · exact explained_all (explained_itemsFrom explained 0 _)
  · exact explained_all (explained_itemsFrom explained 0 _)
  · exact explained_all (explained_itemsFrom explained 0 _)
  · exact explained_problem _

end Form

end Courier
