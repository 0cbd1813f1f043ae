import Courier.Form.Basic
import Courier.Proofs.Double.Value

/-!
# Fields that were accepted

What is known of a field of a form that was read without an issue: it is the default or a checked
value (`Form.of_field`), and a number keeps its limits in both cases (`Form.admits_of_field`). A
floating point number that keeps a lower and an upper limit is finite, and its exact value lies
between them (`Bound.exists_value?_of_admits`).
-/

namespace Courier

namespace Checked

theorem all_map_ok {α : Type} (xs : List α) : Checked.all (xs.map Checked.ok) = .ok xs := by
  induction xs with
  | nil => rfl
  | cons x xs ih => rw [List.map_cons, Checked.all, ih, Checked.map_ok, Checked.seq_ok]

end Checked

namespace Form

variable {α : Type} {bag : Bag} {name : String}

theorem required_of_getText? {check : Value → Checked α} {v : Value}
    (h : bag.getText? name = some v) : required bag name check = (check v).within name := by
  rw [required, h]

theorem field_of_getText? {default : α} {check : Value → Checked α} {v : Value}
    (h : bag.getText? name = some v) : field bag name default check = (check v).within name := by
  rw [field, h]

/-- A field that is read is the default or a checked value. -/
theorem of_field {default a : α} {check : Value → Checked α}
    (h : field bag name default check = .ok a) : a = default ∨ ∃ v, check v = .ok a := by
  unfold field at h
  cases hget : bag.getText? name with
  | none =>
    rw [hget] at h
    cases h
    exact .inl rfl
  | some v =>
    rw [hget] at h
    cases hcheck : check v with
    | ok b =>
      simp only [hcheck, Checked.within_ok] at h
      exact .inr ⟨v, by rw [hcheck, h]⟩
    | wrong issues =>
      simp only [hcheck] at h
      cases h

/-- A number that was read from a field keeps its limits if the default does. -/
theorem admits_of_field {default x : Double} {bounds : List Bound}
    (h : field bag name default (numberWithin bounds) = .ok x)
    (usual : ∀ b ∈ bounds, b.admits default = true) {b : Bound} (hb : b ∈ bounds) :
    b.admits x = true := by
  rcases of_field h with rfl | ⟨v, hv⟩
  · exact usual b hb
  · exact admits_of_numberWithin hv hb

end Form

namespace Bound

/-- Whether a rational number keeps a limit. -/
def Holds : Bound → ℚ → Prop
  | above n, u => n < u
  | atLeast n, u => n ≤ u
  | atMost n, u => u ≤ n

/-- The integer of a limit. -/
def limit : Bound → ℤ
  | above n | atLeast n | atMost n => n

/-- Whether a limit is one from below. -/
def isLower : Bound → Bool
  | above _ | atLeast _ => true
  | atMost _ => false

/-- A finite number keeps a limit of at most 53 bits if its value does. -/
theorem admits_iff {b : Bound} {x : Double} {u : ℚ} (small : b.limit.natAbs < 2 ^ 53)
    (hx : x.value? = some u) : b.admits x = true ↔ b.Holds u := by
  cases b with
  | above n => exact Double.lt_iff (Double.value?_ofInt small) hx
  | atLeast n => exact Double.le_iff (Double.value?_ofInt small) hx
  | atMost n => exact Double.le_iff hx (Double.value?_ofInt small)

/-- A number that keeps a lower and an upper limit has a value that keeps them. -/
theorem exists_value?_of_admits {low high : Bound} {x : Double} (lower : low.isLower = true)
    (upper : high.isLower = false) (small : low.limit.natAbs < 2 ^ 53)
    (small' : high.limit.natAbs < 2 ^ 53) (hlow : low.admits x = true)
    (hhigh : high.admits x = true) : ∃ u, x.value? = some u ∧ low.Holds u ∧ high.Holds u := by
  have hle : (Double.ofInt low.limit).le x = true := by
    cases low with
    | above n => exact Double.le_of_lt hlow
    | atLeast n => exact hlow
    | atMost n => cases lower
  have hge : x.le (Double.ofInt high.limit) = true := by
    cases high with
    | atMost n => exact hhigh
    | above n => cases upper
    | atLeast n => cases upper
  obtain ⟨u, hu, _, _⟩ := Double.exists_value?_between (Double.value?_ofInt small)
    (Double.value?_ofInt small') hle hge
  exact ⟨u, hu, (admits_iff small hu).mp hlow, (admits_iff small' hu).mp hhigh⟩

end Bound

end Courier
