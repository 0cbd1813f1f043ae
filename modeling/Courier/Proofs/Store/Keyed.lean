import Courier.Failure
import Courier.Proofs.Matching

/-!
# Lists with keys

A history and a table of rows are lists alike, whose members have keys. A member is added if its key
is new (`Keyed.added`), and the member with a key takes a step, after which it has the same key
(`Keyed.changed`).

Two operations are independent in a state if neither can tell whether the other one came first, and
both orders lead to the same state (`Independent`). Steps of members with different keys are
independent, and so are adding a member and a step of one that is there already.
-/

namespace Courier

section independent

variable {σ τ α β α' β' : Type}

/-- Two operations in a state: each answers the same before and after the other, and both orders
lead to the same state. -/
structure Independent (a : σ → σ × α) (b : σ → σ × β) (s : σ) : Prop where
  first : (a (b s).1).2 = (a s).2
  second : (b (a s).1).2 = (b s).2
  state : (b (a s).1).1 = (a (b s).1).1

namespace Independent

variable {a : σ → σ × α} {b : σ → σ × β} {s : σ}

/-- The diamond of two operations, of which each answers the same on its two sides. -/
theorem of_diamond {sa sb sab : σ} {x : α} {y : β} (ha : a s = (sa, x)) (hb : b s = (sb, y))
    (hab : b sa = (sab, y)) (hba : a sb = (sab, x)) : Independent a b s :=
  ⟨by rw [hb, hba, ha], by rw [ha, hab, hb], by rw [ha, hab, hb, hba]⟩

theorem symm (h : Independent a b s) : Independent b a s := ⟨h.second, h.first, h.state.symm⟩

/-- Operations on a part of a state are as independent as they are on that part. -/
theorem lift {a' : τ → τ × α'} {b' : τ → τ × β'} (whole : τ → σ) {f : α' → α} {g : β' → β}
    {t : τ} (ha : ∀ t, a (whole t) = (whole (a' t).1, f (a' t).2))
    (hb : ∀ t, b (whole t) = (whole (b' t).1, g (b' t).2)) (h : Independent a' b' t) :
    Independent a b (whole t) where
  first := by simp only [ha, hb, h.first]
  second := by simp only [ha, hb, h.second]
  state := by simp only [ha, hb, h.state]

end Independent

end independent

/-! ## Lists with keys -/

namespace Keyed

variable {α β γ : Type} (key : α → String)

/-- A list with a new member, unless its key is taken or it could not be made. -/
def added (id : String) (made : Except Failure (α × β)) (xs : List α) :
    List α × Except Failure β :=
  if xs.any fun x => key x == id then (xs, .error (.duplicate id))
  else
    match made with
    | .ok (x, b) => (xs ++ [x], .ok b)
    | .error f => (xs, .error f)

/-- A list with one member in place of those with the same key. -/
def replaced (xs : List α) (new : α) : List α :=
  xs.map fun x => if key x == key new then new else x

/-- What becomes of the member with a key when it is to take a step. -/
def stepped (id : String) (step : α → Except Failure (α × β)) (xs : List α) :
    Except Failure (α × β) :=
  match xs.find? fun x => key x == id with
  | none => .error (.notFound id)
  | some x => step x

/-- A list in which the member with a key took a step, if it could. -/
def changed (id : String) (step : α → Except Failure (α × β)) (xs : List α) :
    List α × Except Failure β :=
  match stepped key id step xs with
  | .ok (new, b) => (replaced key xs new, .ok b)
  | .error f => (xs, .error f)

variable {key} {xs : List α} {id other : String} {step : α → Except Failure (α × β)}
  {step' : α → Except Failure (α × γ)} {made : Except Failure (α × γ)} {new : α} {b : β} {c : γ}

theorem changed_of_ok (h : stepped key id step xs = .ok (new, b)) :
    changed key id step xs = (replaced key xs new, .ok b) := by
  rw [changed, h]

theorem changed_of_error {f : Failure} (h : stepped key id step xs = .error f) :
    changed key id step xs = (xs, .error f) := by
  rw [changed, h]

theorem added_of_taken (taken : (xs.any fun x => key x == id) = true) :
    added key id made xs = (xs, .error (.duplicate id)) := by
  unfold added
  rw [if_pos taken]

theorem added_of_error {f : Failure} (free : (xs.any fun x => key x == id) = false) :
    added key id (.error f : Except Failure (α × β)) xs = (xs, .error f) := by
  rw [added, free]
  rfl

theorem added_of_ok (free : (xs.any fun x => key x == id) = false) :
    added key id (.ok (new, b)) xs = (xs ++ [new], .ok b) := by
  rw [added, free]
  rfl

/-- A step that keeps the key of a member. -/
def KeepsKey (key : α → String) (step : α → Except Failure (α × β)) : Prop :=
  ∀ x new b, step x = .ok (new, b) → key new = key x

theorem KeepsKey.of_stepped (keeps : KeepsKey key step)
    (h : stepped key id step xs = .ok (new, b)) : key new = id := by
  unfold stepped at h
  split at h
  · cases h
  · rename_i x hfind
    have hkey : key x = id := by simpa using List.find?_some hfind
    exact (keeps x new b h).trans hkey

/-! ### Replacing a member -/

theorem any_replaced (xs : List α) (new : α) (id : String) :
    ((replaced key xs new).any fun x => key x == id) = xs.any fun x => key x == id := by
  induction xs with
  | nil => rfl
  | cons y ys ih =>
    rw [replaced, List.map_cons, List.any_cons, List.any_cons]
    refine congrArg₂ _ ?_ ih
    by_cases hy : key y = key new <;> simp [hy]

theorem replaced_comm {new new' : α} (hne : key new ≠ key new') (xs : List α) :
    replaced key (replaced key xs new) new' = replaced key (replaced key xs new') new := by
  rw [replaced, replaced, replaced, replaced, List.map_map, List.map_map]
  refine List.map_congr_left fun x _ => ?_
  by_cases hx : key x = key new
  · simp [hx, hne]
  · by_cases hx' : key x = key new'
    · simp [hx', Ne.symm hne]
    · simp [hx, hx']

theorem replaced_append {old : α} (hne : key new ≠ key old) (xs : List α) :
    replaced key (xs ++ [new]) old = replaced key xs old ++ [new] := by
  simp [replaced, hne]

/-- A member with another key takes its step as before. -/
theorem stepped_replaced (hne : key new ≠ id) (xs : List α) :
    stepped key id step (replaced key xs new) = stepped key id step xs := by
  have hfind := Matching.find?_replace_of_ne key new hne xs
  rw [stepped, replaced, hfind, stepped]

/-- A member that is there takes its step as before, whatever is added behind it. -/
theorem stepped_append (has : (xs.any fun x => key x == id) = true) (more : List α) :
    stepped key id step (xs ++ more) = stepped key id step xs := by
  have hfind : ((xs ++ more).find? fun x => key x == id) = xs.find? fun x => key x == id := by
    rw [List.find?_append]
    obtain ⟨x, hx⟩ := Option.isSome_iff_exists.mp (List.find?_isSome.mpr (List.any_eq_true.mp has))
    rw [hx, Option.some_or]
  rw [stepped, hfind, stepped]

theorem any_changed (id other : String) (step : α → Except Failure (α × β)) (xs : List α) :
    ((changed key id step xs).1.any fun x => key x == other) =
      xs.any fun x => key x == other := by
  unfold changed
  split
  · exact any_replaced xs _ other
  · rfl

/-! ### Independence -/

/-- Steps of members with different keys are independent. -/
theorem independent_changed (keeps : KeepsKey key step) (keeps' : KeepsKey key step')
    (hne : id ≠ other) (xs : List α) :
    Independent (changed key id step) (changed key other step') xs := by
  cases h : stepped key id step xs with
  | error f =>
    have ha := changed_of_error h
    cases h' : stepped key other step' xs with
    | error g =>
      have hb := changed_of_error h'
      exact .of_diamond ha hb hb ha
    | ok took =>
      obtain ⟨new, c⟩ := took
      have hkey : key new ≠ id := keeps'.of_stepped h' ▸ Ne.symm hne
      have hb := changed_of_ok h'
      exact .of_diamond ha hb hb (changed_of_error ((stepped_replaced hkey xs).trans h))
  | ok took =>
    obtain ⟨new, b⟩ := took
    have hkey : key new ≠ other := keeps.of_stepped h ▸ hne
    have ha := changed_of_ok h
    cases h' : stepped key other step' xs with
    | error g =>
      exact .of_diamond ha (changed_of_error h')
        (changed_of_error ((stepped_replaced hkey xs).trans h')) ha
    | ok took' =>
      obtain ⟨new', c⟩ := took'
      have hkey' : key new' ≠ id := keeps'.of_stepped h' ▸ Ne.symm hne
      have hcomm : key new ≠ key new' := keeps'.of_stepped h' ▸ hkey
      have hab := changed_of_ok ((stepped_replaced hkey xs).trans h')
      rw [replaced_comm hcomm] at hab
      exact .of_diamond ha (changed_of_ok h') hab
        (changed_of_ok ((stepped_replaced hkey' xs).trans h))

/-- Adding a member and a step of one that is there already are independent. -/
theorem independent_added_changed (hmade : ∀ new c, made = .ok (new, c) → key new = other)
    (keeps : KeepsKey key step) (has : (xs.any fun x => key x == id) = true) :
    Independent (added key other made) (changed key id step) xs := by
  have taken : (changed key id step xs).1.any (fun x => key x == other) =
      xs.any fun x => key x == other := any_changed id other step xs
  cases free : xs.any fun x => key x == other with
  | true =>
    rw [free] at taken
    exact .of_diamond (added_of_taken free) rfl rfl (added_of_taken taken)
  | false =>
    rw [free] at taken
    cases made with
    | error f => exact .of_diamond (added_of_error free) rfl rfl (added_of_error taken)
    | ok made =>
      obtain ⟨new, c⟩ := made
      have hne : key new ≠ id := by
        rintro rfl
        rw [← hmade new c rfl, has] at free
        cases free
      have same : stepped key id step (xs ++ [new]) = stepped key id step xs :=
        stepped_append has [new]
      cases h : stepped key id step xs with
      | error f =>
        have hb := changed_of_error h
        exact .of_diamond (added_of_ok free) hb (changed_of_error (same.trans h))
          (added_of_ok free)
      | ok took =>
        obtain ⟨old, b⟩ := took
        have hkey : key new ≠ key old := keeps.of_stepped h ▸ hne
        have hb := changed_of_ok h
        have hab := changed_of_ok (same.trans h)
        rw [replaced_append hkey] at hab
        rw [hb] at taken
        exact .of_diamond (added_of_ok free) hb hab (added_of_ok taken)

end Keyed

end Courier
