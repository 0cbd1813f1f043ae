import Mathlib.Data.List.Forall2

/-!
# Matching lists

Two lists match if they are of the same length and their members at the same places stand in a
relation (`List.Forall₂`). Whatever looks at members in a way that respects the relation takes
matching lists to matching lists: searching, filtering, sorting, and replacing members. A reading
that may fail succeeds on a list exactly if it yields a matching list (`mapM_ok_iff`).

At the end stand laws of looking up a member by its key after another was replaced or added.
-/

namespace Courier.Matching

open List

variable {α β ε : Type} {R : α → β → Prop} {xs : List α} {ys : List β}

/-- Reading every member succeeds exactly if the members are read one by one. -/
theorem mapM_ok_iff {f : α → Except ε β} : ∀ {xs : List α} {ys : List β},
    xs.mapM f = .ok ys ↔ Forall₂ (fun x y => f x = .ok y) xs ys
  | [], ys => by simp [pure, Except.pure, eq_comm]
  | x :: xs, ys => by
    have ih := @mapM_ok_iff f xs
    rw [List.mapM_cons, forall₂_cons_left_iff]
    cases hx : f x with
    | error e => simp [bind, Except.bind]
    | ok y =>
      cases hxs : xs.mapM f with
      | error e =>
        refine iff_of_false (by simp [bind, Except.bind]) ?_
        rintro ⟨_, rest, _, hrest, _⟩
        rw [← ih, hxs] at hrest
        cases hrest
      | ok rest =>
        have hrest := ih.mp hxs
        constructor
        · intro h
          obtain rfl : y :: rest = ys := by simpa [bind, Except.bind, pure, Except.pure] using h
          exact ⟨y, rest, rfl, hrest, rfl⟩
        · rintro ⟨z, others, hz, hothers, rfl⟩
          obtain rfl : y = z := by simpa using hz
          obtain rfl : rest = others := by simpa [hxs] using ih.mpr hothers
          rfl

theorem filter {p : α → Bool} {q : β → Bool} (same : ∀ a b, R a b → p a = q b)
    (h : Forall₂ R xs ys) : Forall₂ R (xs.filter p) (ys.filter q) :=
  rel_filter (fun a b hab => iff_of_eq (congrArg (· = true) (same a b hab))) h

theorem any {p : α → Bool} {q : β → Bool} (same : ∀ a b, R a b → p a = q b)
    (h : Forall₂ R xs ys) : xs.any p = ys.any q := by
  induction h with
  | nil => rfl
  | cons hab _ ih => simp [same _ _ hab, ih]

/-- The first members with a property match. -/
theorem find? {p : α → Bool} {q : β → Bool} (same : ∀ a b, R a b → p a = q b)
    (h : Forall₂ R xs ys) : Option.Rel R (xs.find? p) (ys.find? q) := by
  induction h with
  | nil => exact .none
  | @cons a b _ _ hab _ ih =>
    rw [List.find?_cons, List.find?_cons, same a b hab]
    split
    · exact .some hab
    · exact ih

theorem find?_none {p : α → Bool} {q : β → Bool} (same : ∀ a b, R a b → p a = q b)
    (h : Forall₂ R xs ys) (hnone : ys.find? q = none) : xs.find? p = none := by
  have found := find? same h
  rw [hnone] at found
  generalize xs.find? p = first at found ⊢
  cases found
  rfl

theorem find?_some {p : α → Bool} {q : β → Bool} (same : ∀ a b, R a b → p a = q b)
    (h : Forall₂ R xs ys) {b : β} (hsome : ys.find? q = some b) :
    ∃ a, xs.find? p = some a ∧ R a b := by
  have found := find? same h
  rw [hsome] at found
  generalize xs.find? p = first at found ⊢
  cases found with
  | some hab => exact ⟨_, rfl, hab⟩

/-- Matching lists are matching after their members were replaced by matching ones. -/
theorem map {f : α → α} {g : β → β} (keeps : ∀ a b, R a b → R (f a) (g b))
    (h : Forall₂ R xs ys) : Forall₂ R (xs.map f) (ys.map g) :=
  rel_map (fun a b hab => keeps a b hab) h

/-- Sorting respects a relation that the two orders agree on: lists that match are the two sides of
one list of pairs, and it does not matter which of its sides decides the order. -/
theorem mergeSort {p : α → α → Bool} {q : β → β → Bool}
    (same : ∀ a b, R a b → ∀ a' b', R a' b' → p a a' = q b b') (h : Forall₂ R xs ys) :
    Forall₂ R (xs.mergeSort p) (ys.mergeSort q) := by
  obtain ⟨hlen, hzip⟩ := forall₂_iff_zip.mp h
  have hsame : ∀ u ∈ xs.zip ys, ∀ v ∈ xs.zip ys, p u.1 v.1 = q u.2 v.2 := fun u hu v hv =>
    same _ _ (hzip hu) _ _ (hzip hv)
  have hleft := map_mergeSort (r := fun u v : α × β => p u.1 v.1) (s := p) (f := Prod.fst)
    (l := xs.zip ys) fun _ _ _ _ => rfl
  have hright := map_mergeSort (r := fun u v : α × β => p u.1 v.1) (s := q) (f := Prod.snd)
    (l := xs.zip ys) hsame
  rw [map_fst_zip (Nat.le_of_eq hlen)] at hleft
  rw [map_snd_zip (Nat.le_of_eq hlen.symm)] at hright
  rw [← hleft, ← hright, forall₂_map_left_iff, forall₂_map_right_iff, forall₂_same]
  intro u hu
  exact hzip ((mergeSort_perm _ _).mem_iff.mp hu)

/-- Lists that match one after another match, if the relations go together. -/
theorem trans {γ : Type} {S : β → γ → Prop} {T : α → γ → Prop} {zs : List γ}
    (h : Forall₂ R xs ys) (g : Forall₂ S ys zs) (both : ∀ a b c, R a b → S b c → T a c) :
    Forall₂ T xs zs := by
  induction h generalizing zs with
  | nil =>
    cases g
    exact .nil
  | cons hab _ ih =>
    cases g with
    | cons hbc hrest => exact .cons (both _ _ _ hab hbc) (ih hrest)

/-- What matches a list in two parts has two parts that match them. -/
theorem of_append_left : ∀ {xs more : List α} {ys : List β}, Forall₂ R (xs ++ more) ys →
    ∃ ys₁ ys₂, ys = ys₁ ++ ys₂ ∧ Forall₂ R xs ys₁ ∧ Forall₂ R more ys₂
  | [], more, ys, h => ⟨[], ys, rfl, .nil, h⟩
  | x :: xs, more, _, .cons hxy h => by
    obtain ⟨ys₁, ys₂, rfl, h₁, h₂⟩ := of_append_left h
    exact ⟨_ :: ys₁, ys₂, rfl, .cons hxy h₁, h₂⟩

/-- Matching lists have the same values, if matching members have the same value. -/
theorem map_eq {γ : Type} {f : α → γ} {g : β → γ} (same : ∀ a b, R a b → f a = g b)
    (h : Forall₂ R xs ys) : xs.map f = ys.map g := by
  induction h with
  | nil => rfl
  | cons hab _ ih => rw [List.map_cons, List.map_cons, same _ _ hab, ih]

/-- A list matches itself with one member replaced by a matching one. -/
theorem set {R : α → α → Prop} (refl : ∀ a, R a a) {x y : α} (hxy : R x y) :
    ∀ {xs : List α} {i : Nat}, xs[i]? = some x → Forall₂ R xs (xs.set i y)
  | [], i, h => by simp at h
  | z :: zs, 0, h => by
    obtain rfl : z = x := by simpa using h
    exact .cons hxy (forall₂_same.mpr fun a _ => refl a)
  | z :: zs, i + 1, h => .cons (refl z) (set refl hxy (by simpa using h))

/-- Every member of a list matches a member of the other. -/
theorem exists_right (h : Forall₂ R xs ys) {x : α} (hx : x ∈ xs) : ∃ y ∈ ys, R x y := by
  induction h with
  | nil => cases hx
  | cons hab _ ih =>
    rcases List.mem_cons.mp hx with rfl | hx
    · exact ⟨_, List.mem_cons_self .., hab⟩
    · obtain ⟨y, hy, hxy⟩ := ih hx
      exact ⟨y, List.mem_cons_of_mem _ hy, hxy⟩

theorem exists_left (h : Forall₂ R xs ys) {y : β} (hy : y ∈ ys) : ∃ x ∈ xs, R x y :=
  exists_right h.flip hy

/-- Every member has a partner with a property exactly if the list has a matching one whose members
all have it. -/
theorem forall_exists_iff {p : β → Prop} : (∀ x ∈ xs, ∃ y, R x y ∧ p y) ↔
    ∃ ys, Forall₂ R xs ys ∧ ∀ y ∈ ys, p y := by
  induction xs with
  | nil => simp
  | cons x xs ih =>
    simp only [List.forall_mem_cons, ih, forall₂_cons_left_iff]
    constructor
    · rintro ⟨⟨y, hxy, hy⟩, ys, hys, rest⟩
      exact ⟨y :: ys, ⟨y, ys, hxy, hys, rfl⟩, List.forall_mem_cons.mpr ⟨hy, rest⟩⟩
    · rintro ⟨_, ⟨y, ys, hxy, hys, rfl⟩, all⟩
      obtain ⟨hy, rest⟩ := List.forall_mem_cons.mp all
      exact ⟨⟨y, hxy, hy⟩, ys, hys, rest⟩

/-- Two lists that match a third in two ways are the same exactly if they are member by member. -/
theorem eq_iff {S : α → β → Prop} {p : α → Prop} {zs : List β} (h : Forall₂ R xs ys)
    (g : Forall₂ S xs zs) (each : ∀ x ∈ xs, ∀ y z, R x y → S x z → (z = y ↔ p x)) :
    zs = ys ↔ ∀ x ∈ xs, p x := by
  induction h generalizing zs with
  | nil =>
    cases g
    simp
  | @cons x y xs ys hxy _ ih =>
    obtain _ | ⟨hxz, g⟩ := g
    rw [List.cons_eq_cons, List.forall_mem_cons, each x List.mem_cons_self _ _ hxy hxz,
      ih g fun x hx => each x (List.mem_cons_of_mem _ hx)]

/-! ## Looking up by key -/

section key

variable (key : α → String) (new : α)

/-- Replacing what is found under a key lets the replacement be found. -/
theorem find?_replace : ∀ {xs : List α} {x : α}, (xs.find? fun x => key x == key new) = some x →
    ((xs.map fun x => if key x == key new then new else x).find? fun x => key x == key new) =
      some new
  | [], _, h => by cases h
  | y :: ys, x, h => by
    by_cases hy : key y = key new
    · simp [hy]
    · have hys : (ys.find? fun x => key x == key new) = some x := by simpa [hy] using h
      simpa [List.find?_cons, hy] using find?_replace hys

/-- Replacing members under one key does not change what is found under another. -/
theorem find?_replace_of_ne {other : String} (hne : key new ≠ other) (xs : List α) :
    ((xs.map fun x => if key x == key new then new else x).find? fun x => key x == other) =
      xs.find? fun x => key x == other := by
  induction xs with
  | nil => rfl
  | cons y ys ih =>
    by_cases hy : key y = key new
    · have hy' : key y ≠ other := hy ▸ hne
      simpa [List.find?_cons, hy, hne, hy'] using ih
    · by_cases ho : key y = other
      · simp [ho, show other ≠ key new from fun e => hne e.symm]
      · simpa [List.find?_cons, hy, ho] using ih

variable {key new}

/-- What is appended under a new key is found. -/
theorem find?_append_new {xs : List α} (free : (xs.any fun x => key x == key new) = false) :
    ((xs ++ [new]).find? fun x => key x == key new) = some new := by
  have hnone : (xs.find? fun x => key x == key new) = none := by
    simpa [List.find?_eq_none] using free
  simp [List.find?_append, hnone]

end key

end Courier.Matching
