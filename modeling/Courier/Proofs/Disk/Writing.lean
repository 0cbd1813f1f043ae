import Courier.Disk

/-!
# Writing to the disk

A path that can be followed leads to one place, whatever the disk (`Disk.eq_ground_of_place`). What
is written to a path lies at that place from then on, and the path still leads there, as long as
what is written does not replace a directory (`Disk.Takes.write`). Making directories changes
nothing about what is on the disk already (`Disk.grown_withDirectories`).
-/

namespace Courier

/-- The place that a path leads to if every name on the way can be followed. -/
def Path.ground (p : Path) : Path := p.names.foldl Path.enter ⟨min p.root 1, []⟩

namespace Disk

variable {d d' d'' : Disk} {path place start : Path} {item : Item}

/-! ## Following a path -/

theorem eq_foldl_of_walk : ∀ {names : List String} {start : Path},
    d.walk start names = .ok place → place = names.foldl Path.enter start
  | [], start, h => (Except.ok.inj h).symm
  | name :: rest, start, h => by
    rw [walk] at h
    split at h
    · split at h
      · cases h
      · have tail : place = rest.foldl Path.enter (start.enter name) := eq_foldl_of_walk h
        exact tail
    · cases h
    · cases h

theorem walk_append (more : List String) : ∀ (names : List String) (start : Path),
    d.walk start (names ++ more) = (d.walk start names).bind fun place => d.walk place more
  | [], _ => rfl
  | name :: rest, start => by
    rw [List.cons_append, walk, walk]
    split
    · split
      · rfl
      · exact walk_append more rest _
    · rfl
    · rfl

/-- A path leads where its names lead, and the way there is followed from the root or from the directory
at hand. -/
theorem walk_of_place (h : d.place path = .ok place) :
    d.walk ⟨min path.root 1, []⟩ path.names = .ok place := by
  unfold Disk.place at h
  split at h
  · cases h
  · split at h
    · cases h
    · exact h

theorem eq_ground_of_place (h : d.place path = .ok place) : place = path.ground :=
  eq_foldl_of_walk (walk_of_place h)

/-- Whether a path is followed at all is decided by the path alone. -/
theorem place_of_walk (h : d.place path = .ok place)
    (hwalk : d'.walk ⟨min path.root 1, []⟩ path.names = .ok place) : d'.place path = .ok place := by
  unfold Disk.place at h ⊢
  split at h
  · cases h
  · rename_i clean
    split at h
    · cases h
    · rename_i short
      rw [if_neg clean, if_neg short]
      exact hwalk

theorem find_eq_ok_iff : d.find path = .ok item ↔
    d.place path = .ok path.ground ∧ d.itemAt? path.ground = some item := by
  unfold find
  cases hplace : d.place path with
  | error fault => simp [bind, Except.bind]
  | ok place =>
    obtain rfl := eq_ground_of_place hplace
    cases hitem : d.itemAt? path.ground with
    | none => simp [bind, Except.bind, hitem]
    | some found => simp [bind, Except.bind, hitem, pure, Except.pure]

/-- From a directory one more step is never missing. -/
theorem place_ne_missing (h : d.find path.parent = .ok .directory) :
    d.place path ≠ .error .missing := by
  intro hplace
  obtain ⟨hparent, hdirectory⟩ := find_eq_ok_iff.mp h
  rcases List.eq_nil_or_concat path.names with names | ⟨init, last, names⟩
  · have same : path.parent = path := by
      obtain ⟨root, _⟩ := path
      obtain rfl := names
      rfl
    rw [same, hplace] at hparent
    cases hparent
  · rw [List.concat_eq_append] at names
    have inits : path.parent.names = init := by rw [Path.parent, names, List.dropLast_concat]
    have hwalk : d.walk ⟨min path.root 1, []⟩ init = .ok path.parent.ground := by
      rw [← inits]
      exact walk_of_place hparent
    unfold Disk.place at hplace
    split at hplace
    · cases hplace
    · split at hplace
      · cases hplace
      · rw [names, walk_append, hwalk] at hplace
        change d.walk path.parent.ground [last] = .error .missing at hplace
        rw [walk, hdirectory] at hplace
        dsimp only at hplace
        split at hplace <;> cases hplace

/-- If there is nothing where a path leads, but a directory around it, then only the last step is in
the way. -/
theorem place_of_missing (h : d.find path = .error .missing)
    (around : d.hasDirectory path.parent = true) :
    d.place path = .ok path.ground ∧ d.itemAt? path.ground = none := by
  have directory : d.find path.parent = .ok .directory := by
    unfold hasDirectory at around
    split at around
    · assumption
    · cases around
  unfold find at h
  cases hplace : d.place path with
  | ok place =>
    obtain rfl := eq_ground_of_place hplace
    rw [hplace] at h
    refine ⟨rfl, ?_⟩
    cases hitem : d.itemAt? path.ground with
    | none => rfl
    | some item =>
      simp only [bind, Except.bind, hitem] at h
      cases h
  | error fault =>
    rw [hplace] at h
    obtain rfl : fault = .missing := Except.error.inj h
    exact absurd hplace (place_ne_missing directory)

/-! ## Writing -/

theorem not_isGiven_of_ne (h : d.itemAt? place ≠ some .directory) : isGiven place = false := by
  cases given : isGiven place with
  | true => exact absurd (if_pos given) h
  | false => rfl

/-- Something that is no directory is not on the way to its own place, so the way there stays. -/
theorem walk_put (free : d.itemAt? place ≠ some .directory) :
    ∀ {names : List String} {start : Path}, d.walk start names = .ok place →
      (d.put place item).walk start names = .ok place
  | [], _, h => h
  | name :: rest, start, h => by
    rw [walk] at h ⊢
    split at h
    · rename_i hstart
      have other : start ≠ place := by
        rintro rfl
        exact free hstart
      rw [itemAt?_put_of_ne d item other, hstart]
      dsimp only
      split at h
      · cases h
      · rename_i short
        rw [if_neg short]
        exact walk_put free h
    · cases h
    · cases h

/-- A path that leads somewhere, and not to a directory. -/
structure Takes (d : Disk) (path : Path) : Prop where
  place : d.place path = .ok path.ground
  free : d.itemAt? path.ground ≠ some .directory

namespace Takes

theorem itemAt?_write (t : d.Takes path) (item : Item) :
    (d.write path item).itemAt? path.ground = some item := by
  rw [Disk.write, t.place]
  exact itemAt?_put d item (not_isGiven_of_ne t.free)

/-- What is written can be written over. -/
theorem write (t : d.Takes path) (h : item ≠ .directory) : (d.write path item).Takes path := by
  refine ⟨?_, ?_⟩
  · rw [Disk.write, t.place]
    exact place_of_walk t.place (walk_put t.free (walk_of_place t.place))
  · rw [t.itemAt?_write]
    exact fun he => h (Option.some.inj he)

end Takes

/-! ## Making directories -/

/-- A disk with all that another one has, and at most directories besides. -/
def Grown (d d' : Disk) : Prop := ∀ place, d'.itemAt? place = d.itemAt? place ∨
  d.itemAt? place = none ∧ d'.itemAt? place = some .directory

theorem Grown.refl (d : Disk) : d.Grown d := fun _ => .inl rfl

theorem Grown.trans (h : d.Grown d') (h' : d'.Grown d'') : d.Grown d'' := by
  intro place
  rcases h place with same | ⟨none, made⟩
  · rw [← same]
    exact h' place
  · rcases h' place with same' | ⟨none', _⟩
    · exact .inr ⟨none, same'.trans made⟩
    · rw [made] at none'
      cases none'

theorem grown_put (free : d.itemAt? place = none) : d.Grown (d.put place .directory) := by
  intro other
  by_cases h : other = place
  · subst h
    have given : isGiven other = false :=
      @not_isGiven_of_ne d _ (by rw [free]; exact Option.some_ne_none _ |>.symm)
    exact .inr ⟨free, itemAt?_put d _ given⟩
  · exact .inl (itemAt?_put_of_ne d _ h)

theorem grown_withDirectories (d : Disk) (path : Path) : d.Grown (d.withDirectories path) := by
  unfold withDirectories
  induction path.parents ++ [path] generalizing d with
  | nil => exact .refl d
  | cons p rest ih =>
    rw [List.foldl_cons]
    refine Grown.trans ?_ (ih _)
    split
    · split
      · rename_i free
        exact grown_put (Option.isNone_iff_eq_none.mp free)
      · exact .refl d
    · exact .refl d

end Disk

end Courier
