import Courier.Store.Basic

/-!
# Failures of stores

What a store may fail with. Whatever stands in the way of a statement on its own account, such as a
missing table, a taken identifier or a stamp that cannot be read, hinders the program but does not
stop it (`Harmless`); only what befalls an operation from outside can stop the program
(`Store.append_fails`, `Store.move_fails`, `Store.preference?_fails`).
-/

namespace Courier

/-- No failure of an answer stops the program. -/
def Harmless {α : Type} (answer : Except Failure α) : Prop :=
  ∀ f, answer = .error f → f.isInterrupt = false

namespace Harmless

variable {α β : Type} {answer : Except Failure α} {f : Failure}

theorem ok (a : α) : Harmless (.ok a) := by
  intro f h
  cases h

theorem error (h : f.isInterrupt = false) : Harmless (.error f : Except Failure α) := by
  intro g hg
  cases hg
  exact h

theorem bind {next : α → Except Failure β} (h : Harmless answer)
    (hnext : ∀ a, Harmless (next a)) : Harmless (answer >>= next) := by
  intro f hf
  cases answer with
  | ok a => exact hnext a f hf
  | error g =>
    cases hf
    exact h f rfl

theorem map {g : α → β} (h : Harmless answer) : Harmless (answer.map g) := by
  intro f hf
  cases answer with
  | ok a => cases hf
  | error e =>
    cases hf
    exact h f rfl

theorem ite {c : Prop} [Decidable c] {other : Except Failure α} (h : Harmless answer)
    (h' : Harmless other) : Harmless (if c then answer else other) := by
  split
  · exact h
  · exact h'

end Harmless

/-! ## The database -/

namespace Row

theorem harmless_ofRecord (r : Record) : Harmless (ofRecord r) := by
  unfold ofRecord
  split
  · exact .error rfl
  · exact .ok _

theorem harmless_instant (stamp : String) : Harmless (instant stamp) := by
  unfold instant
  split
  · exact .ok _
  · exact .error rfl

theorem harmless_instant? (stamp : Option String) : Harmless (instant? stamp) := by
  cases stamp with
  | none => exact .ok _
  | some stamp =>
    rw [instant?]
    exact (harmless_instant stamp).map

theorem harmless_priorityOf (name : String) : Harmless (priorityOf name) := by
  unfold priorityOf
  split
  · exact .ok _
  · exact .error rfl

theorem harmless_statusOf (name : String) : Harmless (statusOf name) := by
  unfold statusOf
  split
  · exact .ok _
  · exact .error rfl

theorem harmless_checked (r : Record) : Harmless (checked r) := by
  unfold checked
  split
  · exact .ok _
  · exact .error rfl

theorem harmless_toRecord (row : Row) : Harmless row.toRecord :=
  (harmless_instant _).bind fun _ => (harmless_instant _).bind fun _ =>
    (harmless_instant? _).bind fun _ => (harmless_instant? _).bind fun _ =>
      (harmless_priorityOf _).bind fun _ => (harmless_statusOf _).bind fun _ => harmless_checked _

end Row

theorem PreferenceRow.harmless_toPreference (row : PreferenceRow) :
    Harmless row.toPreference := by
  unfold toPreference
  split
  · exact .ok _
  · exact .error rfl

theorem Record.harmless_after (r : Record) (m : Record.Move) : Harmless (r.after m) := by
  unfold Record.after
  repeat' split
  all_goals first
    | exact .ok _
    | exact .error rfl

namespace Database

variable (db : Database)

theorem harmless_rows : Harmless db.rows := by
  unfold rows
  split
  · exact .ok _
  · exact .error rfl

theorem harmless_preferenceRows : Harmless db.preferenceRows := by
  unfold preferenceRows
  split
  · exact .ok _
  · exact .error rfl

theorem harmless_insert (rows : List Row) (row : Row) : Harmless (db.insert rows row) := by
  have hwritable : Harmless (writable row) := .ite (.ok _) (.error rfl)
  exact hwritable.bind fun row => (Row.harmless_toRecord row).bind fun kept => .ok _

theorem harmless_append (r : Record) : Harmless (db.append r) :=
  db.harmless_rows.bind fun rows => .ite (.error rfl) <|
    (Row.harmless_ofRecord r).bind fun row => db.harmless_insert rows row

theorem harmless_move (id : String) (m : Record.Move) : Harmless (db.move id m) := by
  refine db.harmless_rows.bind fun rows => ?_
  split
  · exact .error rfl
  · rename_i row _
    exact (Row.harmless_toRecord row).bind fun r => (r.harmless_after m).bind fun new =>
      (Row.harmless_ofRecord new).bind fun row => .ok _

theorem harmless_preference? (recipient : String) : Harmless (db.preference? recipient) := by
  refine db.harmless_preferenceRows.bind fun rows => ?_
  split
  · exact .ok _
  · rename_i row _
    exact row.harmless_toPreference.bind fun p => .ok _

end Database

namespace Errand

variable {α : Type} {answer : Except Failure α}

theorem harmless_reply (errand : Errand) (h : Harmless answer) :
    Harmless (errand.reply answer).answer := by
  cases answer with
  | ok a => exact .ok _
  | error f =>
    refine .error ?_
    unfold seen
    split
    · rfl
    · exact h f rfl

theorem harmless_appendReply (id : String) (h : Harmless answer) :
    Harmless (appendReply id answer).answer := by
  unfold appendReply
  split
  · split
    · exact .error rfl
    · exact harmless_reply _ h
  · exact harmless_reply _ h

end Errand

theorem History.harmless_append (h : History) (r : Record) : Harmless (h.append r) := by
  unfold History.append
  exact .ite (.error rfl) (.ok _)

theorem History.harmless_move (h : History) (id : String) (m : Record.Move) :
    Harmless (h.move id m) := by
  unfold History.move
  split
  · exact .error rfl
  · rename_i r _
    exact (r.harmless_after m).map

/-! ## Stores -/

namespace Store

variable {s : Store} {f : Failure}

theorem harmless_settle {α : Type} {answer : Except Failure (Backing × α)} (h : Harmless answer) :
    Harmless (s.settle answer).2 := by
  unfold settle
  split
  · exact .ok _
  · rename_i g
    exact .error (h g rfl)

/-- An operation fails for what befalls it, or it is merely hindered. -/
theorem append_fails {r : Record} (h : (s.append r).2.answer = .error f) :
    s.faults.append = some f ∨ f.isInterrupt = false := by
  unfold append at h
  split at h
  · rename_i g hg
    cases h
    exact .inl hg
  · right
    revert h
    split
    · rename_i history p _
      exact harmless_settle (history.harmless_append r).map f
    · rename_i db _
      exact Errand.harmless_appendReply r.id (harmless_settle (db.harmless_append r).map) f

theorem move_fails {id : String} {m : Record.Move} (h : (s.move id m).2.answer = .error f) :
    s.faults.move = some f ∨ f.isInterrupt = false := by
  unfold move at h
  split at h
  · rename_i g hg
    cases h
    exact .inl hg
  · right
    revert h
    split
    · rename_i history p _
      exact harmless_settle (history.harmless_move id m).map f
    · rename_i db _
      exact (Errand.move id).harmless_reply (harmless_settle (db.harmless_move id m).map) f

theorem preference?_fails {recipient : String}
    (h : (s.preference? recipient).answer = .error f) :
    s.faults.preference = some f ∨ f.isInterrupt = false := by
  unfold preference? at h
  split at h
  · rename_i g hg
    cases h
    exact .inl hg
  · right
    revert h
    split
    · exact Harmless.ok _ f
    · rename_i db _
      exact (Errand.preference recipient).harmless_reply (db.harmless_preference? recipient) f

end Store

end Courier
