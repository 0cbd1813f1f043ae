import Courier.Preference.Shelf
import Mathlib.Data.List.Induction
import Mathlib.Data.List.Nodup

/-!
# A shelf keeps the last preferences of everybody

Putting preferences on a shelf one after another leaves those that were put last for each recipient
(`Shelf.get?_putAll`), one for each (`Shelf.nodup_recipients_putAll`) and for nobody else
(`Shelf.mem_recipients_putAll`).
-/

namespace Courier

namespace Preference

/-- The last preferences of a recipient in a list. -/
def lastOf (recipient : String) (ps : List Preference) : Option Preference :=
  (ps.filter fun p => p.recipient == recipient).getLast?

theorem lastOf_append_singleton (recipient : String) (ps : List Preference) (p : Preference) :
    lastOf recipient (ps ++ [p]) =
      if p.recipient = recipient then some p else lastOf recipient ps := by
  by_cases h : p.recipient = recipient <;> simp [lastOf, List.filter_append, h]

theorem mem_of_lastOf {recipient : String} {ps : List Preference} {p : Preference}
    (h : lastOf recipient ps = some p) : p ∈ ps :=
  List.mem_of_mem_filter (List.mem_of_getLast? h)

end Preference

open Preference (lastOf lastOf_append_singleton)

namespace Shelf

variable {shelf : Shelf} {p : Preference}

/-- The recipients on a shelf. -/
def recipients (shelf : Shelf) : List String := shelf.map Preference.recipient

@[simp] theorem recipients_cons (q : Preference) (rest : List Preference) :
    recipients (q :: rest) = q.recipient :: recipients rest := rfl

/-- Preferences put on a shelf in turn. -/
def putAll (shelf : Shelf) (ps : List Preference) : Shelf := ps.foldl put shelf

@[simp] theorem putAll_append_singleton (shelf : Shelf) (ps : List Preference) (p : Preference) :
    shelf.putAll (ps ++ [p]) = (shelf.putAll ps).put p := by
  simp [putAll]

/-- Putting preferences adds their recipient at the end if the recipient is new. -/
theorem recipients_put (shelf : Shelf) (p : Preference) : (shelf.put p).recipients =
    if p.recipient ∈ shelf.recipients then shelf.recipients
    else shelf.recipients ++ [p.recipient] := by
  induction shelf with
  | nil => rfl
  | cons q rest ih =>
    by_cases h : q.recipient = p.recipient
    · simp [put, h]
    · have other : ¬p.recipient = q.recipient := fun e => h e.symm
      have step : recipients (put (q :: rest) p) = q.recipient :: recipients (put rest p) := by
        simp [put, h]
      rw [step, ih]
      simp only [recipients_cons, List.mem_cons, other, false_or]
      split
      · rfl
      · rw [List.cons_append]

theorem nodup_recipients_put (distinct : shelf.recipients.Nodup) (p : Preference) :
    (shelf.put p).recipients.Nodup := by
  rw [recipients_put]
  split
  · exact distinct
  · rename_i fresh
    refine List.nodup_append.mpr ⟨distinct, List.nodup_singleton _, fun r hr s hs same => ?_⟩
    obtain rfl := List.mem_singleton.mp hs
    exact fresh (same ▸ hr)

theorem nodup_recipients_putAll (ps : List Preference) : (putAll [] ps).recipients.Nodup := by
  induction ps using List.reverseRecOn with
  | nil => exact List.nodup_nil
  | append_singleton ps p ih =>
    rw [putAll_append_singleton]
    exact nodup_recipients_put ih p

/-- The recipients on the shelf are those of the preferences put there. -/
theorem mem_recipients_putAll {ps : List Preference} {recipient : String} :
    recipient ∈ (putAll [] ps).recipients ↔ ∃ p ∈ ps, p.recipient = recipient := by
  induction ps using List.reverseRecOn with
  | nil => simp [putAll, recipients]
  | append_singleton ps p ih =>
    have step : recipient ∈ ((putAll [] ps).put p).recipients ↔
        recipient ∈ (putAll [] ps).recipients ∨ p.recipient = recipient := by
      rw [recipients_put]
      split
      · rename_i known
        exact ⟨.inl, fun h => h.elim id fun e => e ▸ known⟩
      · simp [eq_comm]
    rw [putAll_append_singleton, step, ih]
    simp [or_and_right, exists_or]

/-- What is kept for a recipient is what was put there last. -/
theorem get?_putAll (recipient : String) (ps : List Preference) :
    (putAll [] ps).get? recipient = lastOf recipient ps := by
  induction ps using List.reverseRecOn with
  | nil => rfl
  | append_singleton ps p ih =>
    rw [putAll_append_singleton, lastOf_append_singleton]
    split
    · rename_i same
      rw [← same, get?_put_self]
    · rename_i other
      rw [get?_put_of_ne _ _ other, ih]

/-- With one set of preferences for a recipient, those on the shelf are those that are found. -/
theorem mem_iff_get? (distinct : shelf.recipients.Nodup) :
    p ∈ shelf ↔ shelf.get? p.recipient = some p := by
  induction shelf with
  | nil => simp
  | cons q rest ih =>
    obtain ⟨other, distinct⟩ := List.nodup_cons.mp distinct
    by_cases h : q.recipient = p.recipient
    · have absent : p ∉ rest := fun hp => other (h ▸ List.mem_map_of_mem hp)
      simp [get?, h, absent, eq_comm]
    · have different : p ≠ q := fun e => h (e ▸ rfl)
      simpa [get?, h, different] using ih distinct

end Shelf

end Courier
