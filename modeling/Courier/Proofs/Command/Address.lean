import Courier.Command.Run
import Courier.Proofs.Command.Setup
import Courier.Proofs.Preference.Rereading

/-!
# Keeping an address

The command that sends may be given an address. It is kept, in normal form, for a recipient of whom
nothing is known; the rows of everybody else, and all there is about the recipient already, stay as
they are (`KeepsAddress`, `Command.exists_keeping`).
-/

namespace Courier

/-! ## Preferences made of an address -/

theorem Form.eq_of_someText {s t : String} (h : someText (.text s) = .ok t) : t = s := by
  simp only [someText, text, Checked.andThen_ok] at h
  split at h
  · cases h
  · exact (Checked.ok.inj h).symm

namespace Preference

/-- Preferences made of a recipient and an address have the address in normal form, and else what is
usual. -/
theorem of_ofValue_address {recipient address : String} {p : Preference}
    (h : ofValue (.dict [(.text "recipient_id", .text recipient),
      (.text "email", .text address)]) = .ok p) :
    ∃ normal, MailAddress.normalize (Text.trim address) = .ok normal ∧
      p = { recipient := recipient, address := normal } := by
  let bag : Bag := [(.text "recipient_id", .text recipient), (.text "email", .text address)]
  have hrecipient : bag.getText? "recipient_id" = some (.text recipient) := rfl
  have haddress : bag.getText? "email" = some (.text address) := rfl
  have henabled : bag.getText? "enabled" = none := rfl
  have hswitches : bag.getText? "toggles" = none := rfl
  have hfrequency : bag.getText? "frequency" = none := rfl
  have hquiet : bag.getText? "quiet_hours" = none := rfl
  simp only [ofValue, Form.ofValue, Checked.andThen_ok, Functor.map, Seq.seq, Form.required,
    Form.field, bag, hrecipient, haddress, henabled, hswitches, hfrequency, hquiet,
    Checked.seq_eq_ok_iff, Checked.map_eq_ok_iff, Checked.within_eq_ok_iff, Checked.ok.injEq] at h
  obtain ⟨_, _, ⟨_, _, ⟨_, _, ⟨_, _, ⟨_, normal, ⟨id, hid, rfl⟩, hnormal, rfl⟩, rfl, rfl⟩, rfl,
    rfl⟩, rfl, rfl⟩, rfl, rfl⟩ := h
  exact ⟨normal, normalAddress_text_eq_ok_iff.mp hnormal, by rw [Form.eq_of_someText hid]⟩

end Preference

namespace PreferenceRow

theorem find?_eq_none_iff {rows : List PreferenceRow} {recipient : String} :
    find? rows recipient = none ↔ ∀ row ∈ rows, row.recipient ≠ recipient := by
  simp [find?]

/-- The row of a recipient of whom nothing is known comes last. -/
theorem put_of_find?_eq_none : ∀ {rows : List PreferenceRow} {p : Preference},
    find? rows p.recipient = none → put rows p = rows ++ [ofPreference p]
  | [], _, _ => rfl
  | row :: rest, p, h => by
    have others := find?_eq_none_iff.mp h
    have other : row.recipient ≠ p.recipient := others row List.mem_cons_self
    have later : find? rest p.recipient = none :=
      find?_eq_none_iff.mpr fun r hr => others r (List.mem_cons_of_mem row hr)
    rw [put, if_neg (by simpa using other), put_of_find?_eq_none later, List.cons_append]

end PreferenceRow

/-- What keeping an address may do to the preferences in a table: nothing, or there is one more row,
for a recipient who had none, with the address that was given in normal form. -/
inductive KeepsAddress (recipient : String) (address : Option String)
    (before : List PreferenceRow) : List PreferenceRow → Prop
  | unchanged : KeepsAddress recipient address before before
  | added {given normal : String} (given_eq : address = some given) (given_ne : given ≠ "")
      (unknown : ∀ row ∈ before, row.recipient ≠ recipient)
      (normalized : MailAddress.normalize (Text.trim given) = .ok normal) :
      KeepsAddress recipient address before
        (before ++ [.ofPreference { recipient := recipient, address := normal }])

/-! ## The address of a recipient -/

namespace Store

variable {faults : Faults} {table : List PreferenceRow} {rows : List Row}

/-- Where a database says that it has no preferences, it has none. -/
theorem find?_of_preference? {recipient : String}
    (h : ((ofRows faults (some table) rows).preference? recipient).answer = .ok none) :
    PreferenceRow.find? table recipient = none := by
  cases hfind : PreferenceRow.find? table recipient with
  | none => rfl
  | some row =>
    unfold preference? at h
    split at h
    · cases h
    · have hasked : Database.preference? ⟨some rows, some table⟩ recipient =
          row.toPreference.map some := by
        simp only [Database.preference?, Database.preferenceRows, bind, Except.bind, hfind]
        cases row.toPreference <;> rfl
      simp only [ofRows, hasked] at h
      cases hread : row.toPreference with
      | ok q =>
        rw [hread] at h
        cases h
      | error f =>
        rw [hread] at h
        cases h

end Store

theorem Dispatcher.putPreference_ofRows {d : Dispatcher} {faults : Faults}
    {table : List PreferenceRow} {rows : List Row}
    (h : d.store = Store.ofRows faults (some table) rows) (p : Preference) :
    (d.putPreference p).1.store = Store.ofRows faults (some (PreferenceRow.put table p)) rows ∧
      (d.putPreference p).2.answer = .ok () := by
  rw [putPreference, h]
  exact ⟨rfl, rfl⟩

namespace Command

theorem of_preferenceFor {recipient address : String} {p : Preference}
    (h : preferenceFor recipient address = .ok p) :
    ∃ normal, MailAddress.normalize (Text.trim address) = .ok normal ∧
      p = { recipient := recipient, address := normal } := by
  unfold preferenceFor at h
  split at h
  · rename_i made hvalue
    cases h
    exact Preference.of_ofValue_address hvalue
  · cases h

theorem harmless_preferenceFor (recipient address : String) :
    Harmless (preferenceFor recipient address) := by
  unfold preferenceFor
  split
  · exact .ok _
  · exact .error rfl

/-- What keeping an address comes to on a depot with the rows of two tables: the preferences have
one more row at most, and they have none more if it fails, in which case nothing stops the
program. -/
structure Keeping (recipient : String) (address : Option String) (disk : Disk) (path : Path)
    (t : Tables) (preferences : List PreferenceRow) (kept : Depot × Reply Unit) : Prop where
  on : kept.1.On disk path { t with preferences := preferences }
  keeps : KeepsAddress recipient address t.preferences preferences
  harmless : Harmless kept.2.answer
  failed : ∀ f, kept.2.answer = .error f → preferences = t.preferences

variable {d : Depot} {disk : Disk} {path : Path} {t : Tables} {recipient : String}
  {address : Option String}

theorem Keeping.stays {reply : Reply Unit} (on : d.On disk path t)
    (harmless : Harmless reply.answer) :
    Keeping recipient address disk path t t.preferences (d, reply) :=
  ⟨on, .unchanged, harmless, fun _ _ => rfl⟩

/-- Keeping an address of somebody of whom the table knows nothing. -/
theorem Keeping.adds {given normal : String} (on : d.On disk path t)
    (given_eq : address = some given) (given_ne : given ≠ "")
    (unknown : PreferenceRow.find? t.preferences recipient = none)
    (normalized : MailAddress.normalize (Text.trim given) = .ok normal) (log : List Log.Entry) :
    let p : Preference := { recipient := recipient, address := normal }
    Keeping recipient address disk path t (t.preferences ++ [.ofPreference p])
      ({ d with dispatcher := (d.dispatcher.putPreference p).1 },
        ⟨(d.dispatcher.putPreference p).2.answer, log⟩) := by
  intro p
  obtain ⟨hstore, hanswer⟩ := Dispatcher.putPreference_ofRows on.store p
  rw [PreferenceRow.put_of_find?_eq_none unknown] at hstore
  rw [hanswer]
  exact ⟨⟨on.database, hstore, on.takes⟩,
    .added given_eq given_ne (PreferenceRow.find?_eq_none_iff.mp unknown) normalized, .ok _, nofun⟩

theorem exists_keeping (on : d.On disk path t) (recipient : String) (address : Option String) :
    ∃ preferences,
      Keeping recipient address disk path t preferences (keepAddress d recipient address) := by
  have asked : Harmless (d.dispatcher.store.preference? recipient).answer := by
    intro f hf
    rcases Store.preference?_fails hf with hfault | harmless
    · rw [on.store] at hfault
      cases hfault
    · exact harmless
  unfold keepAddress
  split
  · exact ⟨_, .stays on (.ok _)⟩
  · rename_i given hgiven
    obtain ⟨given_eq, nonempty⟩ := Text.given_eq_some_iff.mp hgiven
    have given_ne : given ≠ "" := by
      rintro rfl
      cases nonempty
    dsimp only
    split
    · rename_i f hasked
      exact ⟨_, .stays on (.error (asked f hasked))⟩
    · exact ⟨_, .stays on (.ok _)⟩
    · rename_i hasked
      rw [on.store] at hasked
      split
      · rename_i f hmade
        exact ⟨_, .stays on (.error (harmless_preferenceFor recipient given f hmade))⟩
      · rename_i p hmade
        obtain ⟨normal, normalized, rfl⟩ := of_preferenceFor hmade
        exact ⟨_, .adds on given_eq given_ne (Store.find?_of_preference? hasked) normalized _⟩

end Command

end Courier
