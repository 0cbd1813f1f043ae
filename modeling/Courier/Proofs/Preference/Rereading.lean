import Courier.Database.Basic
import Courier.Preference.Shelf
import Courier.Proofs.Form.Field
import Courier.Proofs.MailAddress.Normal

/-!
# Preferences read back

A row of a table of preferences holds what a form of preferences holds, and reading it back checks
it like any form. Of preferences that were accepted once the check has only the address to bring
into normal form again (`PreferenceRow.toPreference_ofPreference`), so they come back unchanged if
that form is its own (`PreferenceRow.toPreference_eq_self`).

Preferences written into a table replace what the row of their recipient held before, whatever that
was: a table is always made of the rows of the preferences that a shelf would hold
(`PreferenceRow.put_map`).
-/

namespace Courier

namespace Form

theorem someText_text {v : Value} {s : String} (h : someText v = .ok s) :
    someText (.text s) = .ok s := by
  obtain ⟨t, _, ht⟩ := Checked.andThen_eq_ok_iff.mp h
  split at ht
  · cases ht
  · rename_i filled
    cases ht
    rw [someText, text, Checked.andThen_ok, if_neg filled]

end Form

namespace QuietHours

theorem clock_text {v : Value} {s : String} (h : clock v = .ok s) :
    clock (.text s) = .ok s := by
  obtain ⟨t, _, ht⟩ := Checked.andThen_eq_ok_iff.mp h
  have again : clock (.text t) = .ok s := ht
  by_cases reads : isClock (Text.withoutLineEnd t.toList) = true
  · rw [if_pos reads] at ht
    cases ht
    exact again
  · rw [if_neg reads] at ht
    cases ht

theorem clock_field {form : Bag} {name default s : String}
    (usual : clock (.text default) = .ok default)
    (h : Form.field form name default clock = .ok s) :
    clock (.text s) = .ok s := by
  rcases Form.of_field h with rfl | ⟨v, hv⟩
  · exact usual
  · exact clock_text hv

theorem ofValue_dict (form : Bag) : ofValue (.dict form) =
    (((Form.field form "enabled" false Form.boolean).map QuietHours.mk).seq
      (Form.field form "start" "22:00" clock)).seq (Form.field form "end" "08:00" clock) := rfl

/-- A form describes hours if its fields do. -/
theorem ofValue_dict_eq_ok_iff {form : Bag} {q : QuietHours} : ofValue (.dict form) = .ok q ↔
    Form.field form "enabled" false Form.boolean = .ok q.enabled ∧
      Form.field form "start" "22:00" clock = .ok q.start ∧
      Form.field form "end" "08:00" clock = .ok q.stop := by
  obtain ⟨enabled, start, stop⟩ := q
  rw [ofValue_dict]
  cases Form.field form "enabled" false Form.boolean <;>
    cases Form.field form "start" "22:00" clock <;>
      cases Form.field form "end" "08:00" clock <;> simp [Checked.map, Checked.seq]

theorem clocks_of_ofValue {v : Value} {q : QuietHours} (h : ofValue v = .ok q) :
    clock (.text q.start) = .ok q.start ∧
      clock (.text q.stop) = .ok q.stop := by
  cases v with
  | dict form =>
    obtain ⟨-, start, stop⟩ := ofValue_dict_eq_ok_iff.mp h
    exact ⟨clock_field rfl start, clock_field rfl stop⟩
  | _ => cases h

/-- Hours that were accepted are accepted again. -/
theorem ofValue_toValue {q : QuietHours}
    (start : clock (.text q.start) = .ok q.start)
    (stop : clock (.text q.stop) = .ok q.stop) :
    ofValue q.toJson.toValue = .ok q := by
  have hbag : q.toJson.toValue = .dict [(.text "enabled", .bool q.enabled),
      (.text "start", .text q.start), (.text "end", .text q.stop)] := by
    simp [toJson, Json.toValue, Json.toEntries]
  let bag : Bag := [(.text "enabled", .bool q.enabled), (.text "start", .text q.start),
    (.text "end", .text q.stop)]
  have henabled : Form.field bag "enabled" false Form.boolean = .ok q.enabled := rfl
  have hstart : Form.field bag "start" "22:00" clock = .ok q.start := by
    rw [Form.field_of_getText? (v := .text q.start) rfl, start, Checked.within_ok]
  have hstop : Form.field bag "end" "08:00" clock = .ok q.stop := by
    rw [Form.field_of_getText? (v := .text q.stop) rfl, stop, Checked.within_ok]
  rw [hbag]
  exact ofValue_dict_eq_ok_iff.mpr ⟨henabled, hstart, hstop⟩

end QuietHours

namespace Preference

/-- Preferences that were accepted: a form describes them. -/
def IsAccepted (p : Preference) : Prop := ∃ v, ofValue v = .ok p

/-- Preferences whose address is its own normal form. -/
def IsStable (p : Preference) : Prop := MailAddress.normalize p.address = .ok p.address

theorem isAccepted_of_toOption {v : Value} {p : Preference}
    (h : (ofValue v).toOption = some p) : p.IsAccepted := by
  refine ⟨v, ?_⟩
  cases hv : ofValue v with
  | ok q => simpa [hv, Checked.toOption] using h
  | wrong issues => simp [hv, Checked.toOption] at h

theorem isStable_iff {p : Preference} :
    p.IsStable ↔ (MailAddress.normalize p.address).toOption = some p.address := by
  unfold IsStable
  cases MailAddress.normalize p.address <;> simp [Except.toOption]

instance (p : Preference) : Decidable p.IsStable := decidable_of_iff' _ isStable_iff

theorem normalAddress_text_eq_ok_iff {s normal : String} :
    normalAddress (.text s) = .ok normal ↔ MailAddress.normalize (Text.trim s) = .ok normal := by
  simp only [normalAddress, Form.text, Checked.andThen_ok]
  cases MailAddress.normalize (Text.trim s) <;> simp [Checked.problem]

/-! ## What was accepted is accepted again -/

/-- The parts of preferences that pass their checks, all but the address. -/
structure Passes (p : Preference) : Prop where
  recipient : Form.someText (.text p.recipient) = .ok p.recipient
  switches : ∀ s ∈ p.switches, s.1 ∈ Event.knownSwitches
  start : QuietHours.clock (.text p.quietHours.start) = .ok p.quietHours.start
  stop : QuietHours.clock (.text p.quietHours.stop) = .ok p.quietHours.stop

theorem contains_of_knownSwitches {v : Value} {switches : List (String × Bool)}
    (h : knownSwitches v = .ok switches) :
    ∀ s ∈ switches, s.1 ∈ Event.knownSwitches := by
  obtain ⟨read, _, hread⟩ := Checked.andThen_eq_ok_iff.mp h
  dsimp only at hread
  split at hread
  · rename_i none
    cases hread
    intro s hs
    simp only [List.isEmpty_iff, List.filter_eq_nil_iff] at none
    simpa using none s.1 (List.mem_map_of_mem hs)
  · cases hread

theorem passes_of_ofValue {v : Value} {p : Preference} (h : ofValue v = .ok p) : p.Passes := by
  obtain ⟨form, _, hall⟩ := Checked.andThen_eq_ok_iff.mp h
  obtain ⟨_, quiet, hfive, hquiet, rfl⟩ := Checked.seq_eq_ok_iff.mp hall
  obtain ⟨_, _, hfour, _, rfl⟩ := Checked.seq_eq_ok_iff.mp hfive
  obtain ⟨_, switches, hthree, hswitches, rfl⟩ := Checked.seq_eq_ok_iff.mp hfour
  obtain ⟨_, _, htwo, _, rfl⟩ := Checked.seq_eq_ok_iff.mp hthree
  obtain ⟨_, _, hone, _, rfl⟩ := Checked.seq_eq_ok_iff.mp htwo
  obtain ⟨recipient, hrecipient, rfl⟩ := Checked.map_eq_ok_iff.mp hone
  have clocks : QuietHours.clock (.text quiet.start) = .ok quiet.start ∧
      QuietHours.clock (.text quiet.stop) = .ok quiet.stop := by
    rcases Form.of_field hquiet with rfl | ⟨w, hw⟩
    · exact ⟨rfl, rfl⟩
    · exact QuietHours.clocks_of_ofValue hw
  refine ⟨?_, ?_, clocks.1, clocks.2⟩
  · unfold Form.required at hrecipient
    split at hrecipient
    · exact Form.someText_text (Checked.within_eq_ok_iff.mp hrecipient)
    · cases hrecipient
  · rcases Form.of_field hswitches with rfl | ⟨w, hw⟩
    · simp
    · exact contains_of_knownSwitches hw

theorem toEntries_switches (switches : List (String × Bool)) :
    Json.toEntries (switches.map fun s => (s.1, .bool s.2)) =
      switches.map fun s => (Value.text s.1, Value.bool s.2) := by
  induction switches with
  | nil => rfl
  | cons s rest ih => simp [Json.toEntries, Json.toValue, ih]

/-- Switches that are known are accepted as they are. -/
theorem knownSwitches_dict {switches : List (String × Bool)}
    (known : ∀ s ∈ switches, s.1 ∈ Event.knownSwitches) :
    knownSwitches (.dict (switches.map fun s => (.text s.1, .bool s.2))) = .ok switches := by
  have entries : Form.entries Form.boolean
      (.dict (switches.map fun s => (.text s.1, .bool s.2))) = .ok switches := by
    rw [Form.entries, List.map_map]
    exact Checked.all_map_ok switches
  have none : (switches.map Prod.fst).filter (fun name => !Event.knownSwitches.contains name) =
      [] := by
    simp only [List.filter_eq_nil_iff, List.forall_mem_map]
    intro s hs
    simpa using known s hs
  rw [knownSwitches, entries, Checked.andThen_ok]
  dsimp only
  rw [none]
  rfl

/-- The form of a row is accepted, up to its address. -/
theorem ofValue_toValue {p : Preference} (passes : p.Passes) : ofValue p.toJson.toValue =
    ((normalAddress (.text p.address)).within "email").map fun address =>
      { p with address := address } := by
  let bag : Bag := [(.text "recipient_id", .text p.recipient), (.text "email", .text p.address),
    (.text "enabled", .bool p.enabled),
    (.text "toggles", .dict (p.switches.map fun s => (.text s.1, .bool s.2))),
    (.text "frequency", .text p.frequency.name), (.text "quiet_hours", p.quietHours.toJson.toValue)]
  have hbag : p.toJson.toValue = .dict bag := by
    simp [toJson, Json.toValue, Json.toEntries, toEntries_switches, bag]
  have hrecipient : Form.required bag "recipient_id" Form.someText = .ok p.recipient := by
    rw [Form.required_of_getText? (v := .text p.recipient) rfl, passes.recipient,
      Checked.within_ok]
  have hemail : Form.required bag "email" normalAddress =
      (normalAddress (.text p.address)).within "email" := rfl
  have henabled : Form.field bag "enabled" true Form.boolean = .ok p.enabled := rfl
  have hswitches : Form.field bag "toggles" [] knownSwitches = .ok p.switches := by
    rw [Form.field_of_getText? (v := .dict (p.switches.map fun s => (.text s.1, .bool s.2))) rfl,
      knownSwitches_dict passes.switches, Checked.within_ok]
  have hfrequency : Form.field bag "frequency" .immediate
      (Form.choice (Frequency.all.map Frequency.name) Frequency.ofName?) = .ok p.frequency := by
    rw [Form.field_of_getText? (v := .text p.frequency.name) rfl, Form.choice,
      Frequency.ofName?_name, Checked.within_ok]
  have hquiet : Form.field bag "quiet_hours" {} QuietHours.ofValue = .ok p.quietHours := by
    rw [Form.field_of_getText? (v := p.quietHours.toJson.toValue) rfl,
      QuietHours.ofValue_toValue passes.start passes.stop, Checked.within_ok]
  rw [hbag, ofValue, Form.ofValue, Checked.andThen_ok]
  change Checked.seq (Checked.seq (Checked.seq (Checked.seq (Checked.seq (Checked.map Preference.mk
    _) _) _) _) _) _ = _
  rw [hrecipient, hemail, henabled, hswitches, hfrequency, hquiet]
  cases (normalAddress (.text p.address)).within "email" <;> rfl

end Preference

namespace PreferenceRow

variable {p : Preference}

theorem toJson_ofPreference (p : Preference) : (ofPreference p).toJson = p.toJson := rfl

/-- Reading accepted preferences back brings their address into normal form again and leaves the rest
as it was. -/
theorem toPreference_ofPreference (accepted : p.IsAccepted) : (ofPreference p).toPreference =
    match (Preference.normalAddress (.text p.address)).within "email" with
    | .ok address => .ok { p with address := address }
    | .wrong issues => .error (.invalid "Preference" issues) := by
  obtain ⟨v, hv⟩ := accepted
  rw [toPreference, toJson_ofPreference,
    Preference.ofValue_toValue (Preference.passes_of_ofValue hv)]
  cases (Preference.normalAddress (.text p.address)).within "email" <;> rfl

/-- Accepted preferences whose address is its own normal form come back unchanged. -/
theorem toPreference_eq_self (accepted : p.IsAccepted) (stable : p.IsStable) :
    (ofPreference p).toPreference = .ok p := by
  have bare := MailAddress.isBare_of_normalize stable
  have normal : Preference.normalAddress (.text p.address) = .ok p.address :=
    Preference.normalAddress_text_eq_ok_iff.mpr
      (by rw [Text.trim_eq_self bare.head bare.last, stable])
  rw [toPreference_ofPreference accepted, normal]
  rfl

/-- The row of a recipient is that of the preferences on the shelf. -/
theorem find?_map (shelf : Shelf) (recipient : String) :
    find? (shelf.map ofPreference) recipient = (shelf.get? recipient).map ofPreference := by
  rw [find?, List.find?_map]
  rfl

/-- Writing preferences into a table is putting them on the shelf: nothing is left of what the row
held before. -/
theorem put_map (shelf : Shelf) (p : Preference) :
    put (shelf.map ofPreference) p = (shelf.put p).map ofPreference := by
  induction shelf with
  | nil => rfl
  | cons q rest ih =>
    have recipient : (ofPreference q).recipient = q.recipient := rfl
    rw [List.map_cons, put, Shelf.put, recipient, ih]
    split
    · rename_i same
      rw [apply_eq_ofPreference (recipient.trans (by simpa using same)), List.map_cons]
    · rw [List.map_cons]

end PreferenceRow

end Courier
