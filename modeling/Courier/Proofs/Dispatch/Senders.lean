import Courier.Proofs.Dispatch.Notice
import Courier.Proofs.Dispatch.Outcome

/-!
# What the senders' messages say

The messages of notices come from the built-in templates, so it can be told of each of them which
placeholders are left and whether its sections are there, whatever the facts are. Main statement:
`Notice.handed_over_resolved`. It goes from the record that a transport is handed to the rendered
texts (`Notice.message_of_handsOver`), and from there to the layouts of the templates with the values
of the notice (`Notice.message_eq`).
-/

namespace Courier

open Template Request

namespace Notice

/-- The texts of a record have exactly the placeholders that are left of a notice. -/
structure ResolvedIn (n : Notice) (r : Record) : Prop where
  subject : Leaves r.subject n.placeholders.subject
  htmlBody : Leaves r.htmlBody n.placeholders.htmlBody
  textBody : Leaves r.textBody n.placeholders.textBody

/-- The records that a transport is handed in the course of a notice: none if there is no request for
it. -/
def handed (d : Dispatcher) (n : Notice) (now : Reading) (s : Surroundings)
    (deliver : Record → Completion) (clock : Except Failure Reading) : List Record :=
  match n.request d.links now with
  | .error _ => []
  | .ok q => (d.attempt q s deliver clock).handed

/-- A transport may be handed this record in the course of a notice: there are a time and
surroundings in which it is. -/
def HandsOver (d : Dispatcher) (n : Notice) (r : Record) : Prop :=
  ∃ now s deliver clock, r ∈ n.handed d now s deliver clock

variable {n : Notice} {links : Links} {now : Reading} {q : Request} {d : Dispatcher}
  {s : Surroundings} {r : Record}

/-! ## Messages -/

/-- What the texts of a template come to with the values of a notice. -/
def comesTo (n : Notice) (links : Links) (text : String) : String :=
  String.ofList ((Layout.ofText text).evaluated (present (n.facts links)).getText?)

/-- A message is rendered exactly if its three texts are. -/
theorem texts_eq_ok_iff {t : Template} {bag : Bag} {m : Message} : Message.texts t bag = .ok m ↔
    render? t.subject bag = .ok m.subject ∧ render? t.htmlBody bag = .ok m.htmlBody ∧
      render? t.textBody bag = .ok m.textBody := by
  unfold Message.texts
  cases subject : render? t.subject bag with
  | error fault => simp [bind, Except.bind]
  | ok subject =>
    cases html : render? t.htmlBody bag with
    | error fault => simp [bind, Except.bind]
    | ok html =>
      cases text : render? t.textBody bag with
      | error fault => simp [bind, Except.bind]
      | ok text =>
        obtain ⟨_, _, _⟩ := m
        simp [bind, Except.bind, pure, Except.pure]

theorem render?_comesTo (plain : n.Plain) (hlinks : links.Plain)
    (bagPlain : Template.Plain (present (n.facts links))) {text : String}
    (tidy : (Layout.ofText text).Tidy) :
    render? text (present (n.facts links)) = .ok (n.comesTo links text) :=
  render?_of_tidy bagPlain (cleanFacts plain hlinks).unmarked tidy

/-- The message of a notice, if it can be rendered at all. -/
theorem message_eq (plain : n.Plain) (hlinks : links.Plain) {m : Message}
    (h : Message.texts n.template (present (n.facts links)) = .ok m) :
    Template.Plain (present (n.facts links)) ∧ m = ⟨n.comesTo links n.template.subject,
      n.comesTo links n.template.htmlBody, n.comesTo links n.template.textBody⟩ := by
  obtain ⟨subject, html, text⟩ := texts_eq_ok_iff.mp h
  have bagPlain := (cleanFacts plain hlinks).plain_present (written_of_render? subject)
  have fits := n.fits_template
  rw [render?_comesTo plain hlinks bagPlain fits.subject.tidy] at subject
  rw [render?_comesTo plain hlinks bagPlain fits.htmlBody.tidy] at html
  rw [render?_comesTo plain hlinks bagPlain fits.textBody.tidy] at text
  refine ⟨bagPlain, ?_⟩
  rw [Except.ok.inj subject, Except.ok.inj html, Except.ok.inj text]

/-- The message of a notice can be rendered if its numbers can be written. -/
theorem exists_message (plain : n.Plain) (hlinks : links.Plain)
    (short : ∀ k ∈ n.numbers, k.natAbs < 10 ^ digitLimit) :
    ∃ m, Message.texts n.template (present (n.facts links)) = .ok m := by
  have bagPlain := (cleanFacts plain hlinks).plain_present (written_facts plain hlinks short)
  have fits := n.fits_template
  have subject := render?_comesTo plain hlinks bagPlain fits.subject.tidy
  have html := render?_comesTo plain hlinks bagPlain fits.htmlBody.tidy
  have text := render?_comesTo plain hlinks bagPlain fits.textBody.tidy
  exact ⟨⟨_, _, _⟩, texts_eq_ok_iff.mpr ⟨subject, html, text⟩⟩

theorem leaves_comesTo (bagPlain : Template.Plain (present (n.facts links))) {text : String}
    {names : List String} {slots : List Slot} (has : (Layout.ofText text).Has names slots) :
    Leaves (n.comesTo links text)
      (names.filter fun name => ((n.facts links).lookup name).join.isNone) := by
  refine leaves_of_tidy bagPlain has.tidy fun name => ?_
  rw [has.names]
  exact n.filled_absent links

/-- A body comes to the same frame around its sections, wherever the interview takes place. -/
theorem comesTo_placed (n : Notice) (links : Links) (link location : Option String) {text : String}
    {names : List String} {slots : List Slot} (has : (Layout.ofText text).Has names slots)
    (short : slots.length ≤ 2)
    (outside : ∀ name ∈ names, (present ((n.placed link location).facts links)).getText? name =
      (present (n.facts links)).getText? name)
    (found : ∀ slot ∈ slots, (present ((n.placed link location).facts links)).getText? slot.name =
      ((n.placed link location).argument slot.name).map .text) :
    (n.placed link location).comesTo links text =
      ((Layout.ofText text).frame (present (n.facts links)).getText?).around
        (Layout.sectionText slots (n.placed link location).argument 0)
        (Layout.sectionText slots (n.placed link location).argument 1) := by
  have same : (Layout.ofText text).frame (present ((n.placed link location).facts links)).getText? =
      (Layout.ofText text).frame (present (n.facts links)).getText? := by
    refine Layout.frame_congr fun name hname => outside name ?_
    rw [← has.names]
    exact hname
  rw [comesTo, Layout.ofList_evaluated has short found, same]

/-! ## Records -/

/-- Nothing keeps a notice from becoming a record with this identifier: its recipient allows it, and
there are the time and the identifier. -/
structure Serves (d : Dispatcher) (n : Notice) (s : Surroundings) (id : String) : Prop where
  allowed : ∃ p, (d.store.preference? n.recipient).answer = .ok p ∧
    Preference.decision p n.template.eventType = .allowed
  timed : ∃ now a, s.clock = .ok now ∧ now.toInstant? = some a ∧ s.newId now = .ok id

/-- A new record has the texts of its message. -/
theorem texts_of_newRecord {p : Option Preference} {t : Template} {m : Message} {id : String}
    (h : Dispatcher.newRecord q p t m id now = .ok r) :
    r.id = id ∧ (r.subject = m.subject ∧ r.htmlBody = m.htmlBody ∧ r.textBody = m.textBody) := by
  unfold Dispatcher.newRecord at h
  split at h
  · cases h
  · split at h
    · cases h
    · cases h
      exact ⟨rfl, rfl, rfl, rfl⟩

theorem exists_entries : ∀ {bag : Bag}, (∀ e ∈ bag, ∃ key, e.1 = .text key) →
    ∃ out, Form.entries Record.anything (.dict bag) = .ok out
  | [], _ => ⟨[], rfl⟩
  | (key, v) :: rest, h => by
    obtain ⟨name, rfl⟩ := h _ List.mem_cons_self
    obtain ⟨out, hout⟩ := exists_entries fun e he => h e (List.mem_cons_of_mem _ he)
    refine ⟨(name, v) :: out, ?_⟩
    rw [Form.entries] at hout ⊢
    rw [List.map_cons, Checked.all, hout]
    rfl

theorem text_of_mem_put {bag : Bag} (h : ∀ e ∈ bag, ∃ key, e.1 = .text key) (name : String)
    (v : Value) : ∀ e ∈ bag.put (.text name) v, ∃ key, e.1 = .text key := by
  induction bag with
  | nil =>
    intro e he
    rw [List.mem_singleton.mp he]
    exact ⟨name, rfl⟩
  | cons entry rest ih =>
    obtain ⟨k, old⟩ := entry
    have first : ∃ key, k = .text key := h (k, old) List.mem_cons_self
    have others := ih fun e he => h e (List.mem_cons_of_mem _ he)
    rw [Bag.put]
    split
    · intro e he
      rcases List.mem_cons.mp he with rfl | he
      · exact first
      · exact h e (List.mem_cons_of_mem _ he)
    · intro e he
      rcases List.mem_cons.mp he with rfl | he
      · exact first
      · exact others e he

/-- There is a new record for a request whose metadata is told by texts. -/
theorem exists_newRecord (p : Option Preference) (t : Template) (m : Message) (id : String)
    {a : Instant} (htime : now.toInstant? = some a)
    (hmetadata : ∀ e ∈ q.metadata, ∃ key, e.1 = .text key) :
    ∃ r, Dispatcher.newRecord q p t m id now = .ok r := by
  obtain ⟨out, hout⟩ := exists_entries (text_of_mem_put hmetadata "template_id" (.text t.id))
  unfold Dispatcher.newRecord Dispatcher.metadataOf
  rw [htime, hout]
  exact ⟨_, rfl⟩

theorem mem_handed_iff {deliver : Record → Completion} {clock : Except Failure Reading}
    (hq : n.request d.links now = .ok q) : r ∈ n.handed d now s deliver clock ↔
      (∃ t, (d.plan q s).1 = .ready r t) ∧ ∃ kept, (d.store.append r).2.answer = .ok kept := by
  have flying : (d.start q s).2.1 = .flying ⟨r⟩ ↔ _ := Dispatcher.start_eq_flying_iff
  rw [handed, hq]
  dsimp only
  rw [Dispatcher.handed_eq, ← flying]
  cases (d.start q s).2.1 with
  | ended e => simp
  | flying flight =>
    obtain ⟨record⟩ := flight
    simp [eq_comm]

/-- A record that a transport is handed has the texts of the message of its notice. -/
theorem message_of_handsOver (bundled : d.registry = BuiltIn.all) (h : n.HandsOver d r) :
    ∃ m, Message.texts n.template (present (n.facts d.links)) = .ok m ∧
      r.subject = m.subject ∧ r.htmlBody = m.htmlBody ∧ r.textBody = m.textBody := by
  obtain ⟨now, s, deliver, clock, hmem⟩ := h
  cases hq : n.request d.links now with
  | error f =>
    rw [handed, hq] at hmem
    cases hmem
  | ok q =>
    have asks := asks_of_request hq
    obtain ⟨⟨t, hready⟩, _⟩ := (mem_handed_iff hq).mp hmem
    obtain ⟨p, _, _, hfound, hdraft⟩ := Dispatcher.plan_eq_ready_iff.mp hready
    obtain ⟨_, m, _, _, htexts, _, _, hnew⟩ := Dispatcher.draft_eq_ready_iff.mp hdraft
    rw [bundled, asks.eventType, find?_template] at hfound
    obtain rfl := Option.some.inj hfound
    rw [asks.values] at htexts
    exact ⟨m, htexts, (texts_of_newRecord hnew).2⟩

/-- A notice that is served is handed over as soon as the store takes its record. -/
theorem exists_handed (bundled : d.registry = BuiltIn.all) (plain : n.Plain)
    (hlinks : d.links.Plain) (short : ∀ k ∈ n.numbers, k.natAbs < 10 ^ digitLimit) {a : Instant}
    (htime : now.toInstant? = some a) {id : String} (serves : n.Serves d s id) :
    ∃ r : Record, r.id = id ∧ ∀ deliver clock,
      (∃ kept, (d.store.append r).2.answer = .ok kept) → r ∈ n.handed d now s deliver clock := by
  obtain ⟨q, hq⟩ := n.exists_request d.links htime
  have asks := asks_of_request hq
  obtain ⟨m, htexts⟩ := exists_message plain hlinks short
  obtain ⟨⟨p, hasked, hallowed⟩, ⟨later, b, hclock, hlater, hid⟩⟩ := serves
  obtain ⟨r, hnew⟩ := exists_newRecord p n.template m id hlater asks.metadata
  have hdraft : (Dispatcher.draft q p n.template s).1 = .ready r n.template := by
    refine Dispatcher.draft_eq_ready_iff.mpr ⟨rfl, m, later, id, ?_, hclock, hid, hnew⟩
    rw [asks.values]
    exact htexts
  have hready : (d.plan q s).1 = .ready r n.template := by
    refine Dispatcher.plan_eq_ready_iff.mpr ⟨p, ?_, ?_, ?_, hdraft⟩
    · rw [asks.recipient]
      exact hasked
    · rw [asks.eventType]
      exact hallowed
    · rw [bundled, asks.eventType, find?_template]
  exact ⟨r, (texts_of_newRecord hnew).1, fun deliver clock taken =>
    (mem_handed_iff hq).mpr ⟨⟨n.template, hready⟩, taken⟩⟩

theorem resolvedIn_of_handsOver (bundled : d.registry = BuiltIn.all) (plain : n.Plain)
    (hlinks : d.links.Plain) (h : n.HandsOver d r) : n.ResolvedIn r := by
  obtain ⟨m, htexts, hsubject, hhtml, htext⟩ := message_of_handsOver bundled h
  obtain ⟨bagPlain, rfl⟩ := message_eq plain hlinks htexts
  have fits := n.fits_template
  refine ⟨?_, ?_, ?_⟩
  · rw [placeholders_eq plain d.links, hsubject]
    exact leaves_comesTo bagPlain fits.subject
  · rw [placeholders_eq plain d.links, hhtml]
    exact leaves_comesTo bagPlain fits.htmlBody
  · rw [placeholders_eq plain d.links, htext]
    exact leaves_comesTo bagPlain fits.textBody

/-- The bodies of a record are the same frames around the sections, wherever the interview takes
place. -/
theorem exists_frames (bundled : d.registry = BuiltIn.all) (plain : n.Plain)
    (hlinks : d.links.Plain) : ∃ html text : Frame, ∀ link location, Clean link → Clean location →
      ∀ r, (n.placed link location).HandsOver d r →
        r.htmlBody = html.around (n.placed link location).linkSection.html
            (n.placed link location).locationSection.html ∧
          r.textBody = text.around (n.placed link location).linkSection.text
            (n.placed link location).locationSection.text := by
  refine ⟨(Layout.ofText n.template.htmlBody).frame (present (n.facts d.links)).getText?,
    (Layout.ofText n.template.textBody).frame (present (n.facts d.links)).getText?, ?_⟩
  intro link location hlink hlocation r h
  obtain ⟨m, htexts, _, hhtml, htext⟩ := message_of_handsOver bundled h
  obtain ⟨_, rfl⟩ := message_eq (plain_placed plain hlink hlocation) hlinks htexts
  have fits := n.fits_template
  have outside := n.getText?_placed d.links link location
  have found := (n.placed link location).getText?_slot d.links
  rw [inventory_placed] at found
  rw [template_placed] at hhtml htext
  rw [linkSection_eq, locationSection_eq, inventory_placed, hhtml, htext]
  constructor
  · exact n.comesTo_placed d.links link location fits.htmlBody n.length_slots_le.1
      (fun name hname => outside name (List.mem_append_left _ hname))
      fun slot hslot => found slot (List.mem_append_left _ hslot)
  · exact n.comesTo_placed d.links link location fits.textBody n.length_slots_le.2
      (fun name hname => outside name (List.mem_append_right _ hname))
      fun slot hslot => found slot (List.mem_append_right _ hslot)

/-- Of a notice without braces, sent with the built-in templates and links without braces, a
transport is handed messages with exactly the placeholders that are left of it. Each of their bodies
is one frame around the sections for the meeting link and for the location, and these depend on
nothing but that link and that location. Such a message is handed over whenever the numbers can be
written, nothing keeps the notice from becoming a record, and the store takes the record. -/
theorem handed_over_resolved {d : Dispatcher} (bundled : d.registry = BuiltIn.all)
    (hlinks : d.links.Plain) {n : Notice} (plain : n.Plain) :
    (∀ r, n.HandsOver d r → n.ResolvedIn r) ∧
    (∃ html text : Frame, ∀ link location, Clean link → Clean location →
      ∀ r, (n.placed link location).HandsOver d r →
        r.htmlBody = html.around (n.placed link location).linkSection.html
            (n.placed link location).locationSection.html ∧
          r.textBody = text.around (n.placed link location).linkSection.text
            (n.placed link location).locationSection.text) ∧
    ((∀ k ∈ n.numbers, k.natAbs < 10 ^ digitLimit) → ∀ now a s id, now.toInstant? = some a →
      n.Serves d s id → ∃ r : Record, r.id = id ∧ ∀ deliver clock,
        (∃ kept, (d.store.append r).2.answer = .ok kept) → r ∈ n.handed d now s deliver clock) :=
  ⟨fun _ h => resolvedIn_of_handsOver bundled plain hlinks h, exists_frames bundled plain hlinks,
    fun short _ _ _ _ htime serves => exists_handed bundled plain hlinks short htime serves⟩

/-- An interview on site without an interviewer: a message is handed over that has one placeholder
left, no section for the link, and one for the location. -/
theorem handed_over_resolved_onsite :
    let d : Dispatcher := { registry := BuiltIn.all }
    let n := interviewScheduled ⟨"student-1", some "Ada", some "SRE", some "Acme"⟩
      { date := "2025-03-14", time := "2:00 PM", duration := 60, kind := "Onsite"
        location := some "1 Main St" }
    (d.registry = BuiltIn.all ∧ d.links.Plain ∧ n.Plain) ∧
      (∃ r, n.HandsOver d r ∧ n.ResolvedIn r) ∧
        n.placeholders = ⟨[], ["interviewer"], ["interviewer"]⟩ ∧ n.linkSection = ⟨"", ""⟩ ∧
          n.locationSection.text = "\n- Location: 1 Main St\n" := by
  intro d n
  have hlinks : d.links.Plain := ⟨by decide +kernel, by decide +kernel, by decide +kernel⟩
  have candidacy : Candidacy.Plain ⟨"student-1", some "Ada", some "SRE", some "Acme"⟩ :=
    ⟨⟨_, rfl, by decide⟩, ⟨_, rfl, by decide⟩, ⟨_, rfl, by decide⟩⟩
  have location : Clean (some "1 Main St") := by
    rintro _ ⟨⟩
    decide
  have plain : n.Plain := ⟨candidacy, by decide, by decide, by decide, by rintro _ ⟨⟩,
    by rintro _ ⟨⟩, location⟩
  obtain ⟨resolved, _, exist⟩ := handed_over_resolved (d := d) rfl hlinks plain
  have short : ∀ k ∈ n.numbers, k.natAbs < 10 ^ digitLimit := by
    intro k hk
    rw [List.mem_singleton.mp hk]
    have bound : 10 ^ 2 ≤ 10 ^ digitLimit := Nat.pow_le_pow_right (by decide) (by decide)
    exact Nat.lt_of_lt_of_le (by decide : 60 < 10 ^ 2) bound
  let now := Reading.ofInstant Record.morning
  have serves : n.Serves d ⟨.ok now, fun _ => .ok "notif-1"⟩ "notif-1" :=
    ⟨⟨none, rfl, rfl⟩, now, Record.morning, rfl, Reading.toInstant?_ofInstant _, rfl⟩
  obtain ⟨r, _, handed⟩ := exist short now _ _ _ (Reading.toInstant?_ofInstant _) serves
  have reached : n.HandsOver d r :=
    ⟨now, _, fun _ => .timedOut, .ok now, handed _ _ ⟨r, rfl⟩⟩
  exact ⟨⟨rfl, hlinks, plain⟩, ⟨r, reached, resolved r reached⟩, rfl, rfl, by decide +kernel⟩

end Notice

end Courier
