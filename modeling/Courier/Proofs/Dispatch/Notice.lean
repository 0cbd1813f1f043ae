import Courier.Proofs.Dispatch.Facts
import Courier.Proofs.Template.BuiltIn

/-!
# Notices

What a recruiting process tells a candidate is a notice: that an application has changed, that an
interview has a date, or that one is near. A notice leads to a request (`Notice.request`) whose values
are its facts, some of which may be absent. Of the placeholders of its built-in template those are
left that no fact has a value for (`Notice.placeholders_eq`), and the values for the places of an
interview are used by sections only (`Notice.getText?_placed`).
-/

namespace Courier

open Template Request

/-- What a caller asks one of the senders to tell a candidate. -/
inductive Notice where
  | statusUpdate (u : Request.StatusUpdate)
  | interviewScheduled (c : Request.Candidacy) (i : Interview)
  | interviewReminder (c : Request.Candidacy) (i : Interview) (hours : Int)

/-- The texts of both bodies of a message. -/
structure Bodies where
  html : String
  text : String

/-- The placeholders in the texts of a message. -/
structure Placeholders where
  subject : List String
  htmlBody : List String
  textBody : List String

/-- Links without braces. -/
structure Links.Plain (l : Links) : Prop where
  dashboard : BraceFree l.dashboard.toList
  calendar : BraceFree l.calendar.toList
  reschedule : BraceFree l.reschedule.toList

/-- A candidacy all of which is given, without braces. -/
structure Request.Candidacy.Plain (c : Request.Candidacy) : Prop where
  candidate : Given c.candidate
  position : Given c.position
  company : Given c.company

/-- An interview of which nothing has braces. -/
structure Interview.Plain (i : Interview) : Prop where
  date : BraceFree i.date.toList
  time : BraceFree i.time.toList
  kind : BraceFree i.kind.toList
  interviewer : Clean i.interviewer
  meetingLink : Clean i.meetingLink
  location : Clean i.location

namespace Notice

/-! ## Notices -/

/-- The request for a notice, made at a reading of the clock. -/
def request (links : Links) (now : Reading) : Notice → Except Failure Request
  | statusUpdate u => .ok (Request.statusUpdate links u)
  | interviewScheduled c i => Request.interviewScheduled links c i now
  | interviewReminder c i hours => Request.interviewReminder c i (some hours) now

/-- Whom a notice is for. -/
def recipient : Notice → String
  | statusUpdate u => u.recipient
  | interviewScheduled c _ => c.recipient
  | interviewReminder c _ _ => c.recipient

/-- The built-in template in use for a notice. -/
def template : Notice → Template
  | statusUpdate _ => BuiltIn.applicationReceived
  | interviewScheduled .. => BuiltIn.interviewScheduled
  | interviewReminder .. => BuiltIn.interviewReminder

/-- What the template of a notice is made of. -/
def inventory : Notice → BuiltIn.Inventory
  | statusUpdate _ => BuiltIn.received
  | interviewScheduled .. => BuiltIn.scheduled
  | interviewReminder .. => BuiltIn.reminder

/-- The facts that a notice has values for. -/
def facts (links : Links) : Notice → List (String × Option Value)
  | statusUpdate u => u.facts ++
    [("status", Request.text u.status), ("statusMessage", Request.text u.message),
     ("nextSteps", Request.text u.nextSteps), ("dashboardUrl", some (.text links.dashboard)),
     ("applicationId", Request.text u.application)]
  | interviewScheduled c i => c.facts ++ interviewFacts i ++
    [("interviewer", Request.text i.interviewer), ("meetingLink", Request.text i.meetingLink),
     ("location", Request.text i.location), ("calendarUrl", some (.text links.calendar)),
     ("rescheduleUrl", some (.text links.reschedule))]
  | interviewReminder c i hours => c.facts ++ interviewFacts i ++
    [("meetingLink", Request.text i.meetingLink), ("hoursUntil", some (.int hours))]

/-- Every text of a notice that has to be given is, and none has braces. -/
def Plain : Notice → Prop
  | statusUpdate u => u.toCandidacy.Plain ∧ Given u.status ∧ Given u.message ∧ Clean u.nextSteps ∧
    Clean u.application
  | interviewScheduled c i => c.Plain ∧ i.Plain
  | interviewReminder c i _ => c.Plain ∧ i.Plain

/-- The numbers in the message of a notice. -/
def numbers : Notice → List Int
  | statusUpdate _ => []
  | interviewScheduled _ i => [i.duration]
  | interviewReminder _ i hours => [i.duration, hours]

/-- The notice with a meeting link and a location in place of those it has. -/
def placed (link location : Option String) : Notice → Notice
  | statusUpdate u => statusUpdate u
  | interviewScheduled c i =>
    interviewScheduled c { i with meetingLink := link, location := location }
  | interviewReminder c i hours =>
    interviewReminder c { i with meetingLink := link, location := location } hours

/-- The placeholders that are left in the message of a notice. -/
def placeholders : Notice → Placeholders
  | statusUpdate u =>
    let application := if u.application = none then ["applicationId"] else []
    ⟨[], "appliedDate" :: application ++ ["email"], "appliedDate" :: application⟩
  | interviewScheduled _ i =>
    let interviewer := if i.interviewer = none then ["interviewer"] else []
    ⟨[], interviewer, interviewer⟩
  | interviewReminder .. => ⟨[], [], []⟩

/-- The section with the meeting link in the bodies of the message of a notice. -/
def linkSection : Notice → Bodies
  | statusUpdate _ => ⟨"", ""⟩
  | interviewScheduled _ i => ⟨BuiltIn.scheduledLinkHtml.text i.meetingLink,
    BuiltIn.scheduledLinkText.text i.meetingLink⟩
  | interviewReminder _ i _ => ⟨BuiltIn.reminderLinkHtml.text i.meetingLink,
    BuiltIn.reminderLinkText.text i.meetingLink⟩

/-- The section with the location in the bodies of the message of a notice. -/
def locationSection : Notice → Bodies
  | interviewScheduled _ i => ⟨BuiltIn.scheduledLocationHtml.text i.location,
    BuiltIn.scheduledLocationText.text i.location⟩
  | statusUpdate _ | interviewReminder .. => ⟨"", ""⟩

variable {n : Notice} {links : Links} {now : Reading} {q : Request}

/-! ## Requests -/

/-- A request for a notice. -/
structure Asks (n : Notice) (links : Links) (q : Request) : Prop where
  recipient : q.recipient = n.recipient
  eventType : q.eventType = n.template.eventType
  values : q.values = present (n.facts links)
  metadata : ∀ e ∈ q.metadata, ∃ key, e.1 = .text key

theorem text_of_mem_present {facts : List (String × Option Value)} :
    ∀ e ∈ present facts, ∃ key, e.1 = .text key := by
  intro e he
  obtain ⟨f, _, v, _, rfl⟩ := mem_present_iff.mp he
  exact ⟨f.1, rfl⟩

theorem exists_of_map_eq_ok {f : Bag → Request} {metadata : Except Failure Bag}
    (h : metadata.map f = .ok q) : ∃ m, metadata = .ok m ∧ f m = q := by
  cases metadata with
  | error failure => cases h
  | ok m => exact ⟨m, rfl, Except.ok.inj h⟩

theorem text_of_interviewMetadata {metadata : Bag} (h : interviewMetadata now = .ok metadata) :
    ∀ e ∈ metadata, ∃ key, e.1 = .text key := by
  unfold interviewMetadata at h
  split at h
  · cases h
    intro e he
    rw [List.mem_singleton.mp he]
    exact ⟨_, rfl⟩
  · cases h

theorem asks_of_request (h : n.request links now = .ok q) : n.Asks links q := by
  cases n with
  | statusUpdate u =>
    cases h
    exact ⟨rfl, rfl, rfl, text_of_mem_present⟩
  | interviewScheduled c i =>
    obtain ⟨metadata, hmetadata, rfl⟩ := exists_of_map_eq_ok h
    exact ⟨rfl, rfl, rfl, text_of_interviewMetadata hmetadata⟩
  | interviewReminder c i hours =>
    obtain ⟨metadata, hmetadata, rfl⟩ := exists_of_map_eq_ok h
    exact ⟨rfl, rfl, rfl, text_of_interviewMetadata hmetadata⟩

/-- There is a request for every notice as long as the clock is within the calendar. -/
theorem exists_request (n : Notice) (links : Links) {a : Instant} (h : now.toInstant? = some a) :
    ∃ q, n.request links now = .ok q := by
  have metadata : interviewMetadata now =
      .ok [(.text "interview_id", .text (Identifier.interview a))] := by
    rw [interviewMetadata, h]
  cases n with
  | statusUpdate u => exact ⟨_, rfl⟩
  | interviewScheduled c i =>
    rw [request, Request.interviewScheduled, metadata]
    exact ⟨_, rfl⟩
  | interviewReminder c i hours =>
    rw [request, Request.interviewReminder, metadata]
    exact ⟨_, rfl⟩

theorem find?_template (n : Notice) :
    Registry.find? BuiltIn.all n.template.eventType = some n.template := by
  cases n <;> rfl

theorem fits_template (n : Notice) : BuiltIn.Fits n.template n.inventory := by
  cases n with
  | statusUpdate u => exact BuiltIn.fits_applicationReceived
  | interviewScheduled c i => exact BuiltIn.fits_interviewScheduled
  | interviewReminder c i hours => exact BuiltIn.fits_interviewReminder

/-! ## Values -/

theorem tells_candidacy {c : Candidacy} (h : c.Plain) (numbers : List Int) :
    ∀ f ∈ c.facts, Tells numbers f.2 := by
  simp only [Candidacy.facts, List.forall_mem_cons, List.not_mem_nil, false_implies, implies_true,
    and_true]
  exact ⟨h.candidate.clean.tells _, h.position.clean.tells _, h.company.clean.tells _⟩

theorem tells_interview {i : Interview} (h : i.Plain) {numbers : List Int}
    (duration : i.duration ∈ numbers) : ∀ f ∈ interviewFacts i, Tells numbers f.2 := by
  simp only [interviewFacts, List.forall_mem_cons, List.not_mem_nil, false_implies, implies_true,
    and_true]
  exact ⟨tells_some_text h.date _, tells_some_text h.time _, tells_some_int duration,
    tells_some_text h.kind _⟩

/-- The values of a plain notice are texts without braces and its numbers. -/
theorem tells_facts (plain : n.Plain) (hlinks : links.Plain) :
    ∀ f ∈ n.facts links, Tells n.numbers f.2 := by
  cases n with
  | statusUpdate u =>
    obtain ⟨candidacy, status, message, nextSteps, application⟩ := plain
    rw [facts, List.forall_mem_append]
    refine ⟨tells_candidacy candidacy _, ?_⟩
    simp only [List.forall_mem_cons, List.not_mem_nil, false_implies, implies_true, and_true]
    exact ⟨status.clean.tells _, message.clean.tells _, nextSteps.tells _,
      tells_some_text hlinks.dashboard _, application.tells _⟩
  | interviewScheduled c i =>
    obtain ⟨candidacy, interview⟩ := plain
    rw [facts, List.forall_mem_append, List.forall_mem_append]
    refine ⟨⟨tells_candidacy candidacy _, tells_interview interview List.mem_cons_self⟩, ?_⟩
    simp only [List.forall_mem_cons, List.not_mem_nil, false_implies, implies_true, and_true]
    exact ⟨interview.interviewer.tells _, interview.meetingLink.tells _, interview.location.tells _,
      tells_some_text hlinks.calendar _, tells_some_text hlinks.reschedule _⟩
  | interviewReminder c i hours =>
    obtain ⟨candidacy, interview⟩ := plain
    rw [facts, List.forall_mem_append, List.forall_mem_append]
    refine ⟨⟨tells_candidacy candidacy _, tells_interview interview List.mem_cons_self⟩, ?_⟩
    simp only [List.forall_mem_cons, List.not_mem_nil, false_implies, implies_true, and_true]
    exact ⟨interview.meetingLink.tells _,
      tells_some_int (List.mem_cons_of_mem _ List.mem_cons_self)⟩

/-- The names of the values of a notice. -/
def factNames : Notice → List String
  | statusUpdate _ => ["candidateName", "position", "company", "status", "statusMessage",
    "nextSteps", "dashboardUrl", "applicationId"]
  | interviewScheduled .. => ["candidateName", "position", "company", "interviewDate",
    "interviewTime", "duration", "interviewType", "interviewer", "meetingLink", "location",
    "calendarUrl", "rescheduleUrl"]
  | interviewReminder .. => ["candidateName", "position", "company", "interviewDate",
    "interviewTime", "duration", "interviewType", "meetingLink", "hoursUntil"]

theorem map_fst_facts (n : Notice) (links : Links) :
    (n.facts links).map Prod.fst = n.factNames := by
  cases n <;> rfl

theorem nodup_factNames (n : Notice) : n.factNames.Nodup := by
  cases n <;> simp [factNames]

theorem isWord_of_mem_factNames (n : Notice) :
    ∀ name ∈ n.factNames, name.toList.all Text.isWordChar = true := by
  cases n <;> simp only [factNames] <;> decide +kernel

theorem cleanFacts (plain : n.Plain) (hlinks : links.Plain) : CleanFacts (n.facts links) where
  words := by
    intro f hf
    refine n.isWord_of_mem_factNames _ ?_
    rw [← n.map_fst_facts links]
    exact List.mem_map_of_mem hf
  distinct := by
    rw [map_fst_facts]
    exact n.nodup_factNames
  plain := fun f hf => (tells_facts plain hlinks f hf).braceFree

theorem written_facts (plain : n.Plain) (hlinks : links.Plain)
    (short : ∀ k ∈ n.numbers, k.natAbs < 10 ^ digitLimit) :
    ∀ e ∈ present (n.facts links), ∃ s, e.2.written? = .ok s := by
  intro e he
  obtain ⟨f, hf, v, hv, rfl⟩ := mem_present_iff.mp he
  exact (tells_facts plain hlinks f hf).written short v hv

theorem getText?_facts (n : Notice) (links : Links) (name : String) :
    (present (n.facts links)).getText? name = ((n.facts links).lookup name).join := by
  refine getText?_present ?_ name
  rw [map_fst_facts]
  exact n.nodup_factNames

/-- The placeholders that are left are those of the template that no fact has a value for. -/
theorem placeholders_eq (plain : n.Plain) (links : Links) :
    let absent := fun name => ((n.facts links).lookup name).join.isNone
    n.placeholders = ⟨n.inventory.subject.filter absent, n.inventory.htmlBody.filter absent,
      n.inventory.textBody.filter absent⟩ := by
  cases n with
  | statusUpdate u =>
    obtain ⟨⟨recipient, candidate, position, company⟩, status, message, nextSteps, application⟩ := u
    obtain ⟨⟨⟨_, rfl, _⟩, ⟨_, rfl, _⟩, ⟨_, rfl, _⟩⟩, ⟨_, rfl, _⟩, ⟨_, rfl, _⟩, _⟩ := plain
    cases application <;> rfl
  | interviewScheduled c i =>
    obtain ⟨recipient, candidate, position, company⟩ := c
    obtain ⟨date, time, duration, kind, interviewer, meetingLink, location⟩ := i
    obtain ⟨⟨⟨_, rfl, _⟩, ⟨_, rfl, _⟩, ⟨_, rfl, _⟩⟩, _⟩ := plain
    cases interviewer <;> rfl
  | interviewReminder c i hours =>
    obtain ⟨recipient, candidate, position, company⟩ := c
    obtain ⟨⟨⟨_, rfl, _⟩, ⟨_, rfl, _⟩, ⟨_, rfl, _⟩⟩, _⟩ := plain
    rfl

theorem filled_absent (n : Notice) (links : Links) {names : List String} {name : String} :
    name ∈ names.filter (fun name => ((n.facts links).lookup name).join.isNone) ↔
      name ∈ names ∧ (present (n.facts links)).getText? name = none := by
  rw [List.mem_filter, getText?_facts, Option.isNone_iff_eq_none]

/-! ## Sections -/

/-- The argument for a section. -/
def argument : Notice → String → Option String
  | statusUpdate _, _ => none
  | interviewScheduled _ i, name | interviewReminder _ i _, name =>
    if name = "meetingLink" then i.meetingLink else i.location

theorem getText?_slot (n : Notice) (links : Links) :
    ∀ slot ∈ n.inventory.htmlSlots ++ n.inventory.textSlots,
      (present (n.facts links)).getText? slot.name = (n.argument slot.name).map .text := by
  intro slot hslot
  rw [getText?_facts]
  revert slot
  cases n with
  | statusUpdate u => simp [inventory, BuiltIn.received]
  | interviewScheduled c i =>
    simp [inventory, BuiltIn.scheduled, BuiltIn.scheduledLinkHtml, BuiltIn.scheduledLinkText,
      BuiltIn.scheduledLocationHtml, BuiltIn.scheduledLocationText, argument, facts,
      Candidacy.facts, interviewFacts, Request.text, List.lookup_cons]
  | interviewReminder c i hours =>
    simp [inventory, BuiltIn.reminder, BuiltIn.reminderLinkHtml, BuiltIn.reminderLinkText, argument,
      facts, Candidacy.facts, interviewFacts, Request.text, List.lookup_cons]

theorem linkSection_eq (n : Notice) :
    n.linkSection = ⟨Layout.sectionText n.inventory.htmlSlots n.argument 0,
      Layout.sectionText n.inventory.textSlots n.argument 0⟩ := by
  cases n <;> rfl

theorem locationSection_eq (n : Notice) :
    n.locationSection = ⟨Layout.sectionText n.inventory.htmlSlots n.argument 1,
      Layout.sectionText n.inventory.textSlots n.argument 1⟩ := by
  cases n <;> rfl

theorem length_slots_le (n : Notice) :
    n.inventory.htmlSlots.length ≤ 2 ∧ n.inventory.textSlots.length ≤ 2 := by
  cases n <;> simp [inventory, BuiltIn.received, BuiltIn.scheduled, BuiltIn.reminder]

/-! ## Other places for the interview -/

theorem template_placed (n : Notice) (link location : Option String) :
    (n.placed link location).template = n.template := by
  cases n <;> rfl

theorem inventory_placed (n : Notice) (link location : Option String) :
    (n.placed link location).inventory = n.inventory := by
  cases n <;> rfl

theorem plain_placed (plain : n.Plain) {link location : Option String} (hlink : Clean link)
    (hlocation : Clean location) : (n.placed link location).Plain := by
  cases n with
  | statusUpdate u => exact plain
  | interviewScheduled c i =>
    obtain ⟨candidacy, interview⟩ := plain
    exact ⟨candidacy, { interview with meetingLink := hlink, location := hlocation }⟩
  | interviewReminder c i hours =>
    obtain ⟨candidacy, interview⟩ := plain
    exact ⟨candidacy, { interview with meetingLink := hlink, location := hlocation }⟩

/-- The placeholders outside of sections have other values than the places for the interview. -/
theorem getText?_placed (n : Notice) (links : Links) (link location : Option String) :
    ∀ name ∈ n.inventory.htmlBody ++ n.inventory.textBody,
      (present ((n.placed link location).facts links)).getText? name =
        (present (n.facts links)).getText? name := by
  have outside : ∀ name ∈ n.inventory.htmlBody ++ n.inventory.textBody,
      name ≠ "meetingLink" ∧ name ≠ "location" := by
    cases n <;> simp only [inventory] <;> decide +kernel
  intro name hname
  have notLink : (name == "meetingLink") = false := beq_false_of_ne (outside name hname).1
  have notLocation : (name == "location") = false := beq_false_of_ne (outside name hname).2
  rw [getText?_facts, getText?_facts]
  cases n with
  | statusUpdate u => rfl
  | interviewScheduled c i =>
    simp only [placed, facts, interviewFacts, List.lookup_append, List.lookup_cons, notLink,
      notLocation]
  | interviewReminder c i hours =>
    simp only [placed, facts, interviewFacts, List.lookup_append, List.lookup_cons, notLink]

end Notice

end Courier
