import Courier.Proofs.Template.Leftover
import Courier.Template.BuiltIn

/-!
# The layouts of the built-in templates

Which placeholders stand in the texts of the built-in templates that the senders use, and which
sections with what inside (`fits_applicationReceived`, `fits_interviewScheduled`,
`fits_interviewReminder`). A layout is computed from the characters of a text. These are told line by
line (`toList_page_cons`): the characters of a literal are at hand, those of a long text put together
from many literals would have to be read out of its bytes.
-/

namespace Courier.Template.BuiltIn

open Courier.Text

/-! ## The characters of a text -/

theorem toList_append {s t : String} {cs ds : List Char} (hs : s.toList = cs) (ht : t.toList = ds) :
    (s ++ t).toList = cs ++ ds := by
  rw [String.toList_append, hs, ht]

theorem toList_phrase {s : String} {cs : List Char} (h : s.toList = cs) :
    (phrase s).toList = cs.flatMap spelled := by
  rw [phrase, String.toList_ofList, h]

theorem toList_page_nil : (page []).toList = [] := rfl

theorem toList_page_cons {line : String} {lines : List String} {cs rest : List Char}
    (h : line.toList = cs) (hrest : (page lines).toList = rest) :
    (page (line :: lines)).toList = cs.flatMap spelled ++ '\n' :: rest := by
  have newline : spelled '\n' = ['\n'] := rfl
  rw [page, toList_phrase rfl] at hrest ⊢
  rw [String.toList_join] at hrest ⊢
  rw [← hrest, ← h]
  simp [newline]

/-! ## What the texts are made of -/

/-- The placeholders of the texts of a template outside of sections, and the sections of its
bodies. -/
structure Inventory where
  subject : List String
  htmlBody : List String
  htmlSlots : List Slot := []
  textBody : List String
  textSlots : List Slot := []

/-- A template whose texts have the placeholders and sections of an inventory. -/
structure Fits (t : Template) (i : Inventory) : Prop where
  subject : (Layout.ofText t.subject).Has i.subject []
  htmlBody : (Layout.ofText t.htmlBody).Has i.htmlBody i.htmlSlots
  textBody : (Layout.ofText t.textBody).Has i.textBody i.textSlots

/-- The layouts of the texts of a template can be told from their characters. -/
theorem fits_of_toList {t : Template} {i : Inventory} {subject html text : List Char}
    (hsubject : t.subject.toList = subject) (hhtml : t.htmlBody.toList = html)
    (htext : t.textBody.toList = text)
    (h : ((Layout.ofPieces (pieces subject)).Has i.subject [] ∧
      (Layout.ofPieces (pieces html)).Has i.htmlBody i.htmlSlots) ∧
      (Layout.ofPieces (pieces text)).Has i.textBody i.textSlots) : Fits t i := by
  obtain ⟨⟨ofSubject, ofHtml⟩, ofText⟩ := h
  refine ⟨?_, ?_, ?_⟩
  · rw [Layout.ofText, hsubject]
    exact ofSubject
  · rw [Layout.ofText, hhtml]
    exact ofHtml
  · rw [Layout.ofText, htext]
    exact ofText

/-- What the template for a new application is made of. -/
def received : Inventory where
  subject := ["position", "company"]
  htmlBody := ["candidateName", "position", "company", "position", "company", "appliedDate",
    "applicationId", "dashboardUrl", "company", "email"]
  textBody := ["position", "company", "candidateName", "position", "company", "position", "company",
    "appliedDate", "applicationId", "dashboardUrl", "company"]

/-- The section with the link to an interview that has a date, in HTML. -/
def scheduledLinkHtml : Slot where
  name := "meetingLink"
  lead := "\n      <p style=\"margin: 5px 0;\"><strong>Meeting Link:</strong> <a href=\""
  trail := "\">Join Interview</a></p>\n      "

/-- The section with the link to an interview that has a date. -/
def scheduledLinkText : Slot where
  name := "meetingLink"
  lead := "\n- Meeting Link: "
  trail := "\n"

/-- The section with the location of an interview that has a date, in HTML. -/
def scheduledLocationHtml : Slot where
  name := "location"
  lead := "\n      <p style=\"margin: 5px 0;\"><strong>Location:</strong> "
  trail := "</p>\n      "

/-- The section with the location of an interview that has a date. -/
def scheduledLocationText : Slot where
  name := "location"
  lead := "\n- Location: "
  trail := "\n"

/-- What the template for an interview that has a date is made of. -/
def scheduled : Inventory where
  subject := ["position", "company"]
  htmlBody := ["candidateName", "position", "company", "interviewDate", "interviewTime", "duration",
    "interviewType", "interviewer", "company", "calendarUrl", "rescheduleUrl", "company"]
  htmlSlots := [scheduledLinkHtml, scheduledLocationHtml]
  textBody := ["position", "company", "candidateName", "position", "company", "interviewDate",
    "interviewTime", "duration", "interviewType", "interviewer", "calendarUrl", "rescheduleUrl",
    "company"]
  textSlots := [scheduledLinkText, scheduledLocationText]

/-- The section with the link to an interview that is near, in HTML. -/
def reminderLinkHtml : Slot where
  name := "meetingLink"
  lead := "\n      <p style=\"margin: 5px 0;\"><strong>Join:</strong> <a href=\""
  trail := "\">Click here to join</a></p>\n      "

/-- The section with the link to an interview that is near. -/
def reminderLinkText : Slot where
  name := "meetingLink"
  lead := "\n- Join: "
  trail := "\n"

/-- What the template for an interview that is near is made of. -/
def reminder : Inventory where
  subject := ["hoursUntil"]
  htmlBody := ["candidateName", "position", "company", "hoursUntil", "interviewTime",
    "interviewDate", "duration", "interviewType"]
  htmlSlots := [reminderLinkHtml]
  textBody := ["position", "company", "candidateName", "position", "company", "hoursUntil",
    "interviewTime", "interviewDate", "duration", "interviewType"]
  textSlots := [reminderLinkText]

theorem fits_applicationReceived : Fits applicationReceived received := by
  unfold applicationReceived
  apply fits_of_toList
  case hsubject => exact toList_phrase String.toList_ofList
  case hhtml | htext =>
    simp only
    repeat' with_reducible first
      | exact toList_page_nil
      | apply toList_page_cons
      | apply toList_append
      | exact String.toList_ofList
  case h => decide +kernel

theorem fits_interviewScheduled : Fits interviewScheduled scheduled := by
  unfold interviewScheduled
  apply fits_of_toList
  case hsubject => exact toList_phrase String.toList_ofList
  case hhtml | htext =>
    simp only
    repeat' with_reducible first
      | exact toList_page_nil
      | apply toList_page_cons
      | apply toList_append
      | exact String.toList_ofList
  case h => decide +kernel

theorem fits_interviewReminder : Fits interviewReminder reminder := by
  unfold interviewReminder
  apply fits_of_toList
  case hsubject => exact toList_phrase String.toList_ofList
  case hhtml | htext =>
    simp only
    repeat' with_reducible first
      | exact toList_page_nil
      | apply toList_page_cons
      | apply toList_append
      | exact String.toList_ofList
  case h => decide +kernel

end Courier.Template.BuiltIn
