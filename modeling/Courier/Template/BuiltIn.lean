import Courier.Template.File

/-!
# The built-in templates

The templates that are used when no file with templates is named. Of the two for changes of an
application the first is the one in use while both are active.

In the lines below `‹name›` stands for a placeholder, and `‹#name›` and `‹/name›` for the ends of a
section.
-/

namespace Courier.Template.BuiltIn

/-- The text of a character of the lines below. -/
def spelled (c : Char) : List Char :=
  if c = '‹' then ['\x7b', '\x7b'] else if c = '›' then ['\x7d', '\x7d'] else [c]

/-- A text on one line. -/
def phrase (s : String) : String := String.ofList (s.toList.flatMap spelled)

/-- The text of lines. -/
def page (lines : List String) : String :=
  phrase (String.join (lines.map (· ++ "\n")))

/-- An application has come in. -/
def applicationReceived : Template where
  id := "application-received"
  name := "Application Received"
  eventType := "application-status"
  subject := phrase "Application Received for ‹position› at ‹company›"
  expected := ["candidateName", "position", "company", "appliedDate", "applicationId",
    "dashboardUrl", "email"]
  htmlBody := page [
    "<div style=\"font-family: Arial, sans-serif; max-width: 600px; margin: 0 auto; padding: " ++
      "20px;\">",
    "  <div style=\"background: #667eea; color: white; padding: 30px; border-radius: 10px 10px " ++
      "0 0; text-align: center;\">",
    "    <h1 style=\"margin: 0; font-size: 28px;\">Application Received!</h1>",
    "    <p style=\"margin: 10px 0 0 0;\">Thank you for your interest</p>",
    "  </div>",
    "  <div style=\"background: white; padding: 30px; border-radius: 0 0 10px 10px;\">",
    "    <p>Dear ‹candidateName›,</p>",
    "    <p>We're pleased to confirm that we've received your application for the " ++
      "<strong>‹position›</strong> position at <strong>‹company›</strong>.</p>",
    "    <div style=\"background: #f8f9fa; padding: 20px; border-radius: 8px; margin: 20px " ++
      "0;\">",
    "      <h3 style=\"margin: 0 0 15px 0;\">Application Details</h3>",
    "      <p style=\"margin: 5px 0;\"><strong>Position:</strong> ‹position›</p>",
    "      <p style=\"margin: 5px 0;\"><strong>Company:</strong> ‹company›</p>",
    "      <p style=\"margin: 5px 0;\"><strong>Applied Date:</strong> ‹appliedDate›</p>",
    "      <p style=\"margin: 5px 0;\"><strong>Application ID:</strong> ‹applicationId›</p>",
    "    </div>",
    "    <p>Our team will review your application and contact you within 3-5 business days if " ++
      "your profile matches our requirements.</p>",
    "    <div style=\"text-align: center; margin: 30px 0;\">",
    "      <a href=\"‹dashboardUrl›\" style=\"background: #667eea; color: white; padding: 12px " ++
      "30px; text-decoration: none; border-radius: 25px;\">View Application Status</a>",
    "    </div>",
    "    <p>Best regards,<br>The ‹company› Recruitment Team</p>",
    "    <hr style=\"border: none; border-top: 1px solid #eee; margin: 30px 0;\">",
    "    <p style=\"font-size: 12px; color: #666;\">This email was sent to ‹email› because you " ++
      "applied for a position through TalentBridge.</p>",
    "  </div>",
    "</div>"]
  textBody := page [
    "Application Received for ‹position› at ‹company›",
    "",
    "Dear ‹candidateName›,",
    "",
    "We're pleased to confirm that we've received your application for the ‹position› position " ++
      "at ‹company›.",
    "",
    "Application Details:",
    "- Position: ‹position›",
    "- Company: ‹company›",
    "- Applied Date: ‹appliedDate›",
    "- Application ID: ‹applicationId›",
    "",
    "Our team will review your application and contact you within 3-5 business days if your " ++
      "profile matches our requirements.",
    "",
    "Track your application status: ‹dashboardUrl›",
    "",
    "Best regards,",
    "The ‹company› Recruitment Team"]

/-- An interview has a date. -/
def interviewScheduled : Template where
  id := "interview-scheduled"
  name := "Interview Scheduled"
  eventType := "interview-scheduled"
  subject := phrase "Interview Scheduled: ‹position› at ‹company›"
  expected := ["candidateName", "position", "company", "interviewDate", "interviewTime",
    "duration", "interviewType", "interviewer", "meetingLink", "location", "calendarUrl",
    "rescheduleUrl"]
  htmlBody := page [
    "<div style=\"font-family: Arial, sans-serif; max-width: 600px; margin: 0 auto; padding: " ++
      "20px;\">",
    "  <div style=\"background: #11998e; color: white; padding: 30px; border-radius: 10px 10px " ++
      "0 0; text-align: center;\">",
    "    <h1 style=\"margin: 0; font-size: 28px;\">Interview Scheduled!</h1>",
    "    <p style=\"margin: 10px 0 0 0;\">You've been shortlisted</p>",
    "  </div>",
    "  <div style=\"background: white; padding: 30px; border-radius: 0 0 10px 10px;\">",
    "    <p>Dear ‹candidateName›,</p>",
    "    <p>Congratulations! Your application for <strong>‹position›</strong> at " ++
      "<strong>‹company›</strong> has been shortlisted, and we'd like to schedule an " ++
      "interview.</p>",
    "    <div style=\"background: #f0f9ff; border-left: 4px solid #0ea5e9; padding: 20px; " ++
      "margin: 20px 0;\">",
    "      <h3 style=\"margin: 0 0 15px 0;\">Interview Details</h3>",
    "      <p style=\"margin: 5px 0;\"><strong>Date:</strong> ‹interviewDate›</p>",
    "      <p style=\"margin: 5px 0;\"><strong>Time:</strong> ‹interviewTime›</p>",
    "      <p style=\"margin: 5px 0;\"><strong>Duration:</strong> ‹duration› minutes</p>",
    "      <p style=\"margin: 5px 0;\"><strong>Type:</strong> ‹interviewType›</p>",
    "      <p style=\"margin: 5px 0;\"><strong>Interviewer:</strong> ‹interviewer›</p>",
    "      ‹#meetingLink›",
    "      <p style=\"margin: 5px 0;\"><strong>Meeting Link:</strong> <a " ++
      "href=\"‹meetingLink›\">Join Interview</a></p>",
    "      ‹/meetingLink›",
    "      ‹#location›",
    "      <p style=\"margin: 5px 0;\"><strong>Location:</strong> ‹location›</p>",
    "      ‹/location›",
    "    </div>",
    "    <p>Please make sure to:</p>",
    "    <ul>",
    "      <li>Join the interview 5 minutes early</li>",
    "      <li>Test your technical setup for virtual interviews</li>",
    "      <li>Have your resume and portfolio ready</li>",
    "      <li>Research about ‹company›</li>",
    "    </ul>",
    "    <div style=\"text-align: center; margin: 30px 0;\">",
    "      <a href=\"‹calendarUrl›\" style=\"background: #11998e; color: white; padding: 12px " ++
      "30px; text-decoration: none; border-radius: 25px;\">Add to Calendar</a>",
    "      <a href=\"‹rescheduleUrl›\" style=\"background: #64748b; color: white; padding: 12px " ++
      "30px; text-decoration: none; border-radius: 25px;\">Reschedule</a>",
    "    </div>",
    "    <p>If you need to reschedule, please do so at least 24 hours in advance.</p>",
    "    <p>Best regards,<br>The ‹company› Recruitment Team</p>",
    "  </div>",
    "</div>"]
  textBody := page [
    "Interview Scheduled: ‹position› at ‹company›",
    "",
    "Dear ‹candidateName›,",
    "",
    "Congratulations! Your application for ‹position› at ‹company› has been shortlisted, and " ++
      "we'd like to schedule an interview.",
    "",
    "Interview Details:",
    "- Date: ‹interviewDate›",
    "- Time: ‹interviewTime›",
    "- Duration: ‹duration› minutes",
    "- Type: ‹interviewType›",
    "- Interviewer: ‹interviewer›",
    "‹#meetingLink›",
    "- Meeting Link: ‹meetingLink›",
    "‹/meetingLink›",
    "‹#location›",
    "- Location: ‹location›",
    "‹/location›",
    "",
    "Add to Calendar: ‹calendarUrl›",
    "Reschedule: ‹rescheduleUrl›",
    "",
    "If you need to reschedule, please do so at least 24 hours in advance.",
    "",
    "Best regards,",
    "The ‹company› Recruitment Team"]

/-- An interview is near. -/
def interviewReminder : Template where
  id := "interview-reminder"
  name := "Interview Reminder"
  eventType := "interview-reminder"
  subject := phrase "Reminder: Interview in ‹hoursUntil› hours"
  expected := ["candidateName", "position", "company", "hoursUntil", "interviewTime",
    "interviewDate", "duration", "interviewType", "meetingLink"]
  htmlBody := page [
    "<div style=\"font-family: Arial, sans-serif; max-width: 600px; margin: 0 auto; padding: " ++
      "20px;\">",
    "  <div style=\"background: #f5576c; color: white; padding: 30px; border-radius: 10px 10px " ++
      "0 0; text-align: center;\">",
    "    <h1 style=\"margin: 0; font-size: 28px;\">Interview Reminder</h1>",
    "    <p style=\"margin: 10px 0 0 0;\">Your interview is coming up soon</p>",
    "  </div>",
    "  <div style=\"background: white; padding: 30px; border-radius: 0 0 10px 10px;\">",
    "    <p>Hi ‹candidateName›,</p>",
    "    <p>This is a friendly reminder that you have an interview scheduled for " ++
      "<strong>‹position›</strong> at <strong>‹company›</strong> in <strong>‹hoursUntil› " ++
      "hours</strong>.</p>",
    "    <div style=\"background: #fff3cd; border-left: 4px solid #ffc107; padding: 20px; " ++
      "margin: 20px 0;\">",
    "      <h3 style=\"margin: 0 0 15px 0;\">Quick Details</h3>",
    "      <p style=\"margin: 5px 0;\"><strong>Time:</strong> ‹interviewTime› " ++
      "(‹interviewDate›)</p>",
    "      <p style=\"margin: 5px 0;\"><strong>Duration:</strong> ‹duration› minutes</p>",
    "      <p style=\"margin: 5px 0;\"><strong>Type:</strong> ‹interviewType›</p>",
    "      ‹#meetingLink›",
    "      <p style=\"margin: 5px 0;\"><strong>Join:</strong> <a href=\"‹meetingLink›\">Click " ++
      "here to join</a></p>",
    "      ‹/meetingLink›",
    "    </div>",
    "    <h3>Last Minute Checklist</h3>",
    "    <ul>",
    "      <li>Test your camera and microphone</li>",
    "      <li>Check your internet connection</li>",
    "      <li>Have your resume ready to share</li>",
    "      <li>Find a quiet, well-lit space</li>",
    "    </ul>",
    "    <p>Good luck with your interview!</p>",
    "    <p>Best regards,<br>TalentBridge Team</p>",
    "  </div>",
    "</div>"]
  textBody := page [
    "Interview Reminder: ‹position› at ‹company›",
    "",
    "Hi ‹candidateName›,",
    "",
    "This is a friendly reminder that you have an interview scheduled for ‹position› at " ++
      "‹company› in ‹hoursUntil› hours.",
    "",
    "Quick Details:",
    "- Time: ‹interviewTime› (‹interviewDate›)",
    "- Duration: ‹duration› minutes",
    "- Type: ‹interviewType›",
    "‹#meetingLink›",
    "- Join: ‹meetingLink›",
    "‹/meetingLink›",
    "",
    "Last Minute Checklist:",
    "- Test your camera and microphone",
    "- Check your internet connection",
    "- Have your resume ready to share",
    "- Find a quiet, well-lit space",
    "",
    "Good luck with your interview!",
    "",
    "Best regards,",
    "TalentBridge Team"]

/-- An application has moved on. -/
def statusUpdate : Template where
  id := "application-status-update"
  name := "Application Status Update"
  eventType := "application-status"
  subject := phrase "Application Status Update: ‹status› for ‹position›"
  expected := ["candidateName", "position", "company", "status", "statusMessage", "nextSteps",
    "dashboardUrl"]
  htmlBody := page [
    "<div style=\"font-family: Arial, sans-serif; max-width: 600px; margin: 0 auto; padding: " ++
      "20px;\">",
    "  <div style=\"background: #764ba2; color: white; padding: 30px; border-radius: 10px 10px " ++
      "0 0; text-align: center;\">",
    "    <h1 style=\"margin: 0; font-size: 28px;\">Status Update</h1>",
    "    <p style=\"margin: 10px 0 0 0;\">Your application status has changed</p>",
    "  </div>",
    "  <div style=\"background: white; padding: 30px; border-radius: 0 0 10px 10px;\">",
    "    <p>Dear ‹candidateName›,</p>",
    "    <p>We're writing to update you on the status of your application for " ++
      "<strong>‹position›</strong> at <strong>‹company›</strong>.</p>",
    "    <div style=\"background: #e8f5e8; border-left: 4px solid #28a745; padding: 20px; " ++
      "margin: 20px 0;\">",
    "      <h3 style=\"margin: 0 0 10px 0;\">New Status: ‹status›</h3>",
    "      <p style=\"margin: 0;\">‹statusMessage›</p>",
    "    </div>",
    "    ‹#nextSteps›",
    "    <div style=\"background: #f8f9fa; padding: 20px; border-radius: 8px; margin: 20px " ++
      "0;\">",
    "      <h3 style=\"margin: 0 0 15px 0;\">Next Steps</h3>",
    "      <p>‹nextSteps›</p>",
    "    </div>",
    "    ‹/nextSteps›",
    "    <div style=\"text-align: center; margin: 30px 0;\">",
    "      <a href=\"‹dashboardUrl›\" style=\"background: #667eea; color: white; padding: 12px " ++
      "30px; text-decoration: none; border-radius: 25px;\">View Full Application</a>",
    "    </div>",
    "    <p>Thank you for your continued interest in this opportunity.</p>",
    "    <p>Best regards,<br>The ‹company› Recruitment Team</p>",
    "  </div>",
    "</div>"]
  textBody := page [
    "Application Status Update: ‹status› for ‹position›",
    "",
    "Dear ‹candidateName›,",
    "",
    "We're writing to update you on the status of your application for ‹position› at ‹company›.",
    "",
    "New Status: ‹status›",
    "‹statusMessage›",
    "",
    "‹#nextSteps›",
    "Next Steps:",
    "‹nextSteps›",
    "‹/nextSteps›",
    "",
    "View Full Application: ‹dashboardUrl›",
    "",
    "Thank you for your continued interest in this opportunity.",
    "",
    "Best regards,",
    "The ‹company› Recruitment Team"]

/-- The built-in templates. -/
def all : List Template :=
  [applicationReceived, interviewScheduled, interviewReminder, statusUpdate]

/-- What the built-in templates are called in the log. -/
def source : String := "default_templates.yaml"

/-- The built-in templates, loaded. -/
def load : Reply (List Template) := ⟨.ok all, [loadedEntry all.length source]⟩

end Courier.Template.BuiltIn
