import Courier.Database.Basic
import Courier.Json.Reader

/-!
# Databases as documents

A database is kept in a file as a document, after a mark that tells such files from others.
-/

namespace Courier

/-- A row as a document. -/
def Row.toJson (r : Row) : Json :=
  .object [("id", .text r.id), ("recipient_id", .text r.recipient), ("recipient", .text r.address),
    ("event_type", .text r.eventType), ("priority", .text r.priority), ("status", .text r.status),
    ("subject", .text r.subject), ("body", .text r.htmlBody), ("text_body", .text r.textBody),
    ("created_at", .text r.createdAt), ("updated_at", .text r.updatedAt),
    ("sent_at", .ofText? r.sentAt), ("delivered_at", .ofText? r.deliveredAt),
    ("error", .ofText? r.error), ("metadata", .object r.metadata)]

/-- The row that a document describes. -/
def Row.ofJson? : Json → Option Row
  | .object ms => do
    let text (name : String) : Option String := match ms.lookup name with
      | some (.text s) => some s
      | _ => none
    let metadata ← match ms.lookup "metadata" with
      | some (.object metadata) => some metadata
      | _ => none
    return {
      id := ← text "id"
      recipient := ← text "recipient_id"
      address := ← text "recipient"
      eventType := ← text "event_type"
      priority := ← text "priority"
      status := ← text "status"
      subject := ← text "subject"
      htmlBody := ← text "body"
      textBody := ← text "text_body"
      createdAt := ← text "created_at"
      updatedAt := ← text "updated_at"
      sentAt := text "sent_at"
      deliveredAt := text "delivered_at"
      error := text "error"
      metadata := metadata }
  | _ => none

/-- The row of preferences that a document describes. -/
def PreferenceRow.ofJson? : Json → Option PreferenceRow
  | .object ms => do
    let text (name : String) : Option String := match ms.lookup name with
      | some (.text s) => some s
      | _ => none
    let enabled ← match ms.lookup "enabled" with
      | some (.bool b) => some b
      | _ => none
    let switches ← match ms.lookup "toggles" with
      | some (.object switches) => some switches
      | _ => none
    return {
      recipient := ← text "recipient_id"
      address := ← text "email"
      enabled := enabled
      switches := switches
      frequency := ← text "frequency"
      quietHours := ← ms.lookup "quiet_hours" }
  | _ => none

namespace Database

/-- A table that may be missing. -/
def tableJson {α : Type} (row : α → Json) : Option (List α) → Json
  | none => .null
  | some rows => .list (rows.map row)

/-- The table that a document describes. -/
def tableOfJson? {α : Type} (row : Json → Option α) : Option Json → Option (Option (List α))
  | some .null => some none
  | some (.list rows) => (rows.mapM row).map some
  | _ => none

/-- The database as a document. -/
def toJson (db : Database) : Json :=
  .object [("notifications", tableJson Row.toJson db.records),
    ("preferences", tableJson PreferenceRow.toJson db.preferences)]

/-- The database that a document describes. -/
def ofJson? : Json → Option Database
  | .object ms => do
    let records ← tableOfJson? Row.ofJson? (ms.lookup "notifications")
    let preferences ← tableOfJson? PreferenceRow.ofJson? (ms.lookup "preferences")
    return ⟨records, preferences⟩
  | _ => none

/-- The line that a file with a database begins with. -/
def fileMark : String := "courier database\n"

/-- The text of a file with a database. -/
def fileText (db : Database) : String := fileMark ++ db.toJson.line ++ "\n"

/-- The database that the text of a file describes. -/
def ofFileText? (s : String) : Option Database :=
  if s.startsWith fileMark then
    (Json.read? (String.ofList (s.toList.drop fileMark.length))).bind ofJson?
  else none

end Database

end Courier
