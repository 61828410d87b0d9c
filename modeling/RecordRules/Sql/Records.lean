import RecordRules.Message.Notification
import RecordRules.Record.Basic
import RecordRules.Sql.Connection
import RecordRules.User

/-!
# Records, users and notifications in the database

The business records keep their fields as JSON; users and notifications have columns of their own.
-/

namespace RecordRules.Sql

/-- Creates a record under a given identifier, which is given back. -/
def createRecord (id : Uuid) (now : Time.Instant) (recordType : String) (fields : Fields) :
    Query String := do
  let _ ← execute
    ("INSERT INTO business_records (record_type, id, fields, created_at, updated_at) "
      ++ "VALUES ($1, $2, $3, $4, $4)")
    [.text recordType, .text id.text, .json (.object fields), .time now]
  return id.text

/-- Overwrites fields of the linked records and gives their number. -/
def updateRelated (recordType linkField parentId : String) (fields : Fields) : Query Nat :=
  execute
    ("UPDATE business_records SET fields = fields || $4, updated_at = NOW() "
      ++ "WHERE record_type = $1 AND fields ->> $2 = $3")
    [.text recordType, .text linkField, .text parentId, .json (.object fields)]

def readRecord (recordType : String) : RowReader Record := fun row => do
  let id ← column asText "id" row
  return Record.ofValue recordType id (← column asJson "fields" row)

def loadRecords (recordType : String) : Query (List Record) :=
  fetchAll (readRecord recordType)
    "SELECT id, fields FROM business_records WHERE record_type = $1 ORDER BY created_at ASC"
    [.text recordType]

def readUser : RowReader UserContact := fun row => do
  return {
    id := ← column asText "id" row
    email := ← nullable asText "email" row
    phone := ← nullable asText "phone" row
    firstName := ← nullable asText "first_name" row
    lastName := ← nullable asText "last_name" row }

/-- The active user of an identifier. -/
def findUser (id : String) : Query (Option UserContact) :=
  fetchFirst readUser
    ("SELECT id, email, phone, first_name, last_name FROM users "
      ++ "WHERE id = $1 AND is_active = true")
    [.text id]

/-- Stores a notification under a given identifier, which is given back. -/
def notify (id : Uuid) (notification : Notification) : Query Uuid := do
  let _ ← execute
    ("INSERT INTO notifications (id, user_id, title, message, channels, entity_type, entity_id, "
      ++ "read, created_at) VALUES ($1, $2, $3, $4, $5, $6, $7, false, NOW())")
    [.id id, .text notification.userId, .text notification.title, .text notification.message,
      .int notification.channels.bits.toInt, .text? notification.entityType,
      .text? notification.entityId]
  return id

end RecordRules.Sql
