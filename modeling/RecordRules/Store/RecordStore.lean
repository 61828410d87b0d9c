import RecordRules.Record.Basic

/-!
# The record store

The business records of all types, in the order in which they came.
-/

namespace RecordRules

/-- Business records in order of arrival. -/
structure RecordStore where
  records : List Record
  deriving Repr, Inhabited

namespace RecordStore

def insert (store : RecordStore) (record : Record) : RecordStore := ⟨store.records ++ [record]⟩

def ofType (store : RecordStore) (recordType : String) : List Record :=
  store.records.filter fun record => record.recordType == recordType

/-- The first record of a type and an identifier. -/
def find? (store : RecordStore) (recordType id : String) : Option Record :=
  (store.ofType recordType).find? fun record => record.id == id

/-- Is the record of a type, and does its link field hold an identifier? -/
def isLinked (recordType linkField parentId : String) (record : Record) : Bool :=
  record.recordType == recordType && record.text linkField == some parentId

/-- Overwrites fields of the linked records. -/
def updateRelated (store : RecordStore) (recordType linkField parentId : String)
    (fields : Fields) : RecordStore :=
  ⟨store.records.map fun record =>
    if isLinked recordType linkField parentId record then record.mergeFields fields else record⟩

def countRelated (store : RecordStore) (recordType linkField parentId : String) : Nat :=
  store.records.countP (isLinked recordType linkField parentId)

end RecordStore

end RecordRules
