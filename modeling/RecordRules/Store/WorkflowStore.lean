import RecordRules.FollowUp
import RecordRules.LogEntry
import RecordRules.Workflow.Basic

/-!
# The workflow store

Workflow definitions with what automation leaves beside them: the execution log, follow-ups, and
the changes saved for each record.
-/

namespace RecordRules

/-- Workflows, log, follow-ups and saved changes; writes to the log may be made to fail. -/
structure WorkflowStore where
  workflows : List Workflow
  logs : List LogEntry
  followUps : List FollowUp
  saved : List ((String × String) × Fields)
  logWritesFail : Bool
  deriving Repr, Inhabited

namespace WorkflowStore

/-- A store of workflows in which nothing has happened yet. -/
def ofWorkflows (workflows : List Workflow) : WorkflowStore := ⟨workflows, [], [], [], false⟩

def addWorkflow (store : WorkflowStore) (workflow : Workflow) : WorkflowStore :=
  { store with workflows := store.workflows ++ [workflow] }

def removeWorkflow (store : WorkflowStore) (id : Uuid) : WorkflowStore :=
  { store with workflows := store.workflows.filter fun workflow => workflow.id != id }

/-- The first workflow of an identifier made active or inactive, the others as they are. -/
def activateFirst (id : Uuid) (active : Bool) : List Workflow → List Workflow
  | [] => []
  | workflow :: rest =>
    if workflow.id == id then { workflow with isActive := active } :: rest
    else workflow :: activateFirst id active rest

/-- Makes a workflow active or inactive. -/
def setActive (store : WorkflowStore) (id : Uuid) (active : Bool) : WorkflowStore :=
  { store with workflows := activateFirst id active store.workflows }

def workflow? (store : WorkflowStore) (id : Uuid) : Option Workflow :=
  store.workflows.find? fun workflow => workflow.id == id

/-- The active workflows that run by a schedule. -/
def scheduled (store : WorkflowStore) : List Workflow := store.workflows.filter Workflow.isScheduled

/-- All actions of all rules, active or not. -/
def actions (store : WorkflowStore) : List Action :=
  store.workflows.flatMap fun workflow => workflow.rules.flatMap Rule.actions

/-- The first action of an identifier. -/
def action? (store : WorkflowStore) (id : Uuid) : Option Action :=
  store.actions.find? fun action => action.id == id

def appendLog (store : WorkflowStore) (entry : LogEntry) : WorkflowStore :=
  { store with logs := store.logs ++ [entry] }

def addFollowUp (store : WorkflowStore) (followUp : FollowUp) : WorkflowStore :=
  { store with followUps := store.followUps ++ [followUp] }

def saved? (store : WorkflowStore) (recordType recordId : String) : Option Fields :=
  store.saved.lookup (recordType, recordId)

def mergeSaved (key : String × String) (changes : Fields) :
    List ((String × String) × Fields) → List ((String × String) × Fields)
  | [] => [(key, Fields.insertAll [] changes)]
  | (other, fields) :: rest =>
    if other == key then (other, fields.insertAll changes) :: rest
    else (other, fields) :: mergeSaved key changes rest

/-- Saves changes of a record beside those saved before. -/
def saveChanges (store : WorkflowStore) (recordType recordId : String) (changes : Fields) :
    WorkflowStore :=
  { store with saved := mergeSaved (recordType, recordId) changes store.saved }

end WorkflowStore

end RecordRules
