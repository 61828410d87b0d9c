import RecordRules.Proofs.MasterSwitch

/-!
# Runs that agree

What the engine does with its surroundings is a handful of computations.  Once
none of them can tell related surroundings apart, no request to the engine can:
it ends in the same way, in related surroundings.
-/

namespace RecordRules

open Run (Agrees)

/-! ## Sessions -/

namespace Session

variable {alike : Host → Host → Prop} {α : Type}

/-- Sessions that differ in nothing but related surroundings. -/
def Alike (alike : Host → Host → Prop) (s t : Session) : Prop :=
  ∃ host, alike s.host host ∧ t = { s with host }

theorem agrees_onHost {work : Run Host α} (h : Agrees alike work) :
    Agrees (Alike alike) (onHost work) := by
  rintro s _ ⟨host, hhost, rfl⟩
  obtain ⟨hending, hlater⟩ := h s.host host hhost
  exact ⟨hending, _, hlater, rfl⟩

theorem agrees_record : Agrees (Alike alike) (Run.gets Session.record) := by
  refine .gets ?_
  rintro s _ ⟨host, -, rfl⟩
  rfl

theorem agrees_count (change : TriggerOutcome → TriggerOutcome) :
    Agrees (Alike alike) (count change) := by
  refine .modify ?_
  rintro s _ ⟨host, hhost, rfl⟩
  exact ⟨host, hhost, rfl⟩

theorem agrees_remember (moment : Moment) :
    Agrees (Alike alike) (remember moment) := by
  refine .modify ?_
  rintro s _ ⟨host, hhost, rfl⟩
  exact ⟨host, hhost, rfl⟩

theorem agrees_start
    (record : Record) {work : Run Session Unit}
    (h : Agrees (Alike alike) work) :
    Agrees alike (start record work) := by
  intro a b hab
  have hbegin : Alike alike (begin a record) (begin b record) := ⟨b, hab, rfl⟩
  obtain ⟨hending, host, hhost, hlater⟩ := h _ _ hbegin
  unfold start
  rcases hs : work (begin a record) with ⟨_ | _, later⟩
  · rw [hs] at hending hhost hlater
    rcases ht : work (begin b record) with ⟨ending, other⟩
    rw [ht] at hending hlater
    obtain rfl : ending = .value () := hending
    obtain rfl : other = { later with host } := hlater
    exact ⟨rfl, hhost⟩
  · rw [hs] at hending hhost hlater
    rcases ht : work (begin b record) with ⟨ending, other⟩
    rw [ht] at hending hlater
    obtain rfl : ending = .panic := hending
    obtain rfl : other = { later with host } := hlater
    exact ⟨rfl, hhost⟩

end Session

namespace Engine

/-- Whatever the engine does with its surroundings, related ones cannot be told
apart by it. -/
structure CannotTell (alike : Host → Host → Prop) : Prop where
  isCancelled : ∀ context, Agrees alike (Host.isCancelled context)
  newEntry : ∀ workflowId recordType recordId status,
    Agrees alike (newEntry workflowId recordType recordId status)
  writeLog : ∀ entry, Agrees alike (writeLog entry)
  execute : ∀ action record context,
    Agrees alike (Execution.execute action record context)
  executeNow : ∀ action record context,
    Agrees alike (Execution.executeNow action record context)
  saveWrites : ∀ record, Agrees alike (saveWrites record)
  applicable : ∀ recordType trigger,
    Agrees alike (applicable recordType trigger).run
  loadAction : ∀ id, Agrees alike (Host.loadAction id).run

open Session (Alike agrees_onHost agrees_record agrees_count agrees_remember)

theorem agrees_markCancelled {alike : Host → Host → Prop} :
    Agrees (Alike alike) markCancelled :=
  agrees_count _

section

variable {alike : Host → Host → Prop} (h : CannotTell alike)
  (context : TriggerContext)

include h

/-! ## Within a workflow -/

theorem agrees_log
    (workflowId : Uuid) (status : Status) (complete : LogEntry → LogEntry) :
    Agrees (Alike alike) (log workflowId status complete) := by
  refine .bind agrees_record fun record => ?_
  refine .bind (agrees_onHost (h.newEntry _ _ _ _)) fun entry => ?_
  exact .bind (agrees_remember _) fun _ => agrees_onHost (h.writeLog _)

theorem agrees_isCancelled :
    Agrees (Alike alike) (isCancelled context) :=
  .bind (agrees_onHost (h.isCancelled context)) fun _ =>
    .bind (agrees_remember _) fun _ => .pure _

theorem agrees_execute (action : Action) (context : ExecutionContext) :
    Agrees (Alike alike) (Session.execute action context) := by
  refine .bind agrees_record fun before => ?_
  refine .bind (agrees_onHost (h.execute action before context)) fun done => ?_
  refine .bind (agrees_remember _) fun _ => .bind (.modify ?_) fun _ => .pure _
  rintro s _ ⟨host, hhost, rfl⟩
  exact ⟨host, hhost, rfl⟩

theorem agrees_runActions
    (workflowId ruleId : Uuid) (tally : RuleTally) (actions : List Action) :
    Agrees (Alike alike)
      (runActions workflowId ruleId context tally actions) := by
  induction actions generalizing tally with
  | nil => exact .pure _
  | cons action rest ih =>
      refine .bind (agrees_isCancelled h context) fun cancelled => ?_
      cases cancelled with
      | true => exact .pure none
      | false =>
          refine .bind (agrees_execute h action _) fun result => ?_
          exact .bind (agrees_log h workflowId _ _) fun _ => ih _

theorem agrees_runRule (workflowId : Uuid) (rule : Rule) :
    Agrees (Alike alike) (runRule workflowId context rule) := by
  refine .bind (agrees_count _) fun _ => ?_
  refine .bind (agrees_runActions h context workflowId rule.id _ _)
    fun tally? => ?_
  cases tally? with
  | none => exact .pure none
  | some done => exact .bind (agrees_log h workflowId _ _) fun _ => .pure _

theorem agrees_runRules
    (workflowId : Uuid) (prior : Option Record) (tally : RulesTally)
    (rules : List Rule) :
    Agrees (Alike alike) (runRules workflowId prior context tally rules) := by
  induction rules generalizing tally with
  | nil => exact .pure _
  | cons rule rest ih =>
      refine .bind (agrees_isCancelled h context) fun cancelled => ?_
      cases cancelled with
      | true => exact .pure none
      | false =>
          refine .bind agrees_record fun record => ?_
          refine .bind (agrees_remember (.weighed rule _)) fun _ => ?_
          split
          · refine .bind (agrees_runRule h context workflowId rule)
              fun done? => ?_
            cases done? with
            | none => exact .pure none
            | some done => exact ih _
          · exact ih _

theorem agrees_finish (workflow : Workflow) (tally : RulesTally) :
    Agrees (Alike alike) (finish workflow context tally) := by
  unfold finish
  split
  · exact .bind (agrees_log h workflow.id _ _) fun _ => .pure _
  · refine .bind (agrees_count _) fun _ => ?_
    dsimp only
    split
    · exact .bind (agrees_log h workflow.id _ _) fun _ => .pure _
    · exact .bind (agrees_log h workflow.id _ _) fun _ => .pure _

theorem agrees_weighRules (workflow : Workflow) (prior : Option Record) :
    Agrees (Alike alike) (weighRules workflow prior context) := by
  refine .bind (agrees_runRules h context workflow.id prior _ _)
    fun tally? => ?_
  cases tally? with
  | none => exact .pure _
  | some tally => exact agrees_finish h context workflow tally

theorem agrees_runWorkflow
    (workflow : Workflow) (trigger : TriggerType) (prior : Option Record) :
    Agrees (Alike alike) (runWorkflow workflow trigger prior context) := by
  refine .bind (agrees_remember (.began workflow)) fun _ => ?_
  refine .bind (agrees_count _) fun _ => ?_
  refine .bind agrees_record fun record => ?_
  split
  · exact agrees_weighRules h context workflow prior
  · exact .bind (agrees_count _) fun _ =>
      .bind (agrees_log h workflow.id _ _) fun _ => .pure _

theorem agrees_runGuarded
    (workflow : Workflow) (trigger : TriggerType) (prior : Option Record) :
    Agrees (Alike alike) (runGuarded workflow trigger prior context) := by
  refine .bind (agrees_runWorkflow h context workflow trigger prior).guarded
    fun caught => ?_
  cases caught with
  | some run => exact .pure run
  | none => exact .bind (agrees_log h workflow.id _ _) fun _ => .pure _

/-! ## Whole runs -/

theorem agrees_runWorkflows
    (trigger : TriggerType) (prior : Option Record)
    (workflows : List Workflow) :
    Agrees (Alike alike) (runWorkflows trigger prior context workflows) := by
  induction workflows with
  | nil => exact .pure ()
  | cons workflow rest ih =>
      refine .bind (agrees_isCancelled h context) fun cancelled => ?_
      cases cancelled with
      | true => exact agrees_markCancelled
      | false =>
          refine .bind (agrees_runGuarded h context workflow trigger prior)
            fun run => ?_
          cases run with
          | cancelled => exact agrees_markCancelled
          | matched =>
              change Agrees _ (if workflow.stopOnMatch then _ else _)
              split
              · exact .pure ()
              · exact ih
          | skipped => exact ih
          | noMatch => exact ih

theorem agrees_persist : Agrees (Alike alike) persist := by
  refine .bind agrees_record fun record => ?_
  refine .bind (agrees_onHost (h.saveWrites record)) fun answer => ?_
  cases answer with
  | none => exact .pure ()
  | some answer =>
      refine .bind (agrees_remember _) fun _ => .modify ?_
      rintro s _ ⟨host, hhost, rfl⟩
      exact ⟨host, hhost, rfl⟩

theorem agrees_runApplicable
    (trigger : TriggerType) (prior : Option Record) :
    Agrees (Alike alike) (runApplicable trigger prior context) := by
  refine .bind agrees_record fun record => ?_
  refine .bind (agrees_onHost (h.applicable _ _)) fun answer => ?_
  cases answer with
  | error error => exact .pure ()
  | ok workflows =>
      exact .bind (agrees_runWorkflows h context trigger prior workflows)
        fun _ => agrees_persist h

theorem agrees_runTrigger
    (engine : Engine) (trigger : TriggerType) (prior : Option Record) :
    Agrees (Alike alike) (engine.runTrigger trigger prior context) := by
  unfold runTrigger
  split
  · refine .bind (agrees_isCancelled h context) fun cancelled => ?_
    cases cancelled with
    | true => exact agrees_markCancelled
    | false => exact agrees_runApplicable h context trigger prior
  · exact .pure ()

theorem agrees_runAlone
    (engine : Engine) (workflow : Workflow) (trigger : TriggerType) :
    Agrees (Alike alike) (engine.runAlone workflow trigger context) := by
  unfold runAlone
  split
  · refine .bind (agrees_runGuarded h context workflow trigger none)
      fun run => ?_
    cases run with
    | cancelled =>
        exact .bind agrees_markCancelled fun _ => agrees_persist h
    | matched => exact agrees_persist h
    | skipped => exact agrees_persist h
    | noMatch => exact agrees_persist h
  · exact .pure ()

theorem agrees_logDelayed
    (delayed : DelayedAction) (status : Status)
    (complete : LogEntry → LogEntry) :
    Agrees alike (logDelayed delayed status complete) :=
  .bind (h.newEntry _ _ _ _) fun _ => h.writeLog _

theorem agrees_runDelayed (delayed : DelayedAction) :
    Agrees alike (runDelayed delayed) := by
  unfold runDelayed
  cases Record.ofSnapshot delayed.recordSnapshot with
  | error error =>
      exact .bind (agrees_logDelayed h delayed _ _) fun _ => .pure _
  | ok record =>
      refine .bind (h.loadAction _) fun loaded => ?_
      cases loaded with
      | error error =>
          exact .bind (agrees_logDelayed h delayed _ _) fun _ => .pure _
      | ok found =>
          dsimp only
          cases found.filter Action.isActive with
          | none =>
              exact .bind (agrees_logDelayed h delayed _ _) fun _ => .pure _
          | some action =>
              refine .bind (h.executeNow _ _ _) fun done => ?_
              refine .bind (agrees_logDelayed h delayed _ _) fun _ => ?_
              exact .bind (h.saveWrites _) fun _ => .pure _

/-- No request to the engine tells related surroundings apart. -/
theorem agrees_handle (engine : Engine) (request : Request) :
    Agrees alike (engine.handle request) := by
  cases request with
  | trigger record trigger prior context =>
      exact .bind (Session.agrees_start record
        (agrees_runTrigger h context engine trigger prior)) fun _ => .pure _
  | event event context =>
      have htrigger :
          Agrees alike (engine.processEvent event context) :=
        .bind (Session.agrees_start event.record
          (agrees_runTrigger h context engine event.triggerType event.prior))
          fun _ => .pure _
      exact .bind htrigger fun _ => .pure _
  | workflow workflow record trigger context =>
      exact .bind (Session.agrees_start record
        (agrees_runAlone h context engine workflow trigger)) fun _ => .pure _
  | delayed delayed =>
      exact .bind (agrees_runDelayed h delayed) fun _ => .pure _

end

end Engine

end RecordRules
