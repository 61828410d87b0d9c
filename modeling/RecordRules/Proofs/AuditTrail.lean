import RecordRules.Proofs.CalmRuns
import RecordRules.Proofs.Selection

/-!
# The audit trail

What the log tells of an undisturbed run.  Every workflow that was evaluated
has one block of entries: the entries of the actions of each rule that matched,
each rule closed by an entry of its own, and at the end one entry of the
workflow.  The grammar follows the record through the run, since each rule is
weighed on the record as the actions before it left it.  The count of the run
is the count of these entries.
-/

namespace RecordRules

open Host (Effect Leads)

/-! ## Blocks of entries -/

/-- An action that was run, with the entry about it. -/
structure ActionStep where
  performed : Performed
  entry : LogEntry

/-- A rule that matched: its actions, and the entry that closes it. -/
structure RuleBlock where
  steps : List ActionStep
  entry : LogEntry

/-- A workflow that was evaluated: it was filtered out by its monitored fields,
or its rules were weighed; the entry of the workflow closes it. -/
inductive WorkflowBlock where
  | filtered (entry : LogEntry)
  | evaluated (rules : List RuleBlock) (entry : LogEntry)

namespace RuleBlock

def entries (block : RuleBlock) : List LogEntry :=
  block.steps.map ActionStep.entry ++ [block.entry]

def actions (block : RuleBlock) : List Performed :=
  block.steps.map ActionStep.performed

/-- A rule has failed if the entry of one of its actions says so. -/
def status (steps : List ActionStep) : Status :=
  if ∃ step ∈ steps, step.entry.status = .failed then .failed else .success

end RuleBlock

namespace WorkflowBlock

def entries : WorkflowBlock → List LogEntry
  | .filtered entry => [entry]
  | .evaluated rules entry => rules.flatMap RuleBlock.entries ++ [entry]

def actions : WorkflowBlock → List Performed
  | .filtered _ => []
  | .evaluated rules _ => rules.flatMap RuleBlock.actions

/-- A workflow without a rule that matched is skipped; otherwise it has failed
if the entry of one of its rules says so. -/
def status : List RuleBlock → Status
  | [] => .skipped
  | rules =>
    if ∃ rule ∈ rules, rule.entry.status = .failed then .failed else .success

/-- How the evaluation of the workflow ended. -/
def run : WorkflowBlock → WorkflowRun
  | .filtered _ => .skipped
  | .evaluated [] _ => .noMatch
  | .evaluated (_ :: _) _ => .matched

theorem run_ne_cancelled (block : WorkflowBlock) :
    block.run ≠ .cancelled := by
  rcases block with _ | ⟨_ | _, _⟩ <;> simp [run]

end WorkflowBlock

/-! ## The grammar -/

/-- Actions of a rule were run one after another on the record, each with an
entry of its status. -/
inductive ActionsDone
    (workflowId ruleId : Uuid) (context : TriggerContext) :
    List Action → Record → List ActionStep → Record → Prop
  | none (record : Record) :
      ActionsDone workflowId ruleId context [] record [] record
  | next {action : Action} {rest : List Action} {step : ActionStep}
      {steps : List ActionStep} {last : Record} :
      step.performed.context = .ofTrigger workflowId ruleId context →
      step.performed.action = action →
      step.performed.Ran →
      step.entry.Tells workflowId (some ruleId) (some action.id)
        step.performed.after step.performed.result.status →
      ActionsDone workflowId ruleId context rest step.performed.after steps
        last →
        ActionsDone workflowId ruleId context (action :: rest)
          step.performed.before (step :: steps) last

/-- Rules of a workflow were weighed one after another, each on the record as
it was by then; of those that matched, the active actions were run in execution
order, ties as they stand in the rule. -/
inductive RulesDone
    (workflowId : Uuid) (prior : Option Record) (context : TriggerContext) :
    List Rule → Record → List RuleBlock → Record → Prop
  | none (record : Record) :
      RulesDone workflowId prior context [] record [] record
  | missed {rule : Rule} {rest : List Rule} {record : Record}
      {blocks : List RuleBlock} {last : Record} :
      Condition.listHolds rule.conditions rule.logic record prior = false →
      RulesDone workflowId prior context rest record blocks last →
        RulesDone workflowId prior context (rule :: rest) record blocks last
  | matched {rule : Rule} {rest : List Rule} {actions : List Action}
      {record after : Record} {block : RuleBlock} {blocks : List RuleBlock}
      {last : Record} :
      Condition.listHolds rule.conditions rule.logic record prior = true →
      StableSort Action.executionOrder Workflow.inOrder
        (rule.actions.filter Action.isActive) actions →
      ActionsDone workflowId rule.id context actions record block.steps after →
      block.entry.Tells workflowId (some rule.id) none after
        (RuleBlock.status block.steps) →
      RulesDone workflowId prior context rest after blocks last →
        RulesDone workflowId prior context (rule :: rest) record
          (block :: blocks) last

/-- A workflow was evaluated on a record: its active rules in execution order,
ties as they stand in the workflow. -/
inductive WorkflowDone
    (trigger : TriggerType) (prior : Option Record) (context : TriggerContext)
    (workflow : Workflow) : Record → WorkflowBlock → Record → Prop
  | filtered {record : Record} {entry : LogEntry} :
      workflow.Unchanged trigger prior record →
      entry.Tells workflow.id none none record .skipped →
        WorkflowDone trigger prior context workflow record (.filtered entry)
          record
  | evaluated {record last : Record} {rules : List Rule}
      {blocks : List RuleBlock} {entry : LogEntry} :
      ¬ workflow.Unchanged trigger prior record →
      StableSort Rule.executionOrder Workflow.inOrder
        (workflow.rules.filter Rule.isActive) rules →
      RulesDone workflow.id prior context rules record blocks last →
      entry.Tells workflow.id none none last (WorkflowBlock.status blocks) →
        WorkflowDone trigger prior context workflow record
          (.evaluated blocks entry) last

/-- Workflows were evaluated one after another, up to a matched one that stops
the rest. -/
inductive WorkflowsDone
    (trigger : TriggerType) (prior : Option Record)
    (context : TriggerContext) :
    List Workflow → Record → List WorkflowBlock → Record → Prop
  | none (record : Record) : WorkflowsDone trigger prior context [] record []
      record
  | stopped {workflow : Workflow} {rest : List Workflow}
      {record last : Record} {block : WorkflowBlock} :
      WorkflowDone trigger prior context workflow record block last →
      block.run = .matched → workflow.stopOnMatch = true →
        WorkflowsDone trigger prior context (workflow :: rest) record [block]
          last
  | next {workflow : Workflow} {rest : List Workflow}
      {record after last : Record} {block : WorkflowBlock}
      {blocks : List WorkflowBlock} :
      WorkflowDone trigger prior context workflow record block after →
      ¬ (block.run = .matched ∧ workflow.stopOnMatch = true) →
      WorkflowsDone trigger prior context rest after blocks last →
        WorkflowsDone trigger prior context (workflow :: rest) record
          (block :: blocks) last

/-! ## The count of entries -/

namespace TriggerOutcome

/-- What entries count for: rules by their entries, actions by entries of each
status. -/
def ofEntries (entries : List LogEntry) : TriggerOutcome :=
  { zero with
    rulesMatched := entries.countP fun entry => entry.level = .rule
    actionsSucceeded := entries.countP fun entry =>
      entry.level = .action ∧ entry.status = .success
    actionsFailed := entries.countP fun entry =>
      entry.level = .action ∧ entry.status = .failed
    actionsPending := entries.countP fun entry =>
      entry.level = .action ∧ entry.status = .pending }

/-- What the blocks of a run count for. -/
def ofBlocks (blocks : List WorkflowBlock) : TriggerOutcome :=
  { ofEntries (blocks.flatMap WorkflowBlock.entries) with
    workflowsEvaluated := blocks.length
    workflowsMatched := blocks.countP fun block => block.run = .matched
    workflowsSkipped := blocks.countP fun block => block.run = .skipped }

theorem ofEntries_append (first second : List LogEntry) :
    ofEntries (first ++ second) =
      (ofEntries first).add (ofEntries second) := by
  simp [ofEntries, add, zero, List.countP_append]

theorem ofBlocks_cons (block : WorkflowBlock) (blocks : List WorkflowBlock) :
    ofBlocks (block :: blocks) = (ofBlocks [block]).add (ofBlocks blocks) := by
  simp only [ofBlocks, List.flatMap_cons, List.flatMap_nil, List.append_nil,
    ofEntries_append]
  simp [add, ofEntries, zero, List.countP_cons]
  omega

end TriggerOutcome

/-! ## Tallies and blocks -/

def RuleTally.after (tally : RuleTally) (steps : List ActionStep) :
    RuleTally :=
  steps.foldl (fun tally step => tally.add step.performed.result.status) tally

theorem RuleTally.status_eq_failed (tally : RuleTally) :
    tally.status = .failed ↔ 0 < tally.failed := by
  unfold RuleTally.status
  split <;> simp_all

def RulesTally.after (tally : RulesTally) (blocks : List RuleBlock) :
    RulesTally :=
  blocks.foldl
    (fun tally block =>
      ⟨tally.matched + 1,
        if block.entry.status = .failed then tally.failed + 1
        else tally.failed⟩)
    tally

theorem Performed.Ran.not_skipped {performed : Performed}
    (h : performed.Ran) : performed.result.status ≠ .skipped := by
  obtain ⟨host, later, hexecute⟩ := h
  exact (Execution.yields_execute _ _ _ _ _ _ hexecute).1

section ActionsDone

variable {workflowId ruleId : Uuid} {context : TriggerContext}
  {actions : List Action} {record last : Record} {steps : List ActionStep}

/-- The tally counts a failure exactly when the entry of some action tells of
one. -/
theorem ActionsDone.failed_pos_iff
    (h : ActionsDone workflowId ruleId context actions record steps last)
    (tally : RuleTally) :
    0 < (tally.after steps).failed ↔
      0 < tally.failed ∨ ∃ step ∈ steps, step.entry.status = .failed := by
  induction h generalizing tally with
  | none record => simp [RuleTally.after]
  | @next action rest step steps last _ _ hran htells _ ih =>
      have hskipped := hran.not_skipped
      have hstatus := htells.status
      have hadd :
          0 < (tally.add step.performed.result.status).failed ↔
            0 < tally.failed ∨ step.entry.status = .failed := by
        rw [hstatus]
        cases hcase : step.performed.result.status <;>
          simp_all [RuleTally.add]
      calc
        0 < (tally.after (step :: steps)).failed ↔
            0 < ((tally.add step.performed.result.status).after
              steps).failed := Iff.rfl
        _ ↔ _ := ih _
        _ ↔ _ := by simp [hadd, or_assoc]

theorem ActionsDone.status_eq
    (h : ActionsDone workflowId ruleId context actions record steps last) :
    (RuleTally.zero.after steps).status = RuleBlock.status steps := by
  unfold RuleTally.status RuleBlock.status
  have hfailed := h.failed_pos_iff .zero
  rw [RuleTally.zero, or_iff_right (Nat.lt_irrefl 0)] at hfailed
  simp only [RuleTally.zero, hfailed]

end ActionsDone

theorem TriggerOutcome.ofEntries_action
    {entry : LogEntry} {workflowId ruleId actionId : Uuid} {record : Record}
    {status : Status}
    (htells : entry.Tells workflowId (some ruleId) (some actionId) record
      status) :
    ofEntries [entry] = countAction .zero status := by
  have hlevel : entry.level = .action := by
    simp [LogEntry.level, htells.action]
  have hstatus := htells.status
  cases status <;> simp [ofEntries, zero, countAction, hlevel, hstatus]

theorem TriggerOutcome.ofEntries_rule
    {entry : LogEntry} {workflowId ruleId : Uuid} {record : Record}
    {status : Status}
    (htells : entry.Tells workflowId (some ruleId) none record status) :
    ofEntries [entry] = { zero with rulesMatched := 1 } := by
  have hlevel : entry.level = .rule := by
    simp [LogEntry.level, htells.action, htells.rule]
  simp [ofEntries, hlevel, zero]

theorem TriggerOutcome.ofEntries_workflow
    {entry : LogEntry} {workflowId : Uuid} {record : Record}
    {status : Status}
    (htells : entry.Tells workflowId none none record status) :
    ofEntries [entry] = zero := by
  have hlevel : entry.level = .workflow := by
    simp [LogEntry.level, htells.action, htells.rule]
  simp [ofEntries, hlevel, zero]

theorem TriggerOutcome.ofBlocks_filtered
    {entry : LogEntry} {workflowId : Uuid} {record : Record}
    {status : Status}
    (htells : entry.Tells workflowId none none record status) :
    ofBlocks [.filtered entry] =
      add { zero with workflowsEvaluated := 1 }
        { zero with workflowsSkipped := 1 } := by
  have hentries := ofEntries_workflow htells
  simp [ofBlocks, WorkflowBlock.entries, hentries, WorkflowBlock.run, add,
    zero]

theorem TriggerOutcome.ofBlocks_evaluated
    {rules : List RuleBlock} {entry : LogEntry} {workflowId : Uuid}
    {record : Record} {status : Status}
    (htells : entry.Tells workflowId none none record status) :
    ofBlocks [.evaluated rules entry] =
      add { zero with workflowsEvaluated := 1 }
        { ofEntries (rules.flatMap RuleBlock.entries) with
          workflowsMatched := if rules = [] then 0 else 1 } := by
  have hentries :
      ofEntries (WorkflowBlock.entries (.evaluated rules entry)) =
        ofEntries (rules.flatMap RuleBlock.entries) := by
    rw [WorkflowBlock.entries, ofEntries_append, ofEntries_workflow htells,
      add_zero]
  simp only [ofBlocks, List.flatMap_cons, List.flatMap_nil, List.append_nil,
    hentries]
  cases rules <;> simp [WorkflowBlock.run, add, zero, ofEntries]

theorem RulesTally.after_matched
    (tally : RulesTally) (blocks : List RuleBlock) :
    (tally.after blocks).matched = tally.matched + blocks.length := by
  induction blocks generalizing tally with
  | nil => rfl
  | cons block rest ih =>
      calc
        (tally.after (block :: rest)).matched =
            tally.matched + 1 + rest.length := ih _
        _ = tally.matched + (block :: rest).length := by
            simp only [List.length_cons]
            omega

theorem RulesTally.after_failed_eq_zero_iff
    (tally : RulesTally) (blocks : List RuleBlock) :
    (tally.after blocks).failed = 0 ↔
      tally.failed = 0 ∧ ¬ ∃ block ∈ blocks, block.entry.status = .failed := by
  induction blocks generalizing tally with
  | nil => simp [RulesTally.after]
  | cons block rest ih =>
      calc
        (tally.after (block :: rest)).failed = 0 ↔ _ := ih _
        _ ↔ _ := by
            by_cases hblock : block.entry.status = .failed <;> simp [hblock]

/-! ## What is active and stored -/

theorem Rule.mem_actions_of_active
    {rule : Rule} {action : Action} (h : action ∈ rule.activeActions) :
    action ∈ rule.actions := by
  simp only [Rule.activeActions, List.mem_mergeSort, List.mem_filter] at h
  exact h.1

theorem Workflow.mem_rules_of_active
    {workflow : Workflow} {rule : Rule} (h : rule ∈ workflow.activeRules) :
    rule ∈ workflow.rules := by
  simp only [Workflow.activeRules, List.mem_mergeSort, List.mem_filter] at h
  exact h.1

theorem WorkflowStore.mem_actions
    {store : WorkflowStore} {workflow : Workflow} {rule : Rule}
    {action : Action} (hworkflow : workflow ∈ store.workflows)
    (hrule : rule ∈ workflow.rules) (haction : action ∈ rule.actions) :
    action ∈ store.actions :=
  List.mem_flatMap.mpr
    ⟨workflow, hworkflow, List.mem_flatMap.mpr ⟨rule, hrule, haction⟩⟩

/-! ## Undisturbed runs follow the grammar -/

namespace Engine

open Session (Advances)

variable {context : TriggerContext} {session : Session}

theorem runActions_cons_calm
    (workflowId ruleId : Uuid) (tally : RuleTally) (action : Action)
    (rest : List Action) (h : session.host.Calm context)
    (hstored : action ∈ session.host.store.actions) :
    ∃ (step : ActionStep) (next : Session),
      runActions workflowId ruleId context tally (action :: rest) session =
          runActions workflowId ruleId context
            (tally.add step.performed.result.status) rest next ∧
        step.performed.before = session.record ∧
        (∀ {steps last},
          ActionsDone workflowId ruleId context rest next.record steps last →
            ActionsDone workflowId ruleId context (action :: rest)
              step.performed.before (step :: steps) last) ∧
        Advances context [step.entry] [step.performed] (.ofEntries [step.entry])
          session next := by
  obtain ⟨asked, hasked, haskedRecord, haskedAdvances⟩ := isCancelled_calm h
  obtain ⟨performed, ran, hran, hcontext, haction, hbefore, hperformed, -,
      hranRecord, hranAdvances⟩ :=
    execute_calm haskedAdvances.calm
      (by
        rw [haskedAdvances.storedActions]
        exact hstored)
      (.ofTrigger workflowId ruleId context)
  obtain ⟨entry, next, hlogged, htells, hrecord, hloggedAdvances⟩ :=
    log_calm hranAdvances.calm workflowId performed.result.status
      (fun entry =>
        (entry.forAction ruleId action.id).withResult performed.result)
      fun _ htells => (htells.forAction ruleId action.id).withResult _
  have hadvances := (haskedAdvances.trans hranAdvances).trans hloggedAdvances
  rw [hranRecord] at htells hrecord
  refine ⟨⟨performed, entry⟩, next, ?_, hbefore.trans haskedRecord,
    fun hdone => ?_, ?_⟩
  · rw [runActions, Run.bind_of_value hasked]
    change (Session.execute _ _ >>= _) asked = _
    rw [Run.bind_of_value hran, Run.bind_of_value hlogged]
  · rw [hrecord] at hdone
    exact .next hcontext haction hperformed htells hdone
  · rw [TriggerOutcome.ofEntries_action htells]
    simpa using hadvances

theorem runActions_calm
    (workflowId ruleId : Uuid) (tally : RuleTally) (actions : List Action)
    (h : session.host.Calm context)
    (hstored : ∀ action ∈ actions, action ∈ session.host.store.actions) :
    ∃ steps later,
      runActions workflowId ruleId context tally actions session =
          (.value (some (tally.after steps)), later) ∧
        ActionsDone workflowId ruleId context actions session.record steps
          later.record ∧
        Advances context (steps.map ActionStep.entry)
          (steps.map ActionStep.performed)
          (.ofEntries (steps.map ActionStep.entry)) session later := by
  induction actions generalizing tally session with
  | nil => exact ⟨[], session, rfl, .none _, .refl h⟩
  | cons action rest ih =>
      obtain ⟨step, next, hnext, hbefore, hdone, hadvances⟩ :=
        runActions_cons_calm workflowId ruleId tally action rest h
          (hstored action List.mem_cons_self)
      have hstoredRest : ∀ other ∈ rest, other ∈ next.host.store.actions := by
        intro other hmem
        rw [hadvances.storedActions]
        exact hstored other (List.mem_cons_of_mem action hmem)
      obtain ⟨steps, later, hrest, hrestDone, hrestAdvances⟩ :=
        ih (tally.add step.performed.result.status) hadvances.calm hstoredRest
      refine ⟨step :: steps, later, hnext.trans hrest, ?_, ?_⟩
      · rw [← hbefore]
        exact hdone hrestDone
      · have htotal := hadvances.trans hrestAdvances
        rw [← TriggerOutcome.ofEntries_append] at htotal
        exact htotal

theorem runRule_calm
    (workflowId : Uuid) {rule : Rule} (h : session.host.Calm context)
    (hstored : ∀ action ∈ rule.actions,
      action ∈ session.host.store.actions) :
    ∃ (block : RuleBlock) (next : Session),
      runRule workflowId context rule session =
          (.value (some (RuleTally.zero.after block.steps)), next) ∧
        ActionsDone workflowId rule.id context rule.activeActions
          session.record block.steps next.record ∧
        block.entry.Tells workflowId (some rule.id) none next.record
          (RuleBlock.status block.steps) ∧
        Advances context block.entries block.actions
          (.ofEntries block.entries) session next := by
  have hcounted :
      Advances context [] [] { TriggerOutcome.zero with rulesMatched := 1 }
        session
        { session with
          outcome :=
            { session.outcome with
              rulesMatched := session.outcome.rulesMatched + 1 } } :=
    .of_count h _
      (fun outcome => { outcome with rulesMatched := outcome.rulesMatched + 1 })
      (by simp [TriggerOutcome.add, TriggerOutcome.zero])
  obtain ⟨steps, acted, hacted, hdone, hactedAdvances⟩ :=
    runActions_calm workflowId rule.id .zero rule.activeActions hcounted.calm
      fun action hmem => hstored action (Rule.mem_actions_of_active hmem)
  let done := RuleTally.zero.after steps
  obtain ⟨entry, next, hlogged, htells, hrecord, hlogAdvances⟩ :=
    log_calm hactedAdvances.calm workflowId done.status
      (ruleEntry rule.id done) fun _ htells => htells.ruleEntry rule.id done
  rw [hdone.status_eq] at htells
  have hadvances := (hcounted.trans hactedAdvances).trans hlogAdvances
  refine ⟨⟨steps, entry⟩, next, ?_, ?_, ?_, ?_⟩
  · rw [runRule, Session.count, Run.modify_bind, Run.bind_of_value hacted]
    change (log _ _ _ >>= _) acted = _
    rw [Run.bind_of_value hlogged]
    rfl
  · rw [hrecord]
    exact hdone
  · rw [hrecord]
    exact htells
  · have hcounts :
        TriggerOutcome.ofEntries (RuleBlock.entries ⟨steps, entry⟩) =
          (TriggerOutcome.add { TriggerOutcome.zero with rulesMatched := 1 }
            (.ofEntries (steps.map ActionStep.entry))).add .zero := by
      rw [RuleBlock.entries, TriggerOutcome.ofEntries_append,
        TriggerOutcome.ofEntries_rule htells, TriggerOutcome.add_zero,
        TriggerOutcome.add_comm]
    rw [hcounts]
    simpa [RuleBlock.entries, RuleBlock.actions] using hadvances

theorem runRules_cons_calm
    (workflowId : Uuid) (prior : Option Record) (tally : RulesTally)
    (rule : Rule) (rest : List Rule) (h : session.host.Calm context)
    (hstored : ∀ action ∈ rule.actions,
      action ∈ session.host.store.actions) :
    ∃ (block? : Option RuleBlock) (next : Session),
      runRules workflowId prior context tally (rule :: rest) session =
          runRules workflowId prior context (tally.after block?.toList) rest
            next ∧
        (∀ {blocks last},
          RulesDone workflowId prior context rest next.record blocks last →
            RulesDone workflowId prior context (rule :: rest) session.record
              (block?.toList ++ blocks) last) ∧
        Advances context (block?.toList.flatMap RuleBlock.entries)
          (block?.toList.flatMap RuleBlock.actions)
          (.ofEntries (block?.toList.flatMap RuleBlock.entries))
          session next := by
  obtain ⟨asked, hasked, hrecord, haskedAdvances⟩ := isCancelled_calm h
  let holds :=
    Condition.listHolds rule.conditions rule.logic asked.record prior
  let weighed : Session :=
    { asked with trace := asked.trace ++ [.weighed rule holds] }
  have hweighed : Advances context [] [] .zero session weighed := by
    simpa using haskedAdvances.trans
      (.of_look haskedAdvances.calm (.weighed rule holds) trivial)
  cases hholds : holds with
  | false =>
      refine ⟨none, weighed, ?_, fun hdone => ?_, hweighed⟩
      · rw [runRules, Run.bind_of_value hasked, if_neg Bool.false_ne_true,
          Run.gets_bind, Session.remember, Run.modify_bind,
          if_neg (by simpa using hholds)]
        rfl
      · rw [← hrecord]
        exact .missed hholds hdone
  | true =>
      have hstoredWeighed :
          ∀ action ∈ rule.actions, action ∈ weighed.host.store.actions := by
        intro action hmem
        rw [hweighed.storedActions]
        exact hstored action hmem
      obtain ⟨block, next, hrule, hactions, htells, hadvances⟩ :=
        runRule_calm workflowId hweighed.calm hstoredWeighed
      refine ⟨some block, next, ?_, fun hdone => ?_, ?_⟩
      · rw [runRules, Run.bind_of_value hasked, if_neg Bool.false_ne_true,
          Run.gets_bind, Session.remember, Run.modify_bind,
          if_pos hholds, Run.bind_of_value hrule]
        have htally :
            tally.after [block] =
              ⟨tally.matched + 1,
                if 0 < (RuleTally.zero.after block.steps).failed then
                  tally.failed + 1 else tally.failed⟩ := by
          simp only [RulesTally.after, List.foldl_cons, List.foldl_nil,
            htells.status, ← hactions.status_eq, RuleTally.status_eq_failed]
        rw [Option.toList_some, htally]
      · rw [← hrecord]
        exact .matched hholds rule.stableSort_activeActions hactions htells hdone
      · simpa using hweighed.trans hadvances

theorem runRules_calm
    (workflowId : Uuid) (prior : Option Record) (tally : RulesTally)
    (rules : List Rule) (h : session.host.Calm context)
    (hstored : ∀ rule ∈ rules, ∀ action ∈ rule.actions,
      action ∈ session.host.store.actions) :
    ∃ blocks later,
      runRules workflowId prior context tally rules session =
          (.value (some (tally.after blocks)), later) ∧
        RulesDone workflowId prior context rules session.record blocks
          later.record ∧
        Advances context (blocks.flatMap RuleBlock.entries)
          (blocks.flatMap RuleBlock.actions)
          (.ofEntries (blocks.flatMap RuleBlock.entries)) session later := by
  induction rules generalizing tally session with
  | nil => exact ⟨[], session, rfl, .none _, .refl h⟩
  | cons rule rest ih =>
      obtain ⟨block?, next, hnext, hdone, hadvances⟩ :=
        runRules_cons_calm workflowId prior tally rule rest h
          (hstored rule List.mem_cons_self)
      have hstoredRest : ∀ other ∈ rest, ∀ action ∈ other.actions,
          action ∈ next.host.store.actions := by
        intro other hmem action haction
        rw [hadvances.storedActions]
        exact hstored other (List.mem_cons_of_mem rule hmem) action haction
      obtain ⟨blocks, later, hrest, hrestDone, hrestAdvances⟩ :=
        ih (tally.after block?.toList) hadvances.calm hstoredRest
      refine ⟨block?.toList ++ blocks, later, ?_, hdone hrestDone, ?_⟩
      · rw [hnext, hrest, RulesTally.after, RulesTally.after,
          RulesTally.after, List.foldl_append]
      · have htotal := hadvances.trans hrestAdvances
        rw [← TriggerOutcome.ofEntries_append, ← List.flatMap_append,
          ← List.flatMap_append] at htotal
        exact htotal

theorem finish_matched_calm
    (workflow : Workflow) {tally : RulesTally} (h : session.host.Calm context)
    (hmatched : tally.matched ≠ 0) :
    ∃ entry later,
      finish workflow context tally session = (.value .matched, later) ∧
        entry.Tells workflow.id none none session.record
          (if tally.failed = 0 then .success else .failed) ∧
        later.record = session.record ∧
        Advances context [entry] []
          { TriggerOutcome.zero with workflowsMatched := 1 } session later := by
  let change : TriggerOutcome → TriggerOutcome := fun outcome =>
    { outcome with workflowsMatched := outcome.workflowsMatched + 1 }
  have hcounted :
      Advances context [] [] { TriggerOutcome.zero with workflowsMatched := 1 }
        session { session with outcome := change session.outcome } :=
    .of_count h _ change
      (by simp [change, TriggerOutcome.add, TriggerOutcome.zero])
  unfold finish
  rw [if_neg hmatched, Session.count]
  simp only [Run.modify_bind]
  split
  · obtain ⟨entry, later, hlogged, htells, hrecord, hadvances⟩ :=
      log_calm hcounted.calm workflow.id .success _
        fun _ htells => htells.withDetails _
    exact ⟨entry, later, Run.bind_of_value hlogged _, htells, hrecord,
      by simpa using hcounted.trans hadvances⟩
  · obtain ⟨entry, later, hlogged, htells, hrecord, hadvances⟩ :=
      log_calm hcounted.calm workflow.id .failed _
        fun _ htells => (htells.withDetails _).withError _
    exact ⟨entry, later, Run.bind_of_value hlogged _, htells, hrecord,
      by simpa using hcounted.trans hadvances⟩

theorem finish_calm
    (workflow : Workflow) (rules : List RuleBlock)
    (h : session.host.Calm context) :
    ∃ entry later,
      finish workflow context (.after ⟨0, 0⟩ rules) session =
          (.value (WorkflowBlock.run (.evaluated rules entry)), later) ∧
        entry.Tells workflow.id none none session.record
          (WorkflowBlock.status rules) ∧
        later.record = session.record ∧
        Advances context [entry] []
          { TriggerOutcome.zero with
            workflowsMatched := if rules = [] then 0 else 1 }
          session later := by
  cases rules with
  | nil =>
      obtain ⟨entry, later, hlogged, htells, hrecord, hadvances⟩ :=
        log_calm h workflow.id .skipped _
          fun _ htells => htells.withDetails
            (correlated "no rules matched" context)
      exact ⟨entry, later, Run.bind_of_value hlogged _, htells, hrecord,
        hadvances⟩
  | cons block rest =>
      have hmatched : (RulesTally.after ⟨0, 0⟩ (block :: rest)).matched ≠ 0 := by
        simp [RulesTally.after_matched]
      have hfailed :=
        RulesTally.after_failed_eq_zero_iff ⟨0, 0⟩ (block :: rest)
      obtain ⟨entry, later, hfinish, htells, hrecord, hadvances⟩ :=
        finish_matched_calm workflow h hmatched
      refine ⟨entry, later, hfinish, ?_, hrecord, by simpa using hadvances⟩
      simp only [hfailed, true_and, ite_not] at htells
      exact htells

theorem weighRules_calm
    {workflow : Workflow} (prior : Option Record)
    (h : session.host.Calm context)
    (hstored : workflow ∈ session.host.store.workflows) :
    ∃ rules entry later last,
      weighRules workflow prior context session =
          (.value (WorkflowBlock.run (.evaluated rules entry)), later) ∧
        RulesDone workflow.id prior context workflow.activeRules session.record
          rules last ∧
        entry.Tells workflow.id none none last (WorkflowBlock.status rules) ∧
        later.record = last ∧
        Advances context (WorkflowBlock.entries (.evaluated rules entry))
          (WorkflowBlock.actions (.evaluated rules entry))
          { TriggerOutcome.ofEntries (rules.flatMap RuleBlock.entries) with
            workflowsMatched := if rules = [] then 0 else 1 }
          session later := by
  obtain ⟨rules, weighed, hweighed, hdone, hrules⟩ :=
    runRules_calm workflow.id prior ⟨0, 0⟩ workflow.activeRules h
      fun rule hrule action haction =>
        WorkflowStore.mem_actions hstored
          (Workflow.mem_rules_of_active hrule) haction
  obtain ⟨entry, later, hfinish, htells, hrecord, hlast⟩ :=
    finish_calm workflow rules hrules.calm
  refine ⟨rules, entry, later, weighed.record, ?_, hdone, htells, hrecord, ?_⟩
  · exact (Run.bind_of_value hweighed _).trans hfinish
  · have hcounts :
        { TriggerOutcome.ofEntries (rules.flatMap RuleBlock.entries) with
          workflowsMatched := if rules = [] then 0 else 1 } =
          (TriggerOutcome.ofEntries (rules.flatMap RuleBlock.entries)).add
            { TriggerOutcome.zero with
              workflowsMatched := if rules = [] then 0 else 1 } := by
      simp [TriggerOutcome.add, TriggerOutcome.zero, TriggerOutcome.ofEntries]
    rw [hcounts]
    simpa [WorkflowBlock.entries, WorkflowBlock.actions] using
      hrules.trans hlast

theorem passOver_calm
    (workflow : Workflow) (h : session.host.Calm context) :
    ∃ entry later,
      passOver workflow session = (.value .skipped, later) ∧
        entry.Tells workflow.id none none session.record .skipped ∧
        later.record = session.record ∧
        Advances context [entry] []
          { TriggerOutcome.zero with workflowsSkipped := 1 }
          session later := by
  let change : TriggerOutcome → TriggerOutcome := fun outcome =>
    { outcome with workflowsSkipped := outcome.workflowsSkipped + 1 }
  have hcounted :
      Advances context [] [] { TriggerOutcome.zero with workflowsSkipped := 1 }
        session { session with outcome := change session.outcome } :=
    .of_count h _ change
      (by simp [change, TriggerOutcome.add, TriggerOutcome.zero])
  obtain ⟨entry, later, hlogged, htells, hrecord, hadvances⟩ :=
    log_calm hcounted.calm workflow.id .skipped _
      fun _ htells => htells.withDetails (unchangedText workflow)
  refine ⟨entry, later, ?_, htells, hrecord,
    by simpa using hcounted.trans hadvances⟩
  rw [passOver, Session.count, Run.modify_bind]
  exact Run.bind_of_value hlogged _

theorem runWorkflow_calm
    {workflow : Workflow} (trigger : TriggerType) (prior : Option Record)
    (h : session.host.Calm context)
    (hstored : workflow ∈ session.host.store.workflows) :
    ∃ block later,
      runWorkflow workflow trigger prior context session =
          (.value block.run, later) ∧
        WorkflowDone trigger prior context workflow session.record block
          later.record ∧
        Advances context block.entries block.actions (.ofBlocks [block])
          session later := by
  have hbegan := Advances.of_look h (.began workflow) trivial
  have hcounted :
      Advances context [] []
        { TriggerOutcome.zero with workflowsEvaluated := 1 } session
        (takenUp workflow session) := by
    simpa [takenUp] using hbegan.trans (.of_count hbegan.calm _
      (fun outcome =>
        { outcome with workflowsEvaluated := outcome.workflowsEvaluated + 1 })
      (by simp [TriggerOutcome.add, TriggerOutcome.zero]))
  rw [runWorkflow_apply]
  cases htriggered :
      isTriggeredBy workflow trigger session.record prior with
  | true =>
      have hchanged : ¬ workflow.Unchanged trigger prior session.record := by
        rw [← isTriggeredBy_eq_false_iff, htriggered]
        simp
      rw [if_pos rfl]
      obtain ⟨rules, entry, later, last, hweighed, hdone, htells, rfl,
          hadvances⟩ :=
        weighRules_calm prior hcounted.calm hstored
      refine ⟨.evaluated rules entry, later, hweighed,
        .evaluated hchanged workflow.stableSort_activeRules hdone htells, ?_⟩
      rw [TriggerOutcome.ofBlocks_evaluated htells]
      simpa using hcounted.trans hadvances
  | false =>
      have hunchanged := (isTriggeredBy_eq_false_iff _ _ _ _).mp htriggered
      rw [if_neg Bool.false_ne_true]
      obtain ⟨entry, later, hpassed, htells, hrecord, hadvances⟩ :=
        passOver_calm workflow hcounted.calm
      refine ⟨.filtered entry, later, hpassed, ?_, ?_⟩
      · rw [hrecord]
        exact .filtered hunchanged htells
      · rw [TriggerOutcome.ofBlocks_filtered htells]
        exact hcounted.trans hadvances

theorem runGuarded_calm
    {workflow : Workflow} (trigger : TriggerType) (prior : Option Record)
    (h : session.host.Calm context)
    (hstored : workflow ∈ session.host.store.workflows) :
    ∃ block later,
      runGuarded workflow trigger prior context session =
          (.value block.run, later) ∧
        WorkflowDone trigger prior context workflow session.record block
          later.record ∧
        Advances context block.entries block.actions (.ofBlocks [block])
          session later := by
  obtain ⟨block, later, hrun, hdone, hadvances⟩ :=
    runWorkflow_calm trigger prior h hstored
  refine ⟨block, later, ?_, hdone, hadvances⟩
  exact Run.bind_of_value (Run.guarded_of_value hrun) _

theorem runWorkflows_calm
    (trigger : TriggerType) (prior : Option Record)
    (workflows : List Workflow) (h : session.host.Calm context)
    (hstored : ∀ workflow ∈ workflows,
      workflow ∈ session.host.store.workflows) :
    ∃ blocks later,
      runWorkflows trigger prior context workflows session =
          (.value (), later) ∧
        WorkflowsDone trigger prior context workflows session.record blocks
          later.record ∧
        Advances context (blocks.flatMap WorkflowBlock.entries)
          (blocks.flatMap WorkflowBlock.actions) (.ofBlocks blocks)
          session later := by
  induction workflows generalizing session with
  | nil => exact ⟨[], session, rfl, .none _, .refl h⟩
  | cons workflow rest ih =>
      obtain ⟨asked, hasked, haskedRecord, haskedAdvances⟩ := isCancelled_calm h
      obtain ⟨block, next, hblock, hdone, hblockAdvances⟩ :=
        runGuarded_calm trigger prior haskedAdvances.calm
          (by
            rw [haskedAdvances.workflows]
            exact hstored workflow List.mem_cons_self)
      rw [haskedRecord] at hdone
      have hadvances := haskedAdvances.trans hblockAdvances
      have hrun :
          runWorkflows trigger prior context (workflow :: rest) session =
            goOn workflow (runWorkflows trigger prior context rest) block.run
              next :=
        (Run.bind_of_value hasked _).trans (Run.bind_of_value hblock _)
      rw [hrun]
      by_cases hstops : block.run = .matched ∧ workflow.stopOnMatch = true
      · refine ⟨[block], next, ?_, .stopped hdone hstops.1 hstops.2, ?_⟩
        · rw [hstops.1, goOn, if_pos hstops.2]
          rfl
        · simpa using hadvances
      · have hstoredRest :
            ∀ other ∈ rest, other ∈ next.host.store.workflows := by
          intro other hmem
          rw [hadvances.workflows]
          exact hstored other (List.mem_cons_of_mem workflow hmem)
        obtain ⟨blocks, later, hrest, hrestDone, hrestAdvances⟩ :=
          ih hadvances.calm hstoredRest
        refine ⟨block :: blocks, later, ?_, .next hdone hstops hrestDone, ?_⟩
        · rw [← hrest]
          cases hcase : block.run with
          | cancelled => exact absurd hcase block.run_ne_cancelled
          | matched =>
              have hgoesOn : ¬ workflow.stopOnMatch = true :=
                fun hstop => hstops ⟨hcase, hstop⟩
              rw [goOn, if_neg hgoesOn]
          | skipped => rfl
          | noMatch => rfl
        · have htotal := hadvances.trans hrestAdvances
          rw [TriggerOutcome.zero_add, ← TriggerOutcome.ofBlocks_cons]
            at htotal
          exact htotal

theorem persist_calm (h : session.host.Calm context) :
    ∃ later,
      persist session = (.value (), later) ∧
        later.host.store.logs = session.host.store.logs ∧
        actionsOf later.trace = actionsOf session.trace ∧
        later.outcome = session.outcome ∧
        later.record.fields = session.record.fields := by
  rcases persist_cases session with
    ⟨-, hpersist⟩ | ⟨-, answer, host, hpersist, hanswer⟩ |
      ⟨-, host, -, -, hfault⟩
  · exact ⟨session, hpersist, rfl, rfl, rfl, rfl⟩
  · refine ⟨_, hpersist, ?_, by simp [actionsOf, Moment.performed?], rfl, ?_⟩
    · rcases hanswer with ⟨-, hleads⟩ | ⟨-, hleads⟩
      · simp [hleads.logs, Effect.entry?]
      · simp [hleads.logs]
    · cases answer <;> rfl
  · exact absurd hfault (h.unbroken _ _)

theorem applicable_calm
    {host : Host} (h : host.Calm context) (recordType : String)
    (trigger : TriggerType) :
    ∃ later,
      (applicable recordType trigger).run host =
          (.value (.ok
            (Workflow.applicable host.store.workflows recordType trigger)),
            later) ∧
        Leads [] host later ∧ later.Calm context := by
  have hacts :
      Host.Acts .loading
        (Host.loadWorkflows recordType trigger).run :=
    Host.acts_loadWorkflows recordType trigger
  have hcalm := h.of_acts hacts
  obtain ⟨effects, hnone, hleads⟩ := hacts.leads host
  obtain rfl : effects = [] :=
    List.eq_nil_iff_forall_not_mem.mpr hnone
  obtain ⟨loaded, later, hloaded, happlicable⟩ :
      ∃ loaded later,
        (Host.loadWorkflows recordType trigger).run host =
            (.value (.ok loaded), later) ∧
          Workflow.applicable loaded recordType trigger =
            Workflow.applicable host.store.workflows recordType trigger := by
    unfold Host.loadWorkflows
    rw [Host.callEither_run_apply]
    cases hfault : host.faults .loadWorkflows (host.calls .loadWorkflows) with
    | none => exact ⟨_, _, rfl, Workflow.applicable_applicable _ _ _⟩
    | error => exact absurd hfault (h.loads _)
    | panic => exact absurd hfault (h.unbroken _ _)
    | cancel => exact ⟨_, _, rfl, Workflow.applicable_applicable _ _ _⟩
    | unfiltered => exact ⟨_, _, rfl, rfl⟩
  rw [hloaded] at hcalm hleads
  refine ⟨later, ?_, hleads, hcalm⟩
  rw [← happlicable]
  exact Run.bind_of_value hloaded _

/-- The log of an undisturbed run is the concatenation of one block for every
workflow that was evaluated, in execution order, and the count of the run is the
count of these blocks. -/
theorem processTrigger_auditTrail
    (engine : Engine) (host : Host) (record : Record) (trigger : TriggerType)
    (prior : Option Record) (context : TriggerContext)
    (henabled : engine.enabled = true) (hcalm : host.Calm context) :
    ∃ (session : Session) (workflows : List Workflow)
        (blocks : List WorkflowBlock) (last : Record),
      engine.runTrigger trigger prior context (.begin host record) =
          (.value (), session) ∧
        engine.processTrigger record trigger prior context host =
          (.value (session.outcome, session.record), session.host) ∧
        StableSort Workflow.executionOrder Workflow.inOrder
          (host.store.workflows.filter fun workflow =>
            workflow.isActive ∧ workflow.triggerType = trigger ∧
              workflow.recordType = record.recordType)
          workflows ∧
        WorkflowsDone trigger prior context workflows record blocks last ∧
        session.record.fields = last.fields ∧
        session.host.store.logs =
          host.store.logs ++ blocks.flatMap WorkflowBlock.entries ∧
        actionsOf session.trace = blocks.flatMap WorkflowBlock.actions ∧
        session.outcome = TriggerOutcome.ofBlocks blocks := by
  let started : Session := .begin host record
  have hstarted : started.host.Calm context := hcalm
  obtain ⟨asked, hasked, haskedRecord, haskedAdvances⟩ :=
    isCancelled_calm hstarted
  obtain ⟨loadedHost, hloaded, hleads, hloadedCalm⟩ :=
    applicable_calm haskedAdvances.calm record.recordType trigger
  rw [haskedAdvances.workflows] at hloaded
  let loaded : Session := { asked with host := loadedHost }
  have hloadedWorkflows :
      loaded.host.store.workflows = host.store.workflows :=
    hleads.workflows.trans haskedAdvances.workflows
  have hstored :
      ∀ workflow ∈
          Workflow.applicable host.store.workflows record.recordType trigger,
        workflow ∈ loaded.host.store.workflows := by
    intro workflow hmem
    rw [hloadedWorkflows]
    exact Workflow.mem_of_applicable hmem
  obtain ⟨blocks, ran, hran, hdone, hadvances⟩ :=
    runWorkflows_calm trigger prior _ hloadedCalm hstored
  obtain ⟨later, hpersist, hlogs, hactions, houtcome, hfields⟩ :=
    persist_calm hadvances.calm
  have hrun :
      engine.runTrigger trigger prior context started = (.value (), later) := by
    have hload :
        (applicable asked.record.recordType trigger).run asked.host =
          (.value (.ok (Workflow.applicable host.store.workflows
            record.recordType trigger)), loaded.host) := by
      rw [haskedRecord]
      exact hloaded
    rw [runTrigger, if_pos henabled, Run.bind_of_value hasked,
      if_neg Bool.false_ne_true,
      runApplicable_of_loaded trigger prior context hload]
    exact (Run.bind_of_value hran _).trans hpersist
  have hsorted :=
    Workflow.stableSort_applicable host.store.workflows record.recordType
      trigger
  simp only [Workflow.appliesTo_eq_decide] at hsorted
  refine ⟨later, _, blocks, ran.record, hrun, ?_, hsorted, ?_, hfields, ?_, ?_,
    ?_⟩
  · change Session.start record _ host = _
    rw [Session.start, hrun]
  · change WorkflowsDone trigger prior context _ asked.record blocks _ at hdone
    rw [haskedRecord] at hdone
    exact hdone
  · rw [hlogs, hadvances.logs, hleads.logs, haskedAdvances.logs]
    simp [started, Session.begin]
  · rw [hactions, hadvances.actions, haskedAdvances.actions]
    simp [started, Session.begin, actionsOf]
  · rw [houtcome, hadvances.outcome, haskedAdvances.outcome]
    simp [started, Session.begin]

/-! ## A ticket at the desk -/

def setStatus (serial : Nat) (value : String) (order : Int) : Action :=
  { Action.updateField (.numbered serial) "Status" value with
    executionOrder := order }

/-- An action of a kind that is not known, so that it fails. -/
def paged : Action :=
  { Action.ofDefinition (.numbered 11) "Page"
      (.invalid none "page" (.unknownKind "page") .null) with
    executionOrder := 5 }

/-- Three of the actions are active; they stand neither in order nor apart. -/
def everyTicket : Rule :=
  { Rule.ofName (.numbered 2) "Every ticket" with
    executionOrder := 1
    actions :=
      [paged, setStatus 12 "Held" 3, setStatus 13 "Escalated" 3,
        { setStatus 14 "Closed" 4 with isActive := false }] }

def whenStatus (serial : Nat) (value : String) : Rule :=
  { Rule.ofName (.numbered serial) value with
    executionOrder := 2
    conditions := [.equals "Status" value]
    actions := [setStatus (serial + 20) "Told" 0] }

def triage : Workflow :=
  { Workflow.ofName (.numbered 1) "Triage" "Ticket" .onUpdate with
    executionOrder := 1
    rules :=
      [whenStatus 3 "Escalated",
        { whenStatus 4 "Open" with executionOrder := 0, isActive := false },
        whenStatus 5 "Open", everyTicket] }

def owned : Workflow :=
  { Workflow.ofName (.numbered 6) "Owned" "Ticket" .onUpdate with
    triggerFields := ["Owner"] }

def resting : Workflow :=
  { Workflow.ofName (.numbered 7) "Resting" "Ticket" .onUpdate with
    isActive := false }

def desk : Host := .ofWorkflows [triage, resting, owned] ⟨0, 0⟩

def waiting : Record := .ofFields "Ticket" "t-1" [("Status", .string "Open")]

/-- At the desk the workflows, the rules and the actions that are off are left
out, and the others are taken up in their order. -/
theorem applicable_desk :
    Workflow.applicable [triage, resting, owned] "Ticket" .onUpdate =
      [owned, triage] := by
  simp [Workflow.applicable, Workflow.appliesTo, triage, resting, owned,
    Workflow.ofName, List.mergeSort, List.MergeSort.Internal.splitInTwo]

theorem activeRules_triage :
    triage.activeRules =
      [everyTicket, whenStatus 3 "Escalated", whenStatus 5 "Open"] := by
  change List.mergeSort
    [whenStatus 3 "Escalated", whenStatus 5 "Open", everyTicket] _ = _
  simp [everyTicket, whenStatus, List.mergeSort,
    List.MergeSort.Internal.splitInTwo]

theorem activeActions_everyTicket :
    everyTicket.activeActions =
      [setStatus 12 "Held" 3, setStatus 13 "Escalated" 3, paged] := by
  change List.mergeSort
    [paged, setStatus 12 "Held" 3, setStatus 13 "Escalated" 3] _ = _
  simp [paged, setStatus, List.mergeSort, List.MergeSort.Internal.splitInTwo]

/-- A workflow that waits for another owner is filtered out.  Of the rules of
the other, the one for every ticket comes first: its status of the ticket lets
the rule for escalated tickets match and the one for open tickets miss, and its
failure shows in its own entry and in that of the workflow. -/
theorem processTrigger_auditTrail_triage :
    (∃ (session : Session) (workflows : List Workflow)
        (blocks : List WorkflowBlock) (last : Record),
      Engine.runTrigger ⟨true⟩ .onUpdate (some waiting) .detached
          (.begin desk waiting) =
          (.value (), session) ∧
        Engine.processTrigger ⟨true⟩ waiting .onUpdate (some waiting) .detached
            desk =
          (.value (session.outcome, session.record), session.host) ∧
        StableSort Workflow.executionOrder Workflow.inOrder
          ([triage, resting, owned].filter fun workflow =>
            workflow.isActive ∧ workflow.triggerType = .onUpdate ∧
              workflow.recordType = "Ticket")
          workflows ∧
        WorkflowsDone .onUpdate (some waiting) .detached workflows waiting
          blocks last ∧
        session.record.fields = last.fields ∧
        session.host.store.logs =
          [] ++ blocks.flatMap WorkflowBlock.entries ∧
        actionsOf session.trace = blocks.flatMap WorkflowBlock.actions ∧
        session.outcome = TriggerOutcome.ofBlocks blocks) ∧
      (let session :=
        (Engine.runTrigger ⟨true⟩ .onUpdate (some waiting) .detached
          (.begin desk waiting)).2
      (session.host.store.logs.map fun entry =>
          (entry.workflowId, entry.ruleId, entry.actionId, entry.status)) =
        [(owned.id, none, none, .skipped),
          (triage.id, some (.numbered 2), some (.numbered 12), .success),
          (triage.id, some (.numbered 2), some (.numbered 13), .success),
          (triage.id, some (.numbered 2), some (.numbered 11), .failed),
          (triage.id, some (.numbered 2), none, .failed),
          (triage.id, some (.numbered 3), some (.numbered 23), .success),
          (triage.id, some (.numbered 3), none, .success),
          (triage.id, none, none, .failed)] ∧
        session.outcome =
          { TriggerOutcome.zero with
            workflowsEvaluated := 2
            workflowsSkipped := 1
            workflowsMatched := 1
            rulesMatched := 2
            actionsSucceeded := 3
            actionsFailed := 1 }) := by
  refine ⟨processTrigger_auditTrail ⟨true⟩ desk waiting .onUpdate
    (some waiting) .detached rfl (.ofWorkflows _ ⟨0, 0⟩ .detached), ?_⟩
  -- sorting is no computation that can be decided, so its results come first
  have hrun :
      Engine.runTrigger ⟨true⟩ .onUpdate (some waiting) .detached
        (.begin desk waiting) = _ :=
    runTrigger_of_applicable rfl rfl rfl applicable_desk _
  simp only [hrun, runWorkflows, runGuarded, runWorkflow,
    weighRules, activeRules_triage, runRules, runRule,
    activeActions_everyTicket]
  decide +kernel

end Engine

end RecordRules
