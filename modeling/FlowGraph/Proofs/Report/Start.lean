/-
# What a report says of the start of a run

A report and the start of a run judge a document apart from each other. Both ask which steps have to
be set up first and whether anything compiles, and they ask in the same way: a start that neither
declines hands the backend the definition that the report shows. The structural rules are looked at
by the report alone. So the two verdicts part exactly on documents that break a rule, have no step
to set up and still compile; these are started although the report says that they cannot run.
-/

import FlowGraph.Proofs.Report.Wiring
import FlowGraph.Proofs.Session.Answers

namespace FlowGraph

/-- The turn ends an operation because steps still have to be set up or nothing compiles. -/
def Turn.IsDeclined (turn : Turn) : Prop :=
  (∃ issues, turn.next = .done (.error (.blocked issues))) ∨
    turn.next = .done (.error .nothingToCompile)

/-- The turn asks the backend for something, and hands it this definition. -/
def Turn.Sends (turn : Turn) (definition : Definition) : Prop :=
  ∃ call pending, turn.next = .ask call pending ∧
    Fields.get? call.arguments "definition" = some definition.toWire

theorem Turn.Sends.not_isDeclined {turn : Turn} {definition : Definition}
    (hsends : turn.Sends definition) : ¬ turn.IsDeclined := by
  obtain ⟨call, pending, hnext, -⟩ := hsends
  simp [IsDeclined, hnext]

/-- The written form of a definition always tells how its steps name what they execute. -/
theorem exists_definitionMode (definition : Definition) :
    ∃ mode, definitionMode definition.toWire = .ok mode := by
  have hnodes : (definition.toWire.field "nodes").orElse (.list []) =
      .list (definition.steps.map Step.toWire) := by
    have hfield : definition.toWire.field "nodes" = .list (definition.steps.map Step.toWire) := rfl
    rw [hfield]
    cases definition.steps <;> rfl
  rw [definitionMode, hnodes, Value.walk]
  simp only [bind, Except.bind]
  split
  · split <;> exact ⟨_, rfl⟩
  · exact ⟨_, rfl⟩

namespace Session

variable {session : Session}

/-- A document that compiles is handed to the backend when it is saved. -/
theorem sends_startSave {definition : Definition}
    (hcompile : session.document.compile session.policy = .ok definition)
    (runKey : Option Value) : (session.startSave runKey).Sends definition := by
  obtain ⟨mode, hmode⟩ := exists_definitionMode definition
  obtain ⟨call, pending, hcall⟩ :
      ∃ call pending, session.saveCall runKey = .ok (call, pending) := by
    rw [saveCall, hcompile]
    simp only [bind, Except.bind, hmode]
    split <;> exact ⟨_, _, rfl⟩
  obtain ⟨compiled, mode', hcompiled, hcases⟩ := saveCall_cases hcall
  obtain rfl : definition = compiled := Except.ok.inj (hcompile.symm.trans hcompiled)
  refine ⟨call, pending, by rw [startSave, hcall], ?_⟩
  rcases hcases with ⟨id, -, -, -, rfl, -⟩ | ⟨rfl, -⟩ <;> rfl

theorem startSave_of_eq_error {failure : Failure}
    (hcompile : session.document.compile session.policy = .error failure)
    (runKey : Option Value) : session.startSave runKey = session.finish (.error failure) := by
  rw [startSave, saveCall, hcompile]
  rfl

end Session

namespace Report

variable {session : Session} {report : Report}

/-- The start of a run of a reported document is declined for the steps that the report names, or
for want of a definition, or hands the definition of the report to the backend. -/
theorem startRun_cases (hreport : Report.of session.policy session.document = .ok report)
    (key : Value) (clock : Nat) :
    report.blockers ≠ [] ∧
        session.startRun key clock = session.finish (.error (.blocked report.blockers)) ∨
      report.blockers = [] ∧ report.definition = .error .nothingToCompile ∧
        session.startRun key clock = session.finish (.error .nothingToCompile) ∨
      report.blockers = [] ∧ ∃ definition, report.definition = .ok definition ∧
        (session.startRun key clock).Sends definition := by
  have hdescribes := describes_of_eq_ok hreport
  have hblockers : report.blockers = Issue.blockers (Readiness.issues session.document) := by
    rw [blockers, hdescribes.issues_eq]
  cases hnames : Issue.blockers (Readiness.issues session.document) with
  | cons issue rest =>
      rw [hnames] at hblockers
      exact .inl ⟨by simp [hblockers], by simp only [Session.startRun, hnames, hblockers]⟩
  | nil =>
      rw [hnames] at hblockers
      have hstart : session.startRun key clock =
          session.startSave (some (key.orElse (.text (Session.generatedKey clock)))) := by
        simp only [Session.startRun, hnames]
      have hcompile := hdescribes.definition_eq.symm
      rcases hdescribes.outcome with ⟨definition, hdefinition⟩ | ⟨hdefinition, -⟩
      · refine .inr (.inr ⟨hblockers, definition, hdefinition, ?_⟩)
        rw [hstart]
        exact Session.sends_startSave (hcompile.trans hdefinition) _
      · refine .inr (.inl ⟨hblockers, hdefinition, ?_⟩)
        rw [hstart]
        exact Session.startSave_of_eq_error (hcompile.trans hdefinition) _

/-- A report says that a document can run exactly when the document keeps the structural rules and
the start of a run is not declined; the two verdicts are the same exactly when the document keeps
the rules or its start is declined. A start that is not declined hands the definition of the report
to the backend. -/
theorem canRun_iff_starts (hreport : Report.of session.policy session.document = .ok report)
    (key : Value) (clock : Nat) :
    (report.canRun ↔
      session.document.structureFaults = [] ∧ ¬ (session.startRun key clock).IsDeclined) ∧
    ((report.canRun ↔ ¬ (session.startRun key clock).IsDeclined) ↔
      session.document.structureFaults = [] ∨ (session.startRun key clock).IsDeclined) ∧
    (¬ (session.startRun key clock).IsDeclined →
      ∃ definition, report.definition = .ok definition ∧
        (session.startRun key clock).Sends definition) := by
  have hvalid : report.isValid ↔ session.document.structureFaults = [] := by
    rw [isValid, (describes_of_eq_ok hreport).faults_eq, List.isEmpty_iff]
  have hstarts : (report.blockers.isEmpty && report.isCompiled) = true ↔
      ¬ (session.startRun key clock).IsDeclined := by
    rcases startRun_cases hreport key clock with
      ⟨hblockers, hstart⟩ | ⟨hblockers, hdefinition, hstart⟩ |
        ⟨hblockers, definition, hdefinition, hsends⟩
    · simp [hstart, hblockers, Turn.IsDeclined, Session.finish]
    · simp [hstart, isCompiled, hdefinition, Turn.IsDeclined, Session.finish]
    · simp [hblockers, isCompiled, hdefinition, hsends.not_isDeclined]
  have hverdict : report.canRun ↔
      session.document.structureFaults = [] ∧ ¬ (session.startRun key clock).IsDeclined := by
    rw [canRun, Bool.and_assoc, Bool.and_eq_true, hvalid, hstarts]
  refine ⟨hverdict, ?_, fun hundeclined => ?_⟩
  · rw [hverdict]
    tauto
  · rcases startRun_cases hreport key clock with
      ⟨-, hstart⟩ | ⟨-, -, hstart⟩ | ⟨-, definition, hdefinition, hsends⟩
    · exact absurd (.inl ⟨_, congrArg Turn.next hstart⟩) hundeclined
    · exact absurd (.inr (congrArg Turn.next hstart)) hundeclined
    · exact ⟨definition, hdefinition, hsends⟩

/-- A session on a trigger and a step with edges between the two. -/
def stepSession (edges : List (String × String)) : Session :=
  { timeline :=
      { limit := 100
        present :=
          { nodes :=
              [{ id := "trigger_1", type := "trigger", data := { mode := "manual" } },
               { id := "step", type := "ai"
                 data := { mode := "generate", config := [("prompt", .text "Go")] } }]
            edges := edges.map fun edge =>
              { id := edge.1 ++ "_" ++ edge.2, source := edge.1, target := edge.2 } } } }

/-- The step follows the trigger. -/
def forward : Session := stepSession [("trigger_1", "step")]

/-- The trigger follows the step. -/
def backward : Session := stepSession [("step", "trigger_1")]

theorem forward_starts :
    ∃ report definition, Report.of forward.policy forward.document = .ok report ∧
      report.canRun = true ∧ report.definition = .ok definition ∧
      (forward.startRun .null 0).Sends definition := by
  obtain ⟨report, hreport⟩ :
      ∃ report, Report.of forward.policy forward.document = .ok report := ⟨_, rfl⟩
  have hruns : report.canRun = true := by
    have hverdict : (Report.of forward.policy forward.document).map canRun = .ok true := by
      decide +kernel
    rw [hreport] at hverdict
    exact Except.ok.inj hverdict
  obtain ⟨hverdict, -, hsends⟩ := canRun_iff_starts hreport .null 0
  obtain ⟨definition, hdefinition, hsends⟩ := hsends (hverdict.mp hruns).2
  exact ⟨report, definition, hreport, hruns, hdefinition, hsends⟩

/-- An edge into a trigger breaks a rule, and so the report says that the document cannot run; but
its run is started. -/
theorem backward_starts :
    ∃ report, Report.of backward.policy backward.document = .ok report ∧
      report.canRun = false ∧ ¬ (backward.startRun .null 0).IsDeclined := by
  obtain ⟨report, hreport⟩ :
      ∃ report, Report.of backward.policy backward.document = .ok report := ⟨_, rfl⟩
  have hverdicts : (Report.of backward.policy backward.document).map
      (fun report => (report.canRun, report.blockers.isEmpty, report.isCompiled)) =
        .ok (false, true, true) := by decide +kernel
  rw [hreport] at hverdicts
  obtain ⟨hruns, hready, hcompiled⟩ := by simpa using Except.ok.inj hverdicts
  refine ⟨report, hreport, hruns, ?_⟩
  rcases startRun_cases hreport .null 0 with
    ⟨hblockers, -⟩ | ⟨-, hdefinition, -⟩ | ⟨-, definition, -, hsends⟩
  · exact absurd hready hblockers
  · simp [isCompiled, hdefinition] at hcompiled
  · exact hsends.not_isDeclined

end Report

end FlowGraph
