/-
# When the backend refuses

A load, the opening of a run and a save may each end because the backend failed. Whichever of its
calls that was, the session keeps its document with the history, the template it is on, and
everything else it knows; only the number of loads started so far may have grown. There is one
exception: to open a run takes two calls, and the run becomes the active one between them. When the
second call fails, the session is left with a run that it did not open.
-/

import FlowGraph.Proofs.Session.Runs

namespace FlowGraph

/-- The turn ends an operation because the backend failed. -/
def Turn.IsRefused (turn : Turn) : Prop :=
  ∃ message status, turn.next = .done (.error (.backend message status))

namespace Session

variable {session : Session}

/-! ## One turn -/

theorem session_resume_definition_of_isRefused {token : Nat} {templateId : Value}
    {run : Option Value} {reply : Reply}
    (hrefused : (session.resume (.definition token templateId run) reply).IsRefused) :
    (session.resume (.definition token templateId run) reply).session = session := by
  obtain ⟨message, status, hnext⟩ := hrefused
  cases reply with
  | error failure => rfl
  | ok response =>
      simp only [resume, receive, receiveDefinition] at hnext ⊢
      split at hnext
      · cases hnext
      · rw [if_neg ‹_›]
        cases hread : readLoaded templateId response with
        | error failure => rfl
        | ok loaded =>
            -- what was read is taken over, or its version is out of range
            rw [hread] at hnext
            simp only [adopt, positive?_eq] at hnext
            cases hinfinite : loaded.version.isInfinite <;> rw [hinfinite] at hnext <;> cases hnext

theorem session_resume_save_of_isRefused {name : String} {isNew : Bool} {runKey : Option Value}
    {reply : Reply} (hrefused : (session.resume (.save name isNew runKey) reply).IsRefused) :
    (session.resume (.save name isNew runKey) reply).session = session := by
  obtain ⟨message, status, hnext⟩ := hrefused
  cases reply with
  | error failure => rfl
  | ok response =>
      cases response with
      | object fields =>
          cases isNew with
          | false =>
              rw [resume_version] at hnext
              split at hnext
              · cases hnext
              · cases runKey <;> cases hnext
          | true =>
              rw [resume_created] at hnext ⊢
              dsimp only at hnext ⊢
              split at hnext
              · -- the backend told no id for the new template
                rw [if_pos ‹_›]
                rfl
              · split at hnext
                · cases hnext
                · cases runKey <;> cases hnext
      | _ => rfl

/-- A failure of the backend that ends an operation leaves the session as this turn found it. -/
theorem session_resume_of_isRefused {pending : Pending} {reply : Reply}
    (hrefused : (session.resume pending reply).IsRefused) :
    (session.resume pending reply).session = session := by
  cases pending with
  | definition token templateId run => exact session_resume_definition_of_isRefused hrefused
  | save name isNew runKey => exact session_resume_save_of_isRefused hrefused
  | runDetail runId =>
      obtain ⟨message, status, hnext⟩ := hrefused
      cases reply with
      | error failure => rfl
      | ok detail =>
          cases detail with
          | object fields =>
              rw [resume_runDetail] at hnext
              dsimp only at hnext
              split at hnext
              · cases hnext
              · split at hnext <;> cases hnext
          | _ => cases hnext
  | runStart =>
      obtain ⟨message, status, hnext⟩ := hrefused
      cases reply with
      | error failure => rfl
      | ok response => cases response <;> cases hnext
  | fetch runId =>
      cases reply with
      | error failure => cases failure <;> rfl
      | ok detail => rfl
  | task => cases reply <;> rfl

end Session

/-! ## An operation on its own -/

namespace Turn

variable {β : Type} {answer : Backend β} {backend : β} {turn : Turn}

/-- The backend only answers: the session is not edited while a call is under way. -/
def Backend.LeavesAlone (answer : Backend β) : Prop :=
  ∀ backend session call, (answer backend session call).2.1 = session

/-- What a backend answers to a call. -/
def Backend.reply (answer : Backend β) (backend : β) (session : Session) (call : Call) : Reply :=
  (answer backend session call).2.2

theorem run_of_done {result : Except Failure Outcome} (hdone : turn.next = .done result)
    (fuel : Nat) : (run answer fuel backend turn).turn = turn := by
  cases fuel with
  | zero => rfl
  | succ fuel => simp only [run, hdone, Ran.report]

/-- An operation that waits goes on with the answer to its call, if it ever ends. -/
theorem exists_run_of_ask (halone : answer.LeavesAlone) {call : Call} {pending : Pending}
    (hask : turn.next = .ask call pending) {fuel : Nat}
    (hended : (run answer fuel backend turn).turn.IsRefused) :
    ∃ fewer, (run answer fuel backend turn).turn =
      (run answer fewer (answer backend turn.session call).1
        (turn.session.resume pending (answer.reply backend turn.session call))).turn := by
  cases fuel with
  | zero =>
      obtain ⟨message, status, hnext⟩ := hended
      cases hask.symm.trans hnext
  | succ fuel =>
      refine ⟨fuel, ?_⟩
      simp only [run, hask, Ran.report, halone backend turn.session call, Backend.reply]

/-- A load that is refused leaves the session as it found it, however it is run. -/
theorem session_run_definition_of_isRefused {session : Session} {token : Nat} {templateId : Value}
    {run : Option Value} {reply : Reply} {fuel : Nat}
    (hrefused : (Turn.run answer fuel backend
      (session.resume (.definition token templateId run) reply)).turn.IsRefused) :
    (Turn.run answer fuel backend
      (session.resume (.definition token templateId run) reply)).turn.session = session := by
  obtain ⟨after, replaced, hturn, -⟩ := session.resume_definition token templateId run reply
  have hdone : (session.resume (.definition token templateId run) reply).next =
      .done (replaced.map (Session.loadOutcome run)) := by
    rw [hturn]
    rfl
  rw [run_of_done hdone] at hrefused ⊢
  exact Session.session_resume_definition_of_isRefused hrefused

/-- The opening of a run that is refused after it asked for the detail leaves everything alone but
the tokens, and the active run only if the detail was refused. -/
theorem session_run_runDetail_of_isRefused (halone : answer.LeavesAlone) {session : Session}
    {runId : Value} {reply : Reply} {fuel : Nat}
    (hrefused : (Turn.run answer fuel backend
      (session.resume (.runDetail runId) reply)).turn.IsRefused) :
    ∃ loads, (Turn.run answer fuel backend
      (session.resume (.runDetail runId) reply)).turn.session =
        match reply with
        | .ok _ => { session with loads, activeRunId := runId }
        | .error _ => session := by
  have hended {turn : Turn} {result : Except Failure Outcome} (hdone : turn.next = .done result)
      (hrefused : (Turn.run answer fuel backend turn).turn.IsRefused) : turn.IsRefused := by
    rwa [run_of_done hdone] at hrefused
  cases reply with
  | error failure => exact ⟨session.loads, congrArg Turn.session (run_of_done rfl fuel)⟩
  | ok detail =>
      cases detail with
      | object fields =>
          rw [Session.resume_runDetail] at hrefused ⊢
          dsimp only at hrefused ⊢
          split at hrefused
          · obtain ⟨message, status, hnext⟩ := hended rfl hrefused
            cases hnext
          · split at hrefused
            · obtain ⟨message, status, hnext⟩ := hended rfl hrefused
              cases hnext
            · -- the run is the active one by now, and its definition is refused
              rw [if_neg ‹_›, if_neg ‹_›]
              obtain ⟨fewer, hran⟩ := exists_run_of_ask halone rfl hrefused
              rw [hran] at hrefused ⊢
              exact ⟨session.loads + 1, session_run_definition_of_isRefused hrefused⟩
      | _ =>
          obtain ⟨message, status, hnext⟩ := hended rfl hrefused
          cases hnext

theorem session_run_save_of_isRefused (halone : answer.LeavesAlone) {session : Session}
    {fuel : Nat} (hrefused : (Turn.run answer fuel backend session.save).turn.IsRefused) :
    (Turn.run answer fuel backend session.save).turn.session = session := by
  rw [Session.save, Session.startSave] at hrefused ⊢
  cases hcall : session.saveCall none with
  | error failure =>
      rw [hcall] at hrefused
      exact congrArg Turn.session (run_of_done rfl fuel)
  | ok asked =>
      obtain ⟨call, pending⟩ := asked
      rw [hcall] at hrefused
      obtain ⟨fewer, hran⟩ := exists_run_of_ask halone rfl hrefused
      dsimp only at hran hrefused ⊢
      rw [hran] at hrefused ⊢
      -- a save alone is over with its answer
      obtain ⟨name, isNew, rfl⟩ : ∃ name isNew, pending = .save name isNew none := by
        obtain ⟨-, -, -, ⟨-, -, -, -, -, hpending⟩ | ⟨-, hpending⟩⟩ := Session.saveCall_cases hcall
        · exact ⟨_, _, hpending⟩
        · exact ⟨_, _, hpending⟩
      have hdone : ∃ result, (session.resume (.save name isNew none)
          (answer.reply backend session call)).next = .done result := by
        rcases session.resume_save_cases name isNew none (answer.reply backend session call) with
          ⟨after, failure, hturn⟩ | ⟨after, result, hturn⟩
        · exact ⟨_, congrArg Turn.next hturn⟩
        · exact ⟨_, congrArg Turn.next hturn⟩
      obtain ⟨result, hdone⟩ := hdone
      rw [run_of_done hdone] at hrefused ⊢
      exact Session.session_resume_save_of_isRefused hrefused

end Turn

namespace Operation

/-- The operation saves the document in order to run it. -/
def startsRun : Operation → Bool
  | startRun .. => true
  | _ => false

/-- The run that became the active one while it was being opened: its detail was answered. -/
def detailed? (reply : Call → Reply) : Operation → Option Value
  | loadRun runId =>
    match reply (.readRun runId) with
    | .ok _ => some runId
    | .error _ => none
  | _ => none

/-- A load, the opening of a run or a save that ends because the backend failed, at whichever of its
calls, leaves the session as it was, apart from the number of loads that were started. Only a run
whose detail was answered before the failure has become the active one. -/
theorem refused_keeps_session {β : Type} {answer : Turn.Backend β} (halone : answer.LeavesAlone)
    (fuel : Nat) (backend : β) (session : Session) (operation : Operation)
    (hstarts : operation.startsRun = false)
    (hrefused : (Turn.run answer fuel backend (operation.begin session)).turn.IsRefused) :
    let after := (Turn.run answer fuel backend (operation.begin session)).turn.session
    after =
      { session with
        loads := after.loads
        activeRunId :=
          (operation.detailed? (answer.reply backend session)).getD session.activeRunId } := by
  intro after
  suffices hkept : ∃ loads, after =
      { session with
        loads
        activeRunId :=
          (operation.detailed? (answer.reply backend session)).getD session.activeRunId } by
    obtain ⟨loads, hsession⟩ := hkept
    rw [hsession]
  cases operation with
  | loadTemplate templateId version =>
      obtain ⟨fewer, hran⟩ := Turn.exists_run_of_ask halone rfl hrefused
      rw [hran] at hrefused
      have hkept := Turn.session_run_definition_of_isRefused hrefused
      exact ⟨session.loads + 1, (congrArg Turn.session hran).trans hkept⟩
  | loadRun runId =>
      obtain ⟨fewer, hran⟩ := Turn.exists_run_of_ask halone rfl hrefused
      rw [hran] at hrefused
      obtain ⟨loads, hkept⟩ := Turn.session_run_runDetail_of_isRefused halone hrefused
      have hsession := (congrArg Turn.session hran).trans hkept
      have hbegin : (begin session (loadRun runId)).session = session := rfl
      rw [hbegin] at hsession
      cases hanswered : answer.reply backend session (.readRun runId) with
      | ok detail =>
          rw [hanswered] at hsession
          refine ⟨loads, ?_⟩
          simp only [detailed?, hanswered, Option.getD_some]
          exact hsession
      | error failure =>
          rw [hanswered] at hsession
          refine ⟨session.loads, ?_⟩
          simp only [detailed?, hanswered, Option.getD_none]
          exact hsession
  | save => exact ⟨session.loads, Turn.session_run_save_of_isRefused halone hrefused⟩
  | startRun key clock => cases hstarts

/-- A backend that tells of runs and refuses everything else. -/
def tellsRuns : Turn.Backend Unit := fun backend session call =>
  (backend, session, match call with
    | .readRun _ => .ok (Desk.runOf "b" (.int 7))
    | _ => .error (.backend "refused" none))

theorem refused_definition_keeps_template :
    let ran := Turn.run tellsRuns 2 () ((loadRun (.text "r1")).begin .onFirst)
    ran.turn.IsRefused ∧ ran.turn.session.shown = Session.onFirst.shown ∧
      ran.turn.session.activeRunId = .text "r1" := by
  have hrefused :
      (Turn.run tellsRuns 2 () ((loadRun (.text "r1")).begin .onFirst)).turn.IsRefused :=
    ⟨"refused", none, by rfl⟩
  have hkept := refused_keeps_session (fun _ _ _ => rfl) 2 () .onFirst (loadRun (.text "r1")) rfl
    hrefused
  refine ⟨hrefused, ?_, ?_⟩
  · rw [hkept]
    rfl
  · rw [hkept]
    rfl

/-- A run whose definition is refused is the active one nevertheless, beside a template that is not
its own. -/
theorem refused_definition_changes_run :
    let ran := Turn.run tellsRuns 2 () ((loadRun (.text "r1")).begin .onFirst)
    ran.turn.IsRefused ∧ Session.onFirst.activeRunId = .null ∧
      ran.turn.session.activeRunId = .text "r1" ∧
      ran.turn.session.shown.outline = (some "a", some 3, some "First", ["trigger_1"]) :=
  ⟨⟨"refused", none, by rfl⟩, rfl, by rfl, by decide +kernel⟩

end Operation

end FlowGraph
