/-
# Racing openings of past runs

To open a run takes two answers: its detail, and the definition of the template that the detail
names. The run becomes the active one, and the load of its template takes its token, when the detail
arrives. So of several runs that are being opened the session ends with the one whose detail
arrived last, which need not be the one that was opened last; from then on the order of the
definitions does not matter.
-/

import FlowGraph.Proofs.Session.Loads

namespace FlowGraph

/-- The event is the start of opening a run, or an answer. -/
def Event.isRunLoad : Event → Bool
  | .start (.loadRun _) | .answer .. => true
  | _ => false

/-- The operation waits for the detail of a run. -/
def Pending.awaitsDetail : Pending → Bool
  | .runDetail _ => true
  | _ => false

namespace Session

variable {session : Session} {runId detail : Value}

/-- An answer to a run's detail ends the operation, or makes it the newest load. -/
theorem resume_runDetail_cases (reply : Reply) (number : Nat) :
    let turn := session.resume (.runDetail runId) reply
    turn.flights number = [] ∧ turn.session.loads = session.loads ∨
      turn.session.loads = session.loads + 1 ∧
        ∃ call templateId run, turn.flights number =
          [{ number, call, pending := .definition turn.session.loads templateId run }] := by
  cases reply with
  | error failure => exact .inl ⟨rfl, rfl⟩
  | ok detail =>
      cases detail with
      | object fields =>
          rw [resume_runDetail]
          dsimp only
          split
          · exact .inl ⟨rfl, rfl⟩
          · split
            · exact .inl ⟨rfl, rfl⟩
            · exact .inr ⟨rfl, _, _, _, rfl⟩
      | _ => exact .inl ⟨rfl, rfl⟩

end Session

namespace Desk

variable {desk : Desk} {number : Nat}

/-- Only runs are being opened: each waits for its detail, or for a definition under a token that
was taken before. -/
def Opening (desk : Desk) : Prop :=
  ∀ flight ∈ desk.flights, (∃ runId, flight.pending = .runDetail runId) ∨
    ∃ token templateId run, flight.pending = .definition token templateId run ∧
      token ≤ desk.session.loads

theorem Opening.step (hopening : desk.Opening) {event : Event} (hevent : event.isRunLoad) :
    (desk.step event).Opening := by
  cases event with
  | start operation =>
      cases operation with
      | loadTemplate templateId version => cases hevent
      | loadRun runId =>
          intro flight hflight
          rcases mem_flights_follow.mp hflight with hnew | ⟨hold, -⟩
          · obtain rfl := List.mem_singleton.mp hnew
            exact .inl ⟨runId, rfl⟩
          · exact hopening flight hold
      | save => cases hevent
      | startRun key clock => cases hevent
  | answer number reply =>
      refine step_answer_rec ?_ ?_
      · intro _
        exact hopening
      · intro answered hflight flight hmem
        rw [mem_flights_follow] at hmem
        rw [session_follow]
        rcases hopening answered (mem_of_flight? hflight).1 with ⟨runId, hpending⟩ |
          ⟨token, templateId, run, hpending, -⟩
        · rw [hpending] at hmem ⊢
          rcases Session.resume_runDetail_cases reply number with ⟨hnone, hloads⟩ |
            ⟨hloads, call, templateId, run, hnew⟩
          · rw [hnone] at hmem
            rcases hmem with hmem | ⟨hold, -⟩
            · cases hmem
            · exact hloads.symm ▸ hopening flight hold
          · rw [hnew] at hmem
            rcases hmem with hmem | ⟨hold, -⟩
            · obtain rfl := List.mem_singleton.mp hmem
              exact .inr ⟨_, templateId, run, rfl, Nat.le_refl _⟩
            · rcases hopening flight hold with hdetail | ⟨token, templateId, run, heq, hle⟩
              · exact .inl hdetail
              · exact .inr ⟨token, templateId, run, heq, by omega⟩
        · rw [hpending, Session.flights_resume_definition] at hmem
          rw [hpending, Session.loads_resume_definition]
          rcases hmem with hmem | ⟨hold, -⟩
          · cases hmem
          · exact hopening flight hold
  | edit move => cases hevent

theorem activeRunId_run {after : List Event} (hafter : ∀ event ∈ after, event.isAnswer)
    (hflights : ∀ flight ∈ desk.flights, ∃ token templateId run,
      flight.pending = .definition token templateId run) :
    (desk.run after).session.activeRunId = desk.session.activeRunId := by
  induction after generalizing desk with
  | nil => rfl
  | cons event rest ih =>
      obtain ⟨hanswer, hrest⟩ := List.forall_mem_cons.mp hafter
      cases event with
      | start operation => cases hanswer
      | edit move => cases hanswer
      | answer other reply =>
          rw [run_cons]
          cases hflight : desk.flight? other with
          | none => rw [step_answer_of_none hflight, ih hrest hflights]
          | some flight =>
              obtain ⟨token, templateId, run, hpending⟩ :=
                hflights flight (mem_of_flight? hflight).1
              rw [step_answer hflight, hpending, ih hrest, session_follow,
                Session.activeRunId_resume_definition]
              intro waiting hwaiting
              rw [mem_flights_follow, Session.flights_resume_definition] at hwaiting
              rcases hwaiting with hnone | ⟨hmem, -⟩
              · cases hnone
              · exact hflights waiting hmem

/-- The detail of a run of this version of a template. -/
def runOf (templateId : String) (version : Value) : Value :=
  .object [("run", .object
    [("workflow_template_id", .text templateId), ("workflow_template_version", version)])]

/-- The active run, and a short account of what is shown. -/
def account (desk : Desk) :
    Option String × Option String × Option Int × Option String × List String :=
  (desk.session.activeRunId.asText?, desk.session.shown.outline)

/-- Of the runs that are being opened the session ends with the one whose detail arrived last. That
run is the active one, and its definition alone decides what is shown. Only a detail whose version
is an infinite number asks for no definition, and leaves what is shown to the others. -/
theorem last_detail_decides (session : Session) (before after : List Event)
    (hbefore : ∀ event ∈ before, event.isRunLoad) (hafter : ∀ event ∈ after, event.isAnswer)
    (number : Nat) (runId detail : Value)
    (hawaits : ((run { session } before).flight? number).map Flight.pending =
      some (.runDetail runId))
    (hlast : ∀ flight ∈ (run { session } before).flights, flight.pending.awaitsDetail →
      flight.number = number)
    (hnamed : Session.runTemplate detail ≠ "") :
    let desk := run { session } before
    let opened := desk.step (.answer number (.ok detail))
    (opened.run after).session.activeRunId = runId ∧
      if (Session.runVersion detail).isInfinite then
        opened.session.shown = desk.session.shown ∧ opened.flight? number = none
      else
        (opened.run after).session.shown =
          match answerTo number after with
          | some reply =>
            desk.session.shown.receive (.text (Session.runTemplate detail)) (some detail) reply
          | none => desk.session.shown := by
  obtain ⟨fields, rfl⟩ := Session.exists_object_of_trimmedText hnamed
  intro desk opened
  have hopening : desk.Opening :=
    run_induction (fun _ _ hopening hevent => hopening.step hevent) (fun _ hnone => by cases hnone)
      hbefore
  have hothers : ∀ other ∈ desk.flights, other.number ≠ number → ∃ token templateId run,
      other.pending = .definition token templateId run ∧ token ≤ desk.session.loads := by
    intro other hmem hne
    rcases hopening other hmem with ⟨id, hpending⟩ | hdefinition
    · exact absurd (hlast other hmem (by rw [hpending]; rfl)) hne
    · exact hdefinition
  obtain ⟨flight, hflight, hpending⟩ := Option.map_eq_some_iff.mp hawaits
  have hopened : opened =
      desk.follow number (desk.session.resume (.runDetail runId) (.ok (.object fields))) :=
    (step_answer hflight _).trans (by rw [hpending])
  rw [Session.resume_runDetail] at hopened
  dsimp only at hopened
  rw [if_neg hnamed] at hopened
  by_cases hinfinite : (Session.runVersion (.object fields)).isInfinite
  · rw [if_pos hinfinite] at hopened ⊢
    rw [hopened]
    refine ⟨?_, rfl, flight?_follow_self rfl⟩
    rw [activeRunId_run hafter]
    · rfl
    · intro waiting hwaiting
      rcases mem_flights_follow.mp hwaiting with hnone | ⟨hmem, hne⟩
      · cases hnone
      · obtain ⟨token, templateId, run, hpending, -⟩ := hothers waiting hmem hne
        exact ⟨token, templateId, run, hpending⟩
  · rw [if_neg hinfinite] at hopened ⊢
    have hwaits : opened.flight? number =
        some
          { number
            call := .readDefinition (.text (Session.runTemplate (.object fields)))
              (((Session.versionNumber (Session.runVersion (.object fields))).map Value.int).getD
                .null)
            pending := .definition opened.session.loads
              (.text (Session.runTemplate (.object fields))) (some (.object fields)) } := by
      rw [hopened]
      exact List.find?_cons_of_pos (by simp)
    have hstale : ∀ other ∈ opened.flights, other.number ≠ number →
        other.pending.IsStale opened.session.loads := by
      intro other hmem hne
      rw [hopened] at hmem ⊢
      rcases mem_flights_follow.mp hmem with hnew | ⟨hold, -⟩
      · obtain rfl := List.mem_singleton.mp hnew
        exact absurd rfl hne
      · obtain ⟨token, templateId, run, hpending, hle⟩ := hothers other hold hne
        exact ⟨token, templateId, run, hpending, Nat.ne_of_lt (Nat.lt_succ_of_le hle)⟩
    have hactive : opened.session.activeRunId = runId := by rw [hopened]; rfl
    have hshown : opened.session.shown = desk.session.shown := by rw [hopened]; rfl
    rw [session_run_of_newest hafter hwaits rfl hstale]
    cases answerTo number after with
    | none => exact ⟨hactive, hshown⟩
    | some reply =>
        refine ⟨(Session.activeRunId_resume_definition reply).trans hactive, ?_⟩
        rw [← hshown]
        exact Session.shown_resume_newest _ _ reply

theorem second_run_opens :
    ((((run { session := .onFirst }
          [.start (.loadRun (.text "r1")), .start (.loadRun (.text "r2")),
           .answer 0 (.ok (runOf "a" (.int 4)))]).step
        (.answer 1 (.ok (runOf "b" (.int 7))))).run
      [.answer 1 (sent "b" "Second" "ask" (.int 7)),
       .answer 0 (sent "a" "First" "read" (.int 4))])).account =
      (some "r2", some "b", some 7, some "Second", ["ask"]) := by
  obtain ⟨hactive, hshown⟩ := last_detail_decides .onFirst
    [.start (.loadRun (.text "r1")), .start (.loadRun (.text "r2")),
      .answer 0 (.ok (runOf "a" (.int 4)))]
    [.answer 1 (sent "b" "Second" "ask" (.int 7)), .answer 0 (sent "a" "First" "read" (.int 4))]
    (by simp [Event.isRunLoad]) (by simp [Event.isAnswer]) 1 (.text "r2") (runOf "b" (.int 7)) rfl
    (by decide +kernel) (by decide +kernel)
  rw [if_neg (by decide +kernel)] at hshown
  rw [account, hactive, hshown]
  decide +kernel

/-- The run that was opened last is not the one that the session ends with when its detail arrives
first; and when its version is an infinite number the session ends with this run as the active one
and with the template of the other. -/
theorem first_run_wins :
    (run { session := .onFirst }
      [.start (.loadRun (.text "r1")), .start (.loadRun (.text "r2")),
       .answer 1 (.ok (runOf "b" (.int 7))), .answer 0 (.ok (runOf "a" (.int 4))),
       .answer 1 (sent "b" "Second" "ask" (.int 7)),
       .answer 0 (sent "a" "First" "read" (.int 4))]).account =
      (some "r1", some "a", some 4, some "First", ["read"]) ∧
    (run { session := .onFirst }
      [.start (.loadRun (.text "r1")), .answer 0 (.ok (runOf "a" (.int 4))),
       .start (.loadRun (.text "r2")), .answer 1 (.ok (runOf "b" (.float (1 / 0)))),
       .answer 0 (sent "a" "First" "read" (.int 4))]).account =
      (some "r2", some "a", some 4, some "First", ["read"]) := by
  exact ⟨by decide +kernel, by decide +kernel⟩

end Desk

end FlowGraph
