/-
# Operations under way

An operation of a session waits for the backend between its turns, and while it waits others start,
are answered and end. A desk is a session with the operations that wait, numbered in the order in
which they were started. The backend may answer them in any order, so a history of the desk is any
list of starts, answers and edits.

Loads are told apart by their tokens. The one fact that every account of racing loads rests on is
shown here: as long as only answers arrive, an operation whose token is not the newest one leaves
the session alone, so that the answer to the newest load decides.
-/

import FlowGraph.Proofs.Session.Answers
import FlowGraph.Proofs.Timeline

namespace FlowGraph

/-- An operation that asks the backend. -/
inductive Operation where
  | loadTemplate (templateId version : Value)
  | loadRun (runId : Value)
  | save
  | startRun (key : Value) (clock : Nat)

/-- The first turn of an operation. -/
def Operation.begin (session : Session) : Operation → Turn
  | .loadTemplate templateId version => session.loadTemplate templateId version
  | .loadRun runId => session.loadRun runId
  | .save => session.save
  | .startRun key clock => session.startRun key clock

/-- An operation that waits: its number, what it asked for, and what it remembers. -/
structure Flight where
  number : Nat
  call : Call
  pending : Pending

/-- What happens at a desk. -/
inductive Event where
  | start (operation : Operation)
  | answer (number : Nat) (reply : Reply)
  | edit (move : Move)

/-- The event is an answer. -/
def Event.isAnswer : Event → Bool
  | .answer .. => true
  | _ => false

/-- The first answer to the operation of this number. -/
def answerTo (number : Nat) : List Event → Option Reply
  | .answer other reply :: rest => if other = number then some reply else answerTo number rest
  | _ :: rest => answerTo number rest
  | [] => none

/-- What the operation of this number waits for after a turn. -/
def Turn.flights (turn : Turn) (number : Nat) : List Flight :=
  match turn.next with
  | .ask call pending => [{ number, call, pending }]
  | _ => []

/-- A session with the operations that wait for an answer. -/
structure Desk where
  session : Session
  started : Nat := 0
  flights : List Flight := []

namespace Desk

/-- What the operation of this number waits for. -/
def flight? (desk : Desk) (number : Nat) : Option Flight :=
  desk.flights.find? fun flight => flight.number = number

/-- The desk after a turn of the operation of this number. -/
def follow (desk : Desk) (number : Nat) (turn : Turn) : Desk :=
  { desk with
    session := turn.session
    flights := turn.flights number ++ desk.flights.filter fun flight => flight.number ≠ number }

/-- The desk after an event. An answer that nothing waits for is no event. -/
def step (desk : Desk) : Event → Desk
  | .start operation =>
    { desk.follow desk.started (operation.begin desk.session) with started := desk.started + 1 }
  | .answer number reply =>
    match desk.flight? number with
    | some flight => desk.follow number (desk.session.resume flight.pending reply)
    | none => desk
  | .edit move =>
    { desk with session := desk.session.withTimeline (desk.session.timeline.act move).2 }

/-- The desk after a history. -/
def run (desk : Desk) (events : List Event) : Desk := events.foldl step desk

variable {desk : Desk} {number : Nat}

@[simp]
theorem run_nil (desk : Desk) : desk.run [] = desk := rfl

@[simp]
theorem run_cons (desk : Desk) (event : Event) (rest : List Event) :
    desk.run (event :: rest) = (desk.step event).run rest := rfl

@[simp]
theorem session_follow (desk : Desk) (number : Nat) (turn : Turn) :
    (desk.follow number turn).session = turn.session := rfl

@[simp]
theorem started_follow (desk : Desk) (number : Nat) (turn : Turn) :
    (desk.follow number turn).started = desk.started := rfl

theorem mem_flights_follow {turn : Turn} {flight : Flight} :
    flight ∈ (desk.follow number turn).flights ↔
      flight ∈ turn.flights number ∨ (flight ∈ desk.flights ∧ flight.number ≠ number) := by
  simp [follow]

theorem step_answer {flight : Flight} (hflight : desk.flight? number = some flight)
    (reply : Reply) :
    desk.step (.answer number reply) =
      desk.follow number (desk.session.resume flight.pending reply) := by
  simp only [step, hflight]

theorem step_answer_of_none (hflight : desk.flight? number = none) (reply : Reply) :
    desk.step (.answer number reply) = desk := by
  simp only [step, hflight]

/-- What holds of a desk, and of what follows on an answer that an operation waits for, holds after
any answer. -/
@[elab_as_elim]
theorem step_answer_rec {holds : Desk → Prop} {reply : Reply}
    (hnone : desk.flight? number = none → holds desk)
    (hsome : ∀ flight, desk.flight? number = some flight →
      holds (desk.follow number (desk.session.resume flight.pending reply))) :
    holds (desk.step (.answer number reply)) := by
  cases hflight : desk.flight? number with
  | none =>
      rw [step_answer_of_none hflight]
      exact hnone hflight
  | some flight =>
      rw [step_answer hflight]
      exact hsome flight hflight

theorem mem_of_flight? {flight : Flight} (hflight : desk.flight? number = some flight) :
    flight ∈ desk.flights ∧ flight.number = number :=
  ⟨List.mem_of_find?_eq_some hflight, by simpa using List.find?_some hflight⟩

/-- A turn of one operation leaves alone what the others wait for. -/
theorem flight?_follow_of_ne {other : Nat} (hne : other ≠ number) (turn : Turn) :
    (desk.follow number turn).flight? other = desk.flight? other := by
  have hturn : (turn.flights number).find? (fun flight => flight.number = other) = none := by
    rw [List.find?_eq_none]
    intro flight hmem
    rw [Turn.flights] at hmem
    split at hmem
    · obtain rfl := List.mem_singleton.mp hmem
      simpa using Ne.symm hne
    · cases hmem
  rw [flight?, follow, List.find?_append, hturn, Option.none_or, List.find?_filter, flight?]
  congr 1
  funext flight
  by_cases hnumber : flight.number = other
  · simp [hnumber, hne]
  · simp [hnumber]

/-- A turn that asks for nothing ends the operation. -/
theorem flight?_follow_self {turn : Turn} (hended : turn.flights number = []) :
    (desk.follow number turn).flight? number = none := by
  rw [flight?, follow, hended, List.nil_append, List.find?_eq_none]
  intro flight hmem
  simpa using (List.mem_filter.mp hmem).2

/-- What holds of a desk, and is kept by every event of some kind, holds after a history of such
events. -/
theorem run_induction {holds : Desk → Prop} {allowed : Event → Prop}
    (hstep : ∀ desk event, holds desk → allowed event → holds (desk.step event))
    (hdesk : holds desk) {events : List Event} (hevents : ∀ event ∈ events, allowed event) :
    holds (desk.run events) := by
  induction events generalizing desk with
  | nil => exact hdesk
  | cons event rest ih =>
      obtain ⟨hevent, hrest⟩ := List.forall_mem_cons.mp hevents
      exact ih (hstep desk event hdesk hevent) hrest

end Desk

/-! ## Tokens -/

/-- The operation waits for the definition of a load that is not the newest one. -/
def Pending.IsStale (loads : Nat) (pending : Pending) : Prop :=
  ∃ token templateId run, pending = .definition token templateId run ∧ token ≠ loads

namespace Session

variable {session : Session} {token : Nat} {templateId : Value} {run : Option Value}

theorem flights_resume_definition (reply : Reply) (number : Nat) :
    (session.resume (.definition token templateId run) reply).flights number = [] := by
  obtain ⟨after, outcome, hturn, -⟩ := resume_definition token templateId run reply
  rw [hturn]
  rfl

theorem loads_resume_definition (reply : Reply) :
    (session.resume (.definition token templateId run) reply).session.loads = session.loads := by
  obtain ⟨after, outcome, hturn, hloads, -⟩ := resume_definition token templateId run reply
  rw [hturn]
  exact hloads

theorem activeRunId_resume_definition (reply : Reply) :
    (session.resume (.definition token templateId run) reply).session.activeRunId =
      session.activeRunId := by
  obtain ⟨after, outcome, hturn, -, hactive, -⟩ := resume_definition token templateId run reply
  rw [hturn]
  exact hactive

/-- The answer to a load that is not the newest one is dropped. -/
theorem session_resume_of_isStale {pending : Pending} (hstale : pending.IsStale session.loads)
    (reply : Reply) : (session.resume pending reply).session = session := by
  obtain ⟨token, templateId, run, rfl, hne⟩ := hstale
  obtain ⟨after, outcome, hturn, -, -, hkept⟩ := resume_definition token templateId run reply
  rw [hturn]
  exact hkept hne

theorem flights_resume_of_isStale {pending : Pending} {loads : Nat}
    (hstale : pending.IsStale loads) (reply : Reply) (number : Nat) :
    (session.resume pending reply).flights number = [] := by
  obtain ⟨token, templateId, run, rfl, -⟩ := hstale
  exact flights_resume_definition reply number

end Session

namespace Desk

variable {desk : Desk} {number : Nat}

/-- Answers to loads that are not the newest one leave the session alone. -/
theorem session_run_of_stale {after : List Event} (hafter : ∀ event ∈ after, event.isAnswer)
    (hstale : ∀ flight ∈ desk.flights, flight.pending.IsStale desk.session.loads) :
    (desk.run after).session = desk.session := by
  induction after generalizing desk with
  | nil => rfl
  | cons event rest ih =>
      obtain ⟨hanswer, hrest⟩ := List.forall_mem_cons.mp hafter
      cases event with
      | start operation => cases hanswer
      | edit move => cases hanswer
      | answer other reply =>
          rw [run_cons]
          cases hflight : desk.flight? other with
          | none => rw [step_answer_of_none hflight, ih hrest hstale]
          | some flight =>
              have hthis := hstale flight (mem_of_flight? hflight).1
              have hsession := Session.session_resume_of_isStale hthis reply
              rw [step_answer hflight, ih hrest, session_follow, hsession]
              intro waiting hwaiting
              rw [mem_flights_follow, Session.flights_resume_of_isStale hthis] at hwaiting
              rw [session_follow, hsession]
              rcases hwaiting with hnone | ⟨hmem, -⟩
              · cases hnone
              · exact hstale waiting hmem

/-- When only the newest load can still change the session, its first answer decides. -/
theorem session_run_of_newest {after : List Event} (hafter : ∀ event ∈ after, event.isAnswer)
    {flight : Flight} (hflight : desk.flight? number = some flight) {templateId : Value}
    {run : Option Value} (hnewest : flight.pending = .definition desk.session.loads templateId run)
    (hothers : ∀ other ∈ desk.flights, other.number ≠ number →
      other.pending.IsStale desk.session.loads) :
    (desk.run after).session =
      match answerTo number after with
      | some reply => (desk.session.resume flight.pending reply).session
      | none => desk.session := by
  induction after generalizing desk with
  | nil => rfl
  | cons event rest ih =>
      obtain ⟨hanswer, hrest⟩ := List.forall_mem_cons.mp hafter
      cases event with
      | start operation => cases hanswer
      | edit move => cases hanswer
      | answer other reply =>
          rw [run_cons, answerTo]
          by_cases hother : other = number
          · -- the load has its answer, and what still waits is stale
            subst hother
            rw [if_pos rfl, step_answer hflight, session_run_of_stale hrest]
            · rfl
            · intro waiting hwaiting
              rw [mem_flights_follow, hnewest, Session.flights_resume_definition] at hwaiting
              rw [session_follow, hnewest, Session.loads_resume_definition]
              rcases hwaiting with hnone | ⟨hmem, hne⟩
              · cases hnone
              · exact hothers waiting hmem hne
          · rw [if_neg hother]
            cases hwaits : desk.flight? other with
            | none => rw [step_answer_of_none hwaits, ih hrest hflight hnewest hothers]
            | some waiting =>
                obtain ⟨hmem, hnumber⟩ := mem_of_flight? hwaits
                have hstale := hothers waiting hmem (hnumber.trans_ne hother)
                have hsession := Session.session_resume_of_isStale hstale reply
                have hkept : (desk.follow other
                    (desk.session.resume waiting.pending reply)).flight? number = some flight := by
                  rw [flight?_follow_of_ne (Ne.symm hother), hflight]
                have hlast := ih hrest hkept (by rw [session_follow, hsession, hnewest]) (by
                  intro next hnext hne
                  rw [mem_flights_follow, Session.flights_resume_of_isStale hstale] at hnext
                  rw [session_follow, hsession]
                  rcases hnext with hnone | ⟨hmem, -⟩
                  · cases hnone
                  · exact hothers next hmem hne)
                rw [step_answer hwaits, hlast, session_follow, hsession]

end Desk

end FlowGraph
