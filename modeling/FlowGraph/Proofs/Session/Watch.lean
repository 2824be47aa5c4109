/-
# Following a run

A run that is followed is fetched, its detail is reported, and it is fetched again after a pause,
until its status is final or the session is closed. A fetch that is refused reports nothing. While
the operation waits for the backend or for the end of a pause, others may change the session, so a
history of the operation is a list of its own turns and of the sessions that others leave behind.

Two turns, a fetch and a pause, take up each answer before the first final one. The invariant is
what is still to come: the answers up to there, with the calls and the reports that they will bring.
-/

import FlowGraph.Proofs.Session.Status

namespace FlowGraph

/-- What happens while an operation is under way: it takes its next turn, or others leave the
session like this. -/
inductive Moment where
  | turn
  | meanwhile (session : Session)

namespace Moment

/-- The moment is a turn of the operation itself. -/
def isTurn : Moment → Bool
  | turn => true
  | meanwhile _ => false

/-- Others leave the session only as it is allowed. -/
def Leaves (allowed : Session → Prop) : Moment → Prop
  | turn => True
  | meanwhile session => allowed session

/-- How many turns the operation takes. -/
def turns (moments : List Moment) : Nat := moments.countP isTurn

@[simp]
theorem turns_nil : turns [] = 0 := rfl

@[simp]
theorem turns_cons_turn (rest : List Moment) : turns (turn :: rest) = turns rest + 1 :=
  List.countP_cons_of_pos rfl

@[simp]
theorem turns_cons_meanwhile (session : Session) (rest : List Moment) :
    turns (meanwhile session :: rest) = turns rest :=
  List.countP_cons_of_neg (by simp [isTurn])

end Moment

namespace Turn

/-! ## Operations that others come between -/

namespace Ran

variable {β : Type} {answer : Backend β} {ran : Ran β}

/-- An operation with its first turn. -/
def begin (backend : β) (turn : Turn) : Ran β :=
  { backend, turn, updates := turn.update.toList }

/-- The operation after another turn. -/
def take (ran : Ran β) (backend : β) (turn : Turn) : Ran β :=
  { backend, turn, updates := ran.updates ++ turn.update.toList }

/-- The operation after a moment. What has ended takes no more turns. -/
def step (answer : Backend β) (ran : Ran β) : Moment → Ran β
  | .meanwhile session => { ran with turn := { ran.turn with session } }
  | .turn =>
    match ran.turn.next with
    | .done _ => ran
    | .sleep runId => ran.take ran.backend (ran.turn.session.fetch runId)
    | .ask call pending =>
      let (backend, session, reply) := answer ran.backend ran.turn.session call
      ran.take backend (session.resume pending reply)

/-- The operation after a history. -/
def through (answer : Backend β) (ran : Ran β) (moments : List Moment) : Ran β :=
  moments.foldl (step answer) ran

@[simp]
theorem through_nil : ran.through answer [] = ran := rfl

@[simp]
theorem through_cons (moment : Moment) (rest : List Moment) :
    ran.through answer (moment :: rest) = (ran.step answer moment).through answer rest := rfl

theorem step_turn_of_done {result : Except Failure Outcome} (hdone : ran.turn.next = .done result) :
    ran.step answer .turn = ran := by
  simp only [step, hdone]

theorem step_turn_of_sleep {runId : Value} (hsleep : ran.turn.next = .sleep runId) :
    ran.step answer .turn = ran.take ran.backend (ran.turn.session.fetch runId) := by
  simp only [step, hsleep]

theorem step_turn_of_ask {call : Call} {pending : Pending}
    (hask : ran.turn.next = .ask call pending) :
    ran.step answer .turn =
      ran.take (answer ran.backend ran.turn.session call).1
        ((answer ran.backend ran.turn.session call).2.1.resume pending
          (answer ran.backend ran.turn.session call).2.2) := by
  simp only [step, hask]

/-- What was reported before plays no part in what follows. -/
theorem through_report (update : Option Value) (moments : List Moment) :
    (report update ran).through answer moments = report update (ran.through answer moments) := by
  induction moments generalizing ran with
  | nil => rfl
  | cons moment rest ih =>
      have hstep : (report update ran).step answer moment =
          report update (ran.step answer moment) := by
        cases moment with
        | meanwhile session => rfl
        | turn =>
            simp only [step, report, take]
            split <;> simp
      rw [through_cons, through_cons, hstep, ih]

theorem through_turns_of_done {result : Except Failure Outcome} (fuel : Nat)
    (hdone : ran.turn.next = .done result) :
    ran.through answer (List.replicate fuel .turn) = ran := by
  induction fuel with
  | zero => rfl
  | succ fuel ih => rw [List.replicate_succ, through_cons, step_turn_of_done hdone, ih]

/-- What has ended stays as it ended, whatever others do to the session. -/
theorem through_of_done (answer : Backend β) {result : Except Failure Outcome}
    (moments : List Moment) (hdone : ran.turn.next = .done result) :
    (ran.through answer moments).backend = ran.backend ∧
      (ran.through answer moments).updates = ran.updates ∧
      (ran.through answer moments).turn.next = .done result := by
  induction moments generalizing ran with
  | nil => exact ⟨rfl, rfl, hdone⟩
  | cons moment rest ih =>
      rw [through_cons]
      cases moment with
      | turn =>
          rw [step_turn_of_done hdone]
          exact ih hdone
      | meanwhile session => exact @ih (ran.step answer (.meanwhile session)) hdone

end Ran

variable {β : Type} {answer : Backend β}

/-- An operation that is run on its own takes turns only. -/
theorem run_eq_through (fuel : Nat) (backend : β) (turn : Turn) :
    run answer fuel backend turn =
      (Ran.begin backend turn).through answer (List.replicate fuel .turn) := by
  induction fuel generalizing backend turn with
  | zero => simp [run, Ran.report, Ran.begin]
  | succ fuel ih =>
      have hbegin : Ran.begin backend turn = Ran.report turn.update { backend, turn } := by
        simp [Ran.begin, Ran.report]
      rw [run, List.replicate_succ, hbegin, Ran.through_report, Ran.through_cons]
      congr 1
      cases hnext : turn.next with
      | done result =>
          rw [Ran.step_turn_of_done hnext, Ran.through_turns_of_done fuel hnext]
      | sleep runId =>
          rw [Ran.step_turn_of_sleep hnext]
          exact ih ..
      | ask call pending =>
          rw [Ran.step_turn_of_ask hnext]
          exact ih ..

/-! ## Prepared answers -/

/-- A backend with prepared answers, which notes what it is asked. -/
structure Script where
  replies : List Reply
  calls : List Call := []

/-- Gives the next answer. -/
def Script.give : Backend Script := fun script session call =>
  match script.replies with
  | reply :: rest => ({ replies := rest, calls := script.calls ++ [call] }, session, reply)
  | [] => ({ script with calls := script.calls ++ [call] }, session, .error .noReply)

end Turn

/-- What a fetch of a run is answered with: its detail, or a refusal by the backend. -/
def Reply.IsOfRun : Reply → Prop
  | .ok (.object _) => True
  | .error (.backend _ _) => True
  | _ => False

/-- The answer is the detail of a run that has ended. -/
def Reply.IsFinal : Reply → Prop
  | .ok detail => Session.IsFinal detail
  | .error _ => False

/-- The value is a number; a truth value counts as one. -/
def Value.IsNumber : Value → Prop
  | .bool _ | .int _ | .float _ => True
  | _ => False

namespace Session

/-- The session is open, and the length of its pauses is a number. -/
structure Polls (session : Session) : Prop where
  isOpen : session.isClosed = false
  paced : session.pollInterval.IsNumber

variable {session : Session} {runId : Value}

theorem Polls.fetch (hpolls : session.Polls) (runId : Value) :
    session.fetch runId = { session, next := .ask (.readRun runId) (.fetch runId) } := by
  simp [Session.fetch, hpolls.isOpen]

theorem Polls.pause (hpolls : session.Polls) (runId : Value) :
    session.pause runId = .sleep runId := by
  have hpaced := hpolls.paced
  rw [Session.pause]
  cases hinterval : session.pollInterval <;> simp_all [Value.IsNumber]

theorem Polls.follow (hpolls : session.Polls)
    (hid : (runId.orElse session.activeRunId).isTruthy = true) :
    session.follow runId =
      { session, next := .ask (.readRun (runId.orElse session.activeRunId))
          (.fetch (runId.orElse session.activeRunId)) } := by
  rw [Session.follow, if_pos hid, hpolls.fetch]

/-- An answer that is not final is reported, if it is no refusal, and the operation pauses. -/
theorem Polls.resume_of_not_final (hpolls : session.Polls) {reply : Reply}
    (hreply : reply.IsOfRun) (hfinal : ¬ reply.IsFinal) (runId : Value) :
    session.resume (.fetch runId) reply =
      { session, update := reply.toOption, next := .sleep runId } := by
  cases reply with
  | error failure =>
      cases failure with
      | backend message status =>
          rw [resume, fail, hpolls.pause]
          rfl
      | _ => cases hreply
  | ok detail =>
      cases detail with
      | object fields =>
          have hgoes : hasEnded fields = false := by
            rw [Bool.eq_false_iff, Ne, hasEnded_iff]
            exact hfinal
          simp only [resume, receive, receiveDetail, answerFields, hgoes, hpolls.pause]
          rfl
      | _ => cases hreply

/-- The operation ends with the first final detail, which it reports. -/
theorem resume_of_final {detail : Value} (hfinal : IsFinal detail) (runId : Value) :
    session.resume (.fetch runId) (.ok detail) =
      { session, update := some detail, next := .done (.ok (.followed (some detail))) } := by
  cases detail with
  | object fields =>
      simp only [resume, receive, receiveDetail, answerFields, hasEnded_iff.mpr hfinal, if_true]
  | _ =>
      obtain ⟨status, hstatus, -⟩ := hfinal
      cases hstatus

end Session

namespace Turn

open Session

/-! ## Up to the end of a run -/

variable {id detail : Value} {after : List Reply} {calls : List Call} {updates : List Value}
  {rest : List Reply} {ran : Ran Script}

/-- The operation goes on, and what is `rest` of the answers comes before the final detail. With
the calls and reports that are still to come there will be those that are named. -/
structure Underway (id detail : Value) (after : List Reply) (calls : List Call)
    (updates : List Value) (rest : List Reply) (ran : Ran Script) : Prop where
  polls : ran.turn.session.Polls
  next : ran.turn.next = .ask (.readRun id) (.fetch id) ∨ ran.turn.next = .sleep id
  waits : ∀ reply ∈ rest, reply.IsOfRun ∧ ¬ reply.IsFinal
  final : IsFinal detail
  replies : ran.backend.replies = rest ++ .ok detail :: after
  calls : ran.backend.calls ++ List.replicate (rest.length + 1) (.readRun id) = calls
  updates : ran.updates ++ (rest.filterMap Except.toOption ++ [detail]) = updates

/-- The operation has ended with the detail, and made the calls and reports that are named. -/
structure Ended (detail : Value) (after : List Reply) (calls : List Call) (updates : List Value)
    (ran : Ran Script) : Prop where
  next : ran.turn.next = .done (.ok (.followed (some detail)))
  backend : ran.backend = { replies := after, calls }
  updates : ran.updates = updates

/-- How many turns the operation takes to its end. -/
def turnsLeft (rest : List Reply) (ran : Ran Script) : Nat :=
  2 * rest.length + match ran.turn.next with
    | .sleep _ => 2
    | _ => 1

theorem Underway.meanwhile (hunderway : Underway id detail after calls updates rest ran)
    {session : Session} (hpolls : session.Polls) :
    Underway id detail after calls updates rest (ran.step Script.give (.meanwhile session)) :=
  { hunderway with polls := hpolls }

theorem Underway.pause (hunderway : Underway id detail after calls updates rest ran)
    (hsleep : ran.turn.next = .sleep id) :
    Underway id detail after calls updates rest (ran.step Script.give .turn) ∧
      turnsLeft rest (ran.step Script.give .turn) + 1 = turnsLeft rest ran := by
  obtain ⟨hpolls, -, hwaits, hfinal, hreplies, hcalls, hupdates⟩ := hunderway
  rw [Ran.step_turn_of_sleep hsleep, hpolls.fetch]
  constructor
  · exact ⟨hpolls, .inl rfl, hwaits, hfinal, hreplies, hcalls, by simpa [Ran.take] using hupdates⟩
  · rw [turnsLeft, turnsLeft, hsleep]
    rfl

/-- A fetch that is not answered with the final detail takes up one of the answers before it. -/
theorem Underway.fetch {reply : Reply}
    (hunderway : Underway id detail after calls updates (reply :: rest) ran)
    (hask : ran.turn.next = .ask (.readRun id) (.fetch id)) :
    Underway id detail after calls updates rest (ran.step Script.give .turn) ∧
      turnsLeft rest (ran.step Script.give .turn) + 1 = turnsLeft (reply :: rest) ran := by
  obtain ⟨hpolls, -, hwaits, hfinal, hreplies, hcalls, hupdates⟩ := hunderway
  obtain ⟨⟨hof, hgoes⟩, hrest⟩ := List.forall_mem_cons.mp hwaits
  have hgive : Script.give ran.backend ran.turn.session (.readRun id) =
      ({ replies := rest ++ .ok detail :: after, calls := ran.backend.calls ++ [.readRun id] },
        ran.turn.session, reply) := by
    rw [Script.give, hreplies]
    rfl
  rw [Ran.step_turn_of_ask hask, hgive, hpolls.resume_of_not_final hof hgoes]
  constructor
  · refine ⟨hpolls, .inr rfl, hrest, hfinal, rfl, ?_, ?_⟩
    · rw [← hcalls]
      simp [Ran.take, List.replicate_succ]
    · rw [← hupdates]
      cases hreply : reply.toOption <;> simp [Ran.take, hreply]
  · rw [turnsLeft, turnsLeft, hask]
    simp [Ran.take]
    omega

/-- The fetch that is answered with the final detail ends the operation. -/
theorem Underway.last (hunderway : Underway id detail after calls updates [] ran)
    (hask : ran.turn.next = .ask (.readRun id) (.fetch id)) :
    Ended detail after calls updates (ran.step Script.give .turn) := by
  obtain ⟨-, -, -, hfinal, hreplies, hcalls, hupdates⟩ := hunderway
  have hgive : Script.give ran.backend ran.turn.session (.readRun id) =
      ({ replies := after, calls }, ran.turn.session, .ok detail) := by
    rw [Script.give, hreplies, ← hcalls]
    rfl
  rw [Ran.step_turn_of_ask hask, hgive, resume_of_final hfinal]
  exact ⟨rfl, rfl, hupdates⟩

/-- One turn brings the operation nearer to its end. -/
theorem Underway.turn (hunderway : Underway id detail after calls updates rest ran) :
    (∃ rest', Underway id detail after calls updates rest' (ran.step Script.give .turn) ∧
        turnsLeft rest' (ran.step Script.give .turn) + 1 = turnsLeft rest ran) ∨
      Ended detail after calls updates (ran.step Script.give .turn) := by
  rcases hunderway.next with hask | hsleep
  · cases rest with
    | nil => exact .inr (hunderway.last hask)
    | cons reply rest => exact .inl ⟨rest, hunderway.fetch hask⟩
  · exact .inl ⟨rest, hunderway.pause hsleep⟩

/-- After enough turns the operation has ended. -/
theorem Underway.ended (hunderway : Underway id detail after calls updates rest ran)
    {moments : List Moment} (hothers : ∀ moment ∈ moments, moment.Leaves Polls)
    (henough : turnsLeft rest ran ≤ Moment.turns moments) :
    Ended detail after calls updates (ran.through Script.give moments) := by
  induction moments generalizing rest ran with
  | nil =>
      have hpositive : 0 < turnsLeft rest ran := by
        rw [turnsLeft]
        split <;> omega
      rw [Moment.turns_nil] at henough
      omega
  | cons moment moments ih =>
      obtain ⟨hmoment, hmoments⟩ := List.forall_mem_cons.mp hothers
      rw [Ran.through_cons]
      cases moment with
      | meanwhile session =>
          rw [Moment.turns_cons_meanwhile] at henough
          exact ih (hunderway.meanwhile hmoment) hmoments henough
      | turn =>
          rw [Moment.turns_cons_turn] at henough
          rcases hunderway.turn with ⟨rest', hunderway', hleft⟩ | hended
          · exact ih hunderway' hmoments (by omega)
          · obtain ⟨hnext, hbackend, hupdates⟩ := hended
            obtain ⟨hbackend', hupdates', hnext'⟩ :=
              Ran.through_of_done Script.give moments hnext
            exact ⟨hnext', hbackend'.trans hbackend, hupdates'.trans hupdates⟩

/-- The first final answer. -/
theorem exists_first_final {replies : List Reply} (hfinal : ∃ reply ∈ replies, reply.IsFinal) :
    ∃ before detail after, replies = before ++ .ok detail :: after ∧ IsFinal detail ∧
      ∀ reply ∈ before, ¬ reply.IsFinal := by
  induction replies with
  | nil => simp at hfinal
  | cons reply rest ih =>
      by_cases hreply : reply.IsFinal
      · cases reply with
        | error failure => cases hreply
        | ok detail => exact ⟨[], detail, rest, rfl, hreply, nofun⟩
      · obtain ⟨found, hmem, hfound⟩ := hfinal
        rcases List.mem_cons.mp hmem with rfl | hrest
        · exact absurd hfound hreply
        · obtain ⟨before, detail, after, rfl, hdetail, hbefore⟩ := ih ⟨found, hrest, hfound⟩
          exact ⟨reply :: before, detail, after, rfl, hdetail,
            List.forall_mem_cons.mpr ⟨hreply, hbefore⟩⟩

/-! ## Up to the end of the session -/

/-- A session that is closed during a pause is not asked for again: the pause ends, and with it the
operation. -/
theorem Ran.through_of_closed {β : Type} (answer : Backend β) {ran : Ran β} {runId : Value}
    (hsleep : ran.turn.next = .sleep runId) (hclosed : ran.turn.session.isClosed = true)
    {moments : List Moment} (hothers : ∀ moment ∈ moments, moment.Leaves (·.isClosed = true)) :
    let closed := ran.through answer moments
    closed.backend = ran.backend ∧ closed.updates = ran.updates ∧
      (0 < Moment.turns moments → closed.turn.next = .done (.ok (.followed none))) := by
  induction moments generalizing ran with
  | nil => exact ⟨rfl, rfl, fun hturns => absurd hturns (Nat.lt_irrefl 0)⟩
  | cons moment moments ih =>
      obtain ⟨hmoment, hmoments⟩ := List.forall_mem_cons.mp hothers
      rw [Ran.through_cons]
      cases moment with
      | meanwhile session =>
          rw [Moment.turns_cons_meanwhile]
          exact @ih (ran.step answer (.meanwhile session)) hsleep hmoment hmoments
      | turn =>
          have hfetch : ran.turn.session.fetch runId =
              ran.turn.session.finish (.ok (.followed none)) := by
            rw [Session.fetch, if_pos hclosed]
          rw [Ran.step_turn_of_sleep hsleep, hfetch]
          have hdone : (ran.take ran.backend
              (ran.turn.session.finish (.ok (.followed none)))).turn.next =
                .done (.ok (.followed none)) := rfl
          obtain ⟨hbackend, hupdates, hnext⟩ := Ran.through_of_done answer moments hdone
          exact ⟨hbackend, hupdates.trans (List.append_nil _), fun _ => hnext⟩

/-- A run that is followed in an open session is fetched until its first final detail, which the
operation ends with: it makes one call for each answer up to there, and reports the details among
them. It takes at most two turns for each answer, and what others do to the session meanwhile does
not matter as long as it stays open. If it is closed during a pause, nothing more is fetched or
reported, and the operation ends without a detail. -/
theorem follow_ends_with_first_final {session : Session} {runId : Value}
    (hpolls : session.Polls) (hid : (runId.orElse session.activeRunId).isTruthy = true)
    {replies : List Reply} (hreplies : ∀ reply ∈ replies, reply.IsOfRun) :
    let start := Ran.begin { replies } (session.follow runId)
    ((∃ reply ∈ replies, reply.IsFinal) →
      ∃ before detail after, replies = before ++ .ok detail :: after ∧ IsFinal detail ∧
        (∀ reply ∈ before, ¬ reply.IsFinal) ∧
        ∀ moments, (∀ moment ∈ moments, moment.Leaves Polls) →
          2 * before.length + 1 ≤ Moment.turns moments →
          let ran := start.through Script.give moments
          ran.backend.calls =
              List.replicate (before.length + 1) (.readRun (runId.orElse session.activeRunId)) ∧
            ran.backend.replies = after ∧
            ran.updates = before.filterMap Except.toOption ++ [detail] ∧
            ran.turn.next = .done (.ok (.followed (some detail)))) ∧
      ∀ moments runId', (start.through Script.give moments).turn.next = .sleep runId' →
        ∀ later, (∀ moment ∈ later, moment.Leaves (·.isClosed = true)) →
          let ran := start.through Script.give moments
          let closed := ran.through Script.give (.meanwhile ran.turn.session.close :: later)
          closed.backend.calls = ran.backend.calls ∧ closed.updates = ran.updates ∧
            (0 < Moment.turns later → closed.turn.next = .done (.ok (.followed none))) := by
  intro start
  have hstart : start = { backend := { replies }, turn := session.follow runId } := by
    simp [start, Ran.begin, hpolls.follow hid]
  constructor
  · intro hfinal
    obtain ⟨before, detail, after, hsplit, hdetail, hbefore⟩ := exists_first_final hfinal
    refine ⟨before, detail, after, hsplit, hdetail, hbefore, fun moments hothers henough => ?_⟩
    have hunderway : Underway (runId.orElse session.activeRunId) detail after
        (List.replicate (before.length + 1) (.readRun (runId.orElse session.activeRunId)))
        (before.filterMap Except.toOption ++ [detail]) before start := by
      rw [hstart, hpolls.follow hid]
      refine ⟨hpolls, .inl rfl, fun reply hreply => ⟨hreplies reply ?_, hbefore reply hreply⟩,
        hdetail, hsplit, rfl, rfl⟩
      rw [hsplit]
      exact List.mem_append_left _ hreply
    have hleft : turnsLeft before start = 2 * before.length + 1 := by
      rw [turnsLeft, hstart, hpolls.follow hid]
    obtain ⟨hnext, hbackend, hupdates⟩ := hunderway.ended hothers (hleft ▸ henough)
    refine ⟨?_, ?_, hupdates, hnext⟩
    · rw [hbackend]
    · rw [hbackend]
  · intro moments runId' hsleep later hothers
    have hclosed : ((start.through Script.give moments).step Script.give
        (.meanwhile (start.through Script.give moments).turn.session.close)).turn.next =
          .sleep runId' := hsleep
    obtain ⟨hbackend, hupdates, hnext⟩ :=
      Ran.through_of_closed Script.give hclosed rfl hothers
    exact ⟨congrArg Script.calls hbackend, hupdates, hnext⟩

/-- The detail of a run with a status. -/
def runWith (status : String) : Value := .object [("run", .object [("status", .text status)])]

theorem isFinal_runWith {status : String} :
    IsFinal (runWith status) ↔ Text.lower status ∈ finalStatuses := by
  constructor
  · rintro ⟨found, hfound, hfinal⟩
    cases hfound
    exact hfinal
  · exact fun hfinal => ⟨status, rfl, hfinal⟩

theorem follow_to_success :
    let session : Session := { timeline := { limit := 50, present := {} } }
    let replies : List Reply := [.ok (runWith "queued"), .error (.backend "timeout" none),
      .ok (runWith "running"), .ok (runWith "Succeeded")]
    let ran := Turn.run Script.give 7 { replies } (session.follow (.text "run-1"))
    let closed := (Ran.begin { replies } (session.follow (.text "run-1"))).through Script.give
      [.turn, .meanwhile session.close, .turn]
    ran.backend.calls = List.replicate 4 (.readRun (.text "run-1")) ∧
      ran.updates = [runWith "queued", runWith "running", runWith "Succeeded"] ∧
      ran.turn.next = .done (.ok (.followed (some (runWith "Succeeded")))) ∧
      closed.turn.next = .done (.ok (.followed none)) := by
  intro session replies ran closed
  have hfinal {status : String} (hstatus : Text.lower status ∉ finalStatuses) :
      ¬ IsFinal (runWith status) := fun hended => hstatus (isFinal_runWith.mp hended)
  have hpolls : session.Polls := ⟨rfl, trivial⟩
  have hid : ((Value.text "run-1").orElse session.activeRunId).isTruthy = true := by decide
  have hreplies : ∀ reply ∈ replies, reply.IsOfRun := by simp [replies, Reply.IsOfRun, runWith]
  obtain ⟨hends, hcloses⟩ := follow_ends_with_first_final hpolls hid hreplies
  obtain ⟨before, detail, after, hsplit, hdetail, hbefore, hmoments⟩ :=
    hends ⟨.ok (runWith "Succeeded"), by simp [replies], isFinal_runWith.mpr (by decide +kernel)⟩
  obtain ⟨rfl, rfl⟩ : before = replies.take 3 ∧ detail = runWith "Succeeded" := by
    dsimp only [replies] at hsplit
    rcases before with _ | ⟨first, _ | ⟨second, _ | ⟨third, _ | ⟨fourth, more⟩⟩⟩⟩
    · cases hsplit
      exact absurd hdetail (hfinal (by decide +kernel))
    · cases hsplit
    · cases hsplit
      exact absurd hdetail (hfinal (by decide +kernel))
    · cases hsplit
      exact ⟨rfl, rfl⟩
    · simp at hsplit
  obtain ⟨hcalls, -, hupdates, hnext⟩ := hmoments (List.replicate 7 .turn)
    (fun moment hmoment => (List.mem_replicate.mp hmoment).2 ▸ trivial) (by decide)
  have hran : ran = _ := run_eq_through 7 _ _
  rw [hran]
  refine ⟨hcalls, hupdates, hnext, ?_⟩
  exact (hcloses [.turn] (.text "run-1") rfl [.turn] (by simp [Moment.Leaves])).2.2 (by decide)

end Turn

end FlowGraph
