/-
# Saves while templates are loaded

A save as a new version names its template when it asks the backend, and names one again in its
result. In between the session may have gone on with another template: with one that was loaded, or
with one that another save created. The result names the template that the session is on when the
answer arrives, and the session then has the answered version beside that template's id.

So a save is credited to the template that it was asked for exactly when the template that the
session took over last while the save waited, if any, is the same one. In a history in which this
holds of every save the session never shows one template with the version of another.
-/

import FlowGraph.Proofs.Session.Runs
import FlowGraph.Proofs.Session.Template

namespace FlowGraph

namespace Session

variable {session : Session} {runKey : Option Value}

/-! ## What a save asks for -/

/-- The start of a save leaves the session alone. -/
theorem session_startSave : (session.startSave runKey).session = session := by
  rw [startSave]
  split <;> rfl

/-- A save that waits was asked for a new version of the session's template, or for a template. -/
theorem flights_startSave {number : Nat} {flight : Flight}
    (hmem : flight ∈ (session.startSave runKey).flights number) :
    (∃ id, session.templateId = some id ∧ flight.call.versionOf? = some id ∧
      flight.pending = .save (effectiveName session.document) false runKey) ∨
    (flight.call.versionOf? = none ∧
      flight.pending = .save (effectiveName session.document) true runKey) := by
  rw [startSave] at hmem
  split at hmem
  · next call pending hcall =>
    obtain rfl := List.mem_singleton.mp hmem
    obtain ⟨compiled, mode, -, ⟨id, hid, -, -, rfl, rfl⟩ | ⟨rfl, rfl⟩⟩ := saveCall_cases hcall
    · exact .inl ⟨id, hid, rfl, rfl⟩
    · exact .inr ⟨rfl, rfl⟩
  · cases hmem

/-! ## What a save waits for -/

/-- A save that was answered waits for nothing, or for the run that it was made for. -/
theorem flights_resume_save {name : String} {isNew : Bool} {reply : Reply} {number : Nat}
    {flight : Flight}
    (hmem : flight ∈ (session.resume (.save name isNew runKey) reply).flights number) :
    flight.pending = .runStart ∧ runKey ≠ none := by
  rcases session.resume_save_cases name isNew runKey reply with ⟨after, failure, hturn⟩ |
    ⟨after, result, hturn⟩
  · rw [hturn] at hmem
    cases hmem
  · rw [hturn] at hmem
    cases runKey with
    | none => cases hmem
    | some key =>
        obtain rfl := List.mem_singleton.mp hmem
        exact ⟨rfl, Option.some_ne_none key⟩

/-- An operation that follows a run pauses before it asks again. -/
theorem next_resume_fetch (runId : Value) (reply : Reply) (call : Call) (pending : Pending) :
    (session.resume (.fetch runId) reply).next ≠ .ask call pending := by
  intro hnext
  have hpause : session.pause runId ≠ .ask call pending := by
    intro hasks
    rw [pause] at hasks
    split at hasks <;> cases hasks
  cases reply with
  | error failure =>
      cases failure with
      | backend message status => exact hpause hnext
      | _ => cases hnext
  | ok response =>
      cases response with
      | object fields =>
          simp only [resume, receive, receiveDetail, answerFields] at hnext
          split at hnext
          · cases hnext
          · exact hpause hnext
      | _ => cases hnext

/-- No operation saves twice. -/
theorem pending_ne_save_of_mem_flights_resume {pending : Pending} {reply : Reply} {number : Nat}
    {flight : Flight} (hmem : flight ∈ (session.resume pending reply).flights number)
    (name : String) (isNew : Bool) (key : Option Value) :
    flight.pending ≠ .save name isNew key := by
  intro hpending
  cases pending with
  | definition token templateId run =>
      rw [flights_resume_definition] at hmem
      cases hmem
  | runDetail runId =>
      rcases @resume_runDetail_cases session runId reply number with ⟨hnone, -⟩ |
        ⟨-, call, templateId, run, hnew⟩
      · rw [hnone] at hmem
        cases hmem
      · rw [hnew] at hmem
        obtain rfl := List.mem_singleton.mp hmem
        cases hpending
  | save name isNew runKey =>
      rw [(flights_resume_save hmem).1] at hpending
      cases hpending
  | runStart =>
      cases reply with
      | error failure => cases hmem
      | ok response => cases response <;> cases hmem
  | fetch runId =>
      rw [Turn.flights] at hmem
      split at hmem
      · next call pending hnext => exact absurd hnext (next_resume_fetch runId reply call pending)
      · cases hmem
  | task => cases reply <;> cases hmem

end Session

/-! ## Histories -/

namespace Desk

variable {desk : Desk} {belongs : String → Int → Prop}

/-- The template that an event makes the session go on with, if it does. -/
def taken? (desk : Desk) : Event → Option String
  | .answer number reply => (desk.flight? number).bind fun flight =>
    desk.session.taken? reply flight.pending
  | _ => none

/-- The template that a history makes the session go on with last, if it does. -/
def lastTaken? (desk : Desk) : List Event → Option String
  | [] => none
  | event :: rest => ((desk.step event).lastTaken? rest).or (desk.taken? event)

/-- An answer tells the truth, and if it is the answer to a save as a new version, then the session
is on the template that the save was asked for. -/
def Meets (belongs : String → Int → Prop) (desk : Desk) : Event → Prop
  | .answer number (.ok response) => ∀ flight ∈ desk.flight? number,
    flight.pending.Truthful belongs flight.call response ∧
      ∀ id ∈ flight.call.versionOf?, desk.session.templateId = some id
  | _ => True

/-- Every answer of a history tells the truth and meets its template. -/
def Faithful (belongs : String → Int → Prop) (desk : Desk) : List Event → Prop
  | [] => True
  | event :: rest => desk.Meets belongs event ∧ (desk.step event).Faithful belongs rest

section Decidable

variable [∀ id version, Decidable (belongs id version)]

instance (desk : Desk) : ∀ event, Decidable (desk.Meets belongs event)
  | .answer _ (.ok _) => inferInstanceAs (Decidable (∀ flight ∈ _, _ ∧ ∀ id ∈ _, _ = _))
  | .answer _ (.error _) | .start _ | .edit _ => inferInstanceAs (Decidable True)

instance decidableFaithful (desk : Desk) : ∀ events, Decidable (desk.Faithful belongs events)
  | [] => inferInstanceAs (Decidable True)
  | event :: rest =>
    have := decidableFaithful (desk.step event) rest
    inferInstanceAs (Decidable (desk.Meets belongs event ∧ (desk.step event).Faithful belongs rest))

end Decidable

/-- Every save as a new version was asked for one of a template. -/
def Asked (desk : Desk) : Prop :=
  ∀ flight ∈ desk.flights, ∀ name runKey, flight.pending = .save name false runKey →
    ∃ id, flight.call.versionOf? = some id

/-- The start of an operation leaves the template and its version alone, and a save that it makes
asks for what it should. -/
theorem begin_spec (operation : Operation) (session : Session) (number : Nat) :
    let turn := operation.begin session
    turn.session.templateId = session.templateId ∧
      turn.session.templateVersion = session.templateVersion ∧
      ∀ flight ∈ turn.flights number, ∀ name runKey, flight.pending = .save name false runKey →
        ∃ id, flight.call.versionOf? = some id := by
  have hsave (key : Option Value) : ∀ flight ∈ (session.startSave key).flights number,
      ∀ name runKey, flight.pending = .save name false runKey →
        ∃ id, flight.call.versionOf? = some id := by
    intro flight hmem name runKey hpending
    rcases Session.flights_startSave hmem with ⟨id, -, hversion, -⟩ | ⟨-, hnew⟩
    · exact ⟨id, hversion⟩
    · rw [hnew] at hpending
      cases hpending
  cases operation with
  | loadTemplate templateId version =>
      refine ⟨rfl, rfl, fun flight hmem name runKey hpending => ?_⟩
      obtain rfl := List.mem_singleton.mp hmem
      cases hpending
  | loadRun runId =>
      refine ⟨rfl, rfl, fun flight hmem name runKey hpending => ?_⟩
      obtain rfl := List.mem_singleton.mp hmem
      cases hpending
  | save =>
      have hkept : (session.startSave none).session = session := Session.session_startSave
      exact ⟨congrArg _ hkept, congrArg _ hkept, hsave none⟩
  | startRun key clock =>
      simp only [Operation.begin, Session.startRun]
      split
      · have hkept := @Session.session_startSave session
          (some (key.orElse (.text (Session.generatedKey clock))))
        exact ⟨congrArg _ hkept, congrArg _ hkept, hsave _⟩
      · exact ⟨rfl, rfl, fun flight hmem => by cases hmem⟩

theorem templateId_step (desk : Desk) (event : Event) :
    (desk.step event).session.templateId = (desk.taken? event).or desk.session.templateId := by
  cases event with
  | start operation => exact (begin_spec operation desk.session desk.started).1
  | edit move => rfl
  | answer number reply =>
      rw [taken?]
      cases hflight : desk.flight? number with
      | none => rw [step_answer_of_none hflight, Option.bind_none, Option.none_or]
      | some flight =>
          rw [step_answer hflight, session_follow, Session.templateId_resume, Option.bind_some]

/-- The session is on the template that was taken over last. -/
theorem templateId_run (desk : Desk) (events : List Event) :
    (desk.run events).session.templateId =
      (desk.lastTaken? events).or desk.session.templateId := by
  induction events generalizing desk with
  | nil => rfl
  | cons event rest ih => rw [run_cons, ih, templateId_step, lastTaken?, Option.or_assoc]

theorem Asked.step (hasked : desk.Asked) (event : Event) : (desk.step event).Asked := by
  cases event with
  | start operation =>
      intro flight hmem
      rcases mem_flights_follow.mp hmem with hnew | ⟨hold, -⟩
      · exact (begin_spec operation desk.session desk.started).2.2 flight hnew
      · exact hasked flight hold
  | edit move => exact hasked
  | answer number reply =>
      refine step_answer_rec ?_ ?_
      · intro _
        exact hasked
      · intro answered hflight flight hmem name runKey hpending
        rcases mem_flights_follow.mp hmem with hnew | ⟨hold, -⟩
        · exact absurd hpending (Session.pending_ne_save_of_mem_flights_resume hnew _ _ _)
        · exact hasked flight hold name runKey hpending

/-- A faithful history keeps the session coherent. -/
theorem coherent_run (hasked : desk.Asked) (hcoherent : desk.session.Coherent belongs)
    {events : List Event} (hfaithful : desk.Faithful belongs events) :
    (desk.run events).session.Coherent belongs := by
  induction events generalizing desk with
  | nil => exact hcoherent
  | cons event rest ih =>
      obtain ⟨hevent, hrest⟩ := hfaithful
      apply ih (hasked.step event) _ hrest
      cases event with
      | start operation =>
          obtain ⟨hid, hversion, -⟩ := begin_spec operation desk.session desk.started
          exact hcoherent.of_eq hid hversion
      | edit move => exact hcoherent.of_eq rfl rfl
      | answer number reply =>
          refine step_answer_rec ?_ ?_
          · intro _
            exact hcoherent
          · intro flight hflight
            rw [session_follow]
            cases reply with
            | error failure =>
                rw [Session.session_resume_error]
                exact hcoherent
            | ok response =>
                obtain ⟨htruthful, hcredited⟩ := hevent flight hflight
                exact hcoherent.resume htruthful hcredited
                  (hasked flight (mem_of_flight? hflight).1)

/-- The operation of this number waits as it did when it was started, or has ended. -/
def WaitsAs (number : Nat) (flight : Flight) (desk : Desk) : Prop :=
  number < desk.started ∧ (desk.flight? number = none ∨ desk.flight? number = some flight)

/-- A save on its own asks once. -/
theorem WaitsAs.step {number : Nat} {flight : Flight} {name : String} {isNew : Bool}
    (hpending : flight.pending = .save name isNew none) (hwaits : desk.WaitsAs number flight)
    (event : Event) : (desk.step event).WaitsAs number flight := by
  obtain ⟨hlt, hholds⟩ := hwaits
  cases event with
  | start operation =>
      refine ⟨Nat.lt_succ_of_lt hlt, ?_⟩
      have hsame := @flight?_follow_of_ne desk desk.started number (Nat.ne_of_lt hlt)
        (operation.begin desk.session)
      exact hsame ▸ hholds
  | edit move => exact ⟨hlt, hholds⟩
  | answer other reply =>
      refine step_answer_rec ?_ ?_
      · intro _
        exact ⟨hlt, hholds⟩
      · intro answered hanswered
        refine ⟨hlt, ?_⟩
        by_cases hother : number = other
        · -- the save was answered, and asks for nothing more
          subst hother
          left
          obtain rfl : flight = answered := by
            rcases hholds with hnone | hsome
            · cases hnone.symm.trans hanswered
            · exact Option.some.inj (hsome.symm.trans hanswered)
          apply flight?_follow_self
          rw [List.eq_nil_iff_forall_not_mem, hpending]
          intro next hmem
          exact (Session.flights_resume_save hmem).2 rfl
        · rw [flight?_follow_of_ne hother]
          exact hholds

/-- A save on its own that waits is the one that was started. -/
theorem flight?_run_of_save {number : Nat} {flight : Flight} {name : String} {isNew : Bool}
    (hnumber : number < desk.started) (hflight : desk.flight? number = some flight)
    (hpending : flight.pending = .save name isNew none) (events : List Event)
    (hwaits : ((desk.run events).flight? number).isSome) :
    (desk.run events).flight? number = some flight := by
  have hkept : (desk.run events).WaitsAs number flight :=
    @run_induction desk (WaitsAs number flight) (fun _ => True)
      (fun _ event hholds _ => hholds.step hpending event) ⟨hnumber, .inr hflight⟩ events
      fun _ _ => trivial
  rcases hkept.2 with hnone | hsome
  · rw [hnone] at hwaits
    cases hwaits
  · exact hsome

/-- The fields of an answer that names a version. -/
def versionFields (version : Int) : Fields Value :=
  [("version", .object [("version", .int version)])]

/-- A save as a new version is credited to the template that the session is on when the answer
arrives: the one that was taken over last while the save waited, and the one that the save was asked
for only if nothing else was. In a faithful history, where every save meets its own template again,
the session's version is always one of its template's. -/
theorem save_credits_current (session : Session) :
    (∀ (before during : List Event) (asked : String),
      let desk := run { session } before
      let saving := desk.step (.start .save)
      let waiting := saving.run during
      ((saving.flight? desk.started).bind fun flight => flight.call.versionOf?) = some asked →
      (waiting.flight? desk.started).isSome →
      ∃ flight, waiting.flight? desk.started = some flight ∧
        let current := (saving.lastTaken? during).getD asked
        (∀ fields, ¬ (Session.sentVersion (.object fields)).isInfinite →
          let turn := waiting.session.resume flight.pending (.ok (.object fields))
          let version := (Session.versionNumber (Session.sentVersion (.object fields))).or
            waiting.session.templateVersion
          turn.next = .done (.ok (.saved { templateId := current, version, created := false })) ∧
            turn.session.templateId = some current ∧ turn.session.templateVersion = version) ∧
        (∀ reply, (∀ fields, reply = .ok (.object fields) →
            (Session.sentVersion (.object fields)).isInfinite) →
          ∃ failure, waiting.session.resume flight.pending reply =
            waiting.session.finish (.error failure))) ∧
    (∀ belongs events, session.Coherent belongs → Faithful belongs { session } events →
      (run { session } events).session.Coherent belongs) := by
  constructor
  · intro before during asked desk saving waiting hversion hwaits
    obtain ⟨flight, hflight, hcall⟩ := Option.bind_eq_some_iff.mp hversion
    obtain ⟨hid, hpending⟩ : desk.session.templateId = some asked ∧
        flight.pending = .save (Session.effectiveName desk.session.document) false none := by
      have hmem : flight ∈ (desk.session.startSave none).flights desk.started := by
        obtain ⟨hmem, hnumber⟩ := mem_of_flight? hflight
        rcases mem_flights_follow.mp hmem with hnew | ⟨-, hne⟩
        · exact hnew
        · exact absurd hnumber hne
      rcases Session.flights_startSave hmem with ⟨id, hid, hasked, hpending⟩ | ⟨hnone, -⟩
      · exact ⟨hid.trans (hasked.symm.trans hcall), hpending⟩
      · cases hnone.symm.trans hcall
    have hsaving : saving.session.templateId = some asked :=
      (templateId_step desk (.start .save)).trans hid
    have hcurrent : waiting.session.templateId = some ((saving.lastTaken? during).getD asked) := by
      rw [templateId_run, hsaving]
      cases saving.lastTaken? during <;> rfl
    have hnamed : waiting.session.templateId.getD "" = (saving.lastTaken? during).getD asked := by
      rw [hcurrent, Option.getD_some]
    have hstill : waiting.flight? desk.started = some flight :=
      flight?_run_of_save (Nat.lt_succ_self _) hflight hpending during hwaits
    refine ⟨flight, hstill, ?_, ?_⟩
    · intro fields hfinite
      rw [hpending, Session.resume_version, if_neg hfinite, hnamed]
      exact ⟨rfl, hcurrent, rfl⟩
    · intro reply hunfit
      rw [hpending]
      exact Session.resume_version_of_unfit _ hunfit
  · intro belongs events hcoherent hfaithful
    apply coherent_run _ hcoherent hfaithful
    intro flight hnone
    cases hnone

theorem save_credits_first :
    (∃ flight,
      ((run { session := .onFirst } [.start .save]).run
          [.start (.loadTemplate (.text "b") .null)]).flight? 0 = some flight ∧
        (((run { session := .onFirst } [.start .save]).run
            [.start (.loadTemplate (.text "b") .null)]).session.resume flight.pending
              (.ok (.object (versionFields 4)))).next =
          .done (.ok (.saved { templateId := "a", version := some 4, created := false }))) ∧
    (run { session := .onFirst }
      [.start .save, .start (.loadTemplate (.text "b") .null),
       .answer 0 (.ok (.object (versionFields 4))),
       .answer 1 (sent "b" "Second" "ask" (.int 7))]).session.Coherent
      fun id version => (id, version) ∈ [("a", 3), ("a", 4), ("b", 7)] := by
  obtain ⟨hcredits, hcoherent⟩ := save_credits_current .onFirst
  obtain ⟨flight, hflight, hfit, -⟩ := hcredits [] [.start (.loadTemplate (.text "b") .null)] "a"
    (by decide +kernel) (by decide +kernel)
  constructor
  · refine ⟨flight, hflight, ?_⟩
    have hnext := (hfit (versionFields 4) (by decide)).1
    have hcurrent : (lastTaken? ((run { session := .onFirst } []).step (.start .save))
        [.start (.loadTemplate (.text "b") .null)]).getD "a" = "a" := by decide +kernel
    rw [hcurrent] at hnext
    exact hnext
  · apply hcoherent
    · simp [Session.Coherent, Session.onFirst]
    · decide +kernel

/-- A save of one template whose answer arrives after another template was loaded is credited to the
other one, and the session ends with a version that this one does not have. -/
theorem save_credits_second :
    let waiting := run { session := .onFirst }
      [.start .save, .start (.loadTemplate (.text "b") .null),
       .answer 1 (sent "b" "Second" "ask" (.int 7))]
    ((waiting.flight? 0).bind fun flight => flight.call.versionOf?) = some "a" ∧
      ((waiting.flight? 0).bind fun flight =>
        (waiting.session.resume flight.pending (.ok (.object (versionFields 4)))).saved?) =
          some { templateId := "b", version := some 4, created := false } ∧
      (waiting.step (.answer 0 (.ok (.object (versionFields 4))))).session.shown.outline =
        (some "b", some 4, some "First", ["ask"]) := by
  decide +kernel

end Desk

end FlowGraph
