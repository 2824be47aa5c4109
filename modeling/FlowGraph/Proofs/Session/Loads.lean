/-
# Racing template loads

What a session shows of a template is the document with its history, the template's id, the version
and the name under which it was saved. However many loads are under way and in whatever order they
are answered, only the answer to the load that was started last changes any of this, and what is
shown in the end is decided by that one answer. An answer that fails or is no definition changes
nothing, and any other one is taken over together, with one exception: a version that is an infinite
number stops the session after the document and the id were taken over and before the version and
the name are.
-/

import FlowGraph.Proofs.Session.Desk

namespace FlowGraph

/-- The template that a load asked for. -/
def Pending.templateId : Pending → Value
  | .definition _ templateId _ => templateId
  | _ => .null

/-- The event is the start of a template load, or an answer. -/
def Event.isTemplateLoad : Event → Bool
  | .start (.loadTemplate ..) | .answer .. => true
  | _ => false

/-! ## Samples -/

/-- A short account of what is shown: the template, its version, its name, and the steps. -/
def Shown.outline (shown : Shown) : Option String × Option Int × Option String × List String :=
  (shown.templateId, shown.templateVersion, shown.savedName, shown.timeline.present.nodeIds)

/-- A template of one step, as the backend sends it. -/
def sent (id name step : String) (version : Value) : Reply :=
  .ok (.object
    [("template", .object [("id", .text id), ("name", .text name)]),
     ("version", .object
       [("version", version),
        ("definition", .object
          [("nodes", .list [.object [("id", .text step), ("node_type", .text "ai.prompt")]])])])])

/-- A session on the third version of a template. -/
def Session.onFirst : Session :=
  { timeline := { limit := 100, present := Document.blank "First" }
    templateId := some "a"
    templateVersion := some 3
    savedName := some "First" }

/-! ## Loads under way -/

namespace Desk

variable {desk : Desk} {first : Nat}

/-- Only template loads are under way: the token of each is told by its number. -/
structure Loading (first : Nat) (desk : Desk) : Prop where
  loads_eq : desk.session.loads = first + desk.started
  flights_eq : ∀ flight ∈ desk.flights, flight.number < desk.started ∧
    ∃ templateId, flight.pending = .definition (first + flight.number + 1) templateId none

theorem Loading.step (hloading : desk.Loading first) {event : Event}
    (hevent : event.isTemplateLoad) : (desk.step event).Loading first := by
  obtain ⟨hloads, hflights⟩ := hloading
  cases event with
  | start operation =>
      cases operation with
      | loadTemplate templateId version =>
          refine ⟨?_, fun flight hflight => ?_⟩
          · change desk.session.loads + 1 = first + (desk.started + 1)
            omega
          · rcases mem_flights_follow.mp hflight with hnew | ⟨hold, -⟩
            · obtain rfl := List.mem_singleton.mp hnew
              exact ⟨Nat.lt_succ_self _, templateId, by rw [hloads]⟩
            · obtain ⟨hlt, hpending⟩ := hflights flight hold
              exact ⟨Nat.lt_succ_of_lt hlt, hpending⟩
      | loadRun runId => cases hevent
      | save => cases hevent
      | startRun key clock => cases hevent
  | answer number reply =>
      refine step_answer_rec ?_ ?_
      · intro _
        exact ⟨hloads, hflights⟩
      · intro flight hflight
        obtain ⟨-, templateId, hpending⟩ := hflights flight (mem_of_flight? hflight).1
        rw [hpending]
        refine ⟨?_, fun other hother => ?_⟩
        · rw [session_follow, Session.loads_resume_definition, started_follow, hloads]
        · rw [mem_flights_follow, Session.flights_resume_definition] at hother
          rcases hother with hnone | ⟨hold, -⟩
          · cases hnone
          · exact hflights other hold
  | edit move => cases hevent

/-- An operation that does not wait for the newest token is stale. -/
theorem Loading.isStale (hloading : desk.Loading first) {flight : Flight}
    (hmem : flight ∈ desk.flights) (hne : flight.number + 1 ≠ desk.started) :
    flight.pending.IsStale desk.session.loads := by
  obtain ⟨-, templateId, hpending⟩ := hloading.flights_eq flight hmem
  refine ⟨_, templateId, none, hpending, ?_⟩
  rw [hloading.loads_eq]
  omega

theorem Loading.pending_eq (hloading : desk.Loading first) {flight : Flight}
    (hmem : flight ∈ desk.flights) (hnewest : flight.number + 1 = desk.started) :
    flight.pending = .definition desk.session.loads flight.pending.templateId none := by
  obtain ⟨-, templateId, hpending⟩ := hloading.flights_eq flight hmem
  rw [hpending, hloading.loads_eq, ← hnewest]
  rfl

/-- Whatever loads are under way, an answer changes what is shown only if it belongs to the load
that was started last; and from the start of a load to the start of the next one what is shown is
decided by the first answer to that load alone. -/
theorem newest_load_decides (session : Session) (before after : List Event)
    (hbefore : ∀ event ∈ before, event.isTemplateLoad) (hafter : ∀ event ∈ after, event.isAnswer)
    (templateId version : Value) :
    let desk := run { session } before
    (∀ number flight, desk.flight? number = some flight → ∀ reply,
      (desk.step (.answer number reply)).session.shown =
        if number + 1 = desk.started then
          desk.session.shown.receive flight.pending.templateId none reply
        else desk.session.shown) ∧
    ((desk.step (.start (.loadTemplate templateId version))).run after).session.shown =
      match answerTo desk.started after with
      | some reply => desk.session.shown.receive templateId none reply
      | none => desk.session.shown := by
  intro desk
  have hnew : Loading session.loads { session } :=
    ⟨rfl, fun flight hflight => by cases hflight⟩
  have hdesk : desk.Loading session.loads :=
    run_induction (fun _ _ hloading hevent => hloading.step hevent) hnew hbefore
  refine ⟨fun number flight hflight reply => ?_, ?_⟩
  · obtain ⟨hmem, hnumber⟩ := mem_of_flight? hflight
    rw [step_answer hflight, session_follow]
    by_cases hnewest : number + 1 = desk.started
    · rw [if_pos hnewest, hdesk.pending_eq hmem (hnumber.symm ▸ hnewest)]
      exact Session.shown_resume_newest _ none reply
    · rw [if_neg hnewest,
        Session.session_resume_of_isStale (hdesk.isStale hmem (hnumber.symm ▸ hnewest))]
  · have hloading : (desk.step (.start (.loadTemplate templateId version))).Loading session.loads :=
      hdesk.step rfl
    have hflight : (desk.step (.start (.loadTemplate templateId version))).flight? desk.started =
        some
          { number := desk.started
            call := .readDefinition templateId version
            pending := .definition (desk.session.loads + 1) templateId none } :=
      List.find?_cons_of_pos (by simp)
    rw [session_run_of_newest hafter hflight rfl fun other hmem hne =>
      hloading.isStale hmem fun hlast => hne (Nat.succ.inj hlast)]
    cases answerTo desk.started after with
    | none => rfl
    | some reply =>
        exact @Session.shown_resume_newest { desk.session with loads := desk.session.loads + 1 }
          templateId none reply

theorem second_load_shows :
    (((run { session := Session.onFirst } [.start (.loadTemplate (.text "a") .null)]).step
        (.start (.loadTemplate (.text "b") .null))).run
      [.answer 1 (sent "b" "Second" "ask" (.int 7)),
       .answer 0 (sent "a" "First" "read" (.int 4))]).session.shown.outline =
      (some "b", some 7, some "Second", ["ask"]) := by
  have hshown := (newest_load_decides Session.onFirst
    [.start (.loadTemplate (.text "a") .null)]
    [.answer 1 (sent "b" "Second" "ask" (.int 7)), .answer 0 (sent "a" "First" "read" (.int 4))]
    (by simp [Event.isTemplateLoad]) (by simp [Event.isAnswer]) (.text "b") .null).2
  rw [hshown]
  decide +kernel

/-- A version that is an infinite number leaves a session with the document and the id of one
template and the version and the name of another. -/
theorem infinite_version_tears :
    (((run { session := Session.onFirst } [.start (.loadTemplate (.text "a") .null)]).step
        (.start (.loadTemplate (.text "b") .null))).run
      [.answer 1 (sent "b" "Second" "ask" (.float (1 / 0))),
       .answer 0 (sent "a" "First" "read" (.int 4))]).session.shown.outline =
      (some "b", some 3, some "First", ["ask"]) := by
  decide +kernel

end Desk

end FlowGraph
