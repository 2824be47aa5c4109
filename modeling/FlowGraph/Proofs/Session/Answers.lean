/-
# What an answer does to a session

Every operation goes on with an answer in one way only, which is said here once for each kind of
operation, so that an account of several operations never looks into one of them again. What is
shown of a template is the document with its history, the template's id, the version and the name
under which it was saved. A load is dropped unless its token is the newest one; a save as a new
version leaves the session on its template; the creation of a template and the newest load take a
template over.

A version that is an infinite number is the one thing in an answer that stops a session halfway: it
is looked at after the id of the template was taken over.
-/

import FlowGraph.Proofs.Edit.Outline
import FlowGraph.Session.Turns

namespace FlowGraph

/-- The value is an infinite number. -/
def Value.isInfinite : Value → Bool
  | .float x => !x.isFinite && !x.isNaN
  | _ => false

theorem Value.not_isInfinite_int (n : Int) : ¬ (Value.int n).isInfinite := Bool.false_ne_true

/-- The result of a save that ends with a turn. -/
def Turn.saved? (turn : Turn) : Option SaveResult :=
  match turn.next with
  | .done (.ok (.saved result)) => some result
  | _ => none

/-- The response to the start of a run that ends with a turn. -/
def Turn.started? (turn : Turn) : Option Value :=
  match turn.next with
  | .done (.ok (.started response)) => some response
  | _ => none

theorem Turn.next_of_saved? {turn : Turn} {result : SaveResult}
    (hsaved : turn.saved? = some result) : turn.next = .done (.ok (.saved result)) := by
  rw [saved?] at hsaved
  split at hsaved
  · next found hnext => rw [hnext, Option.some.inj hsaved]
  · cases hsaved

theorem Turn.next_of_started? {turn : Turn} {response : Value}
    (hstarted : turn.started? = some response) : turn.next = .done (.ok (.started response)) := by
  rw [started?] at hstarted
  split at hstarted
  · next found hnext => rw [hnext, Option.some.inj hstarted]
  · cases hstarted

/-- What a session shows of the template that it edits. -/
structure Shown where
  timeline : Timeline
  templateId : Option String
  templateVersion : Option Int
  savedName : Option String

namespace Session

/-- The version number that a value stands for, if it stands for one. -/
def versionNumber (value : Value) : Option Int := (positive? value).toOption.join

theorem looseInt?_eq_error_iff {value : Value} {failure : Failure} :
    Load.looseInt? value = .error failure ↔ value.isInfinite ∧ .outOfRange = failure := by
  cases value with
  | float x =>
      simp only [Load.looseInt?, Value.isInfinite]
      cases x.isFinite <;> cases x.isNaN <;> simp
  | _ => simp [Load.looseInt?, Value.isInfinite]

/-- Only an infinite number cannot be asked for a version. -/
theorem positive?_eq (value : Value) :
    positive? value =
      if value.isInfinite then .error .outOfRange else .ok (versionNumber value) := by
  cases hread : Load.looseInt? value with
  | error failure =>
      obtain ⟨hinfinite, rfl⟩ := looseInt?_eq_error_iff.mp hread
      rw [if_pos hinfinite, positive?, hread]
      rfl
  | ok number =>
      have hfinite : ¬ value.isInfinite := fun hinfinite => by
        rw [looseInt?_eq_error_iff.mpr ⟨hinfinite, rfl⟩] at hread
        cases hread
      rw [if_neg hfinite, versionNumber, positive?, hread]
      rfl

/-- What the session shows. -/
def shown (session : Session) : Shown :=
  { timeline := session.timeline
    templateId := session.templateId
    templateVersion := session.templateVersion
    savedName := session.savedName }

end Session

namespace Shown

/-- What was loaded, taken over together; for a run, with its input. -/
def take (shown : Shown) (loaded : Session.Loaded) (run : Option Value) : Shown :=
  { timeline := shown.timeline.reset (Session.withRunInput loaded.document run)
    templateId := some loaded.templateId
    templateVersion := Session.versionNumber loaded.version
    savedName := some loaded.name }

/-- What was loaded, taken over up to the version. -/
def tear (shown : Shown) (loaded : Session.Loaded) : Shown :=
  { shown with
    timeline := shown.timeline.reset loaded.document
    templateId := some loaded.templateId }

/-- What is shown after the answer to the newest load. -/
def receive (shown : Shown) (templateId : Value) (run : Option Value) (reply : Reply) : Shown :=
  match reply.bind (Session.readLoaded templateId) with
  | .error _ => shown
  | .ok loaded => if loaded.version.isInfinite then shown.tear loaded else shown.take loaded run

end Shown

namespace Session

variable {session : Session}

/-! ## Parts of an answer -/

/-- An answer that holds something under a key is an object. -/
theorem exists_object {response : Value} {key : String} (hheld : response.field key ≠ .null) :
    ∃ fields, response = .object fields := by
  cases response with
  | object fields => exact ⟨fields, rfl⟩
  | _ => exact absurd rfl hheld

/-- So is one that holds a text within what it holds under a key. -/
theorem exists_object_of_trimmedText {response : Value} {outer inner : String}
    (hheld : ((response.field outer).field inner).trimmedText ≠ "") :
    ∃ fields, response = .object fields := by
  have hempty : Value.null.trimmedText = "" := by decide
  have hnull : Value.null.field inner = .null := rfl
  apply exists_object
  intro hnone
  rw [hnone, hnull] at hheld
  exact hheld hempty

/-! ## Loads -/

/-- The answer to a load ends it. It starts no load and leaves the active run alone; and when the
load is not the newest one it leaves everything alone. -/
theorem resume_definition (token : Nat) (templateId : Value) (run : Option Value) (reply : Reply) :
    ∃ (after : Session) (replaced : Except Failure Bool),
      session.resume (.definition token templateId run) reply =
        after.finish (replaced.map (loadOutcome run)) ∧
      after.loads = session.loads ∧ after.activeRunId = session.activeRunId ∧
      (token ≠ session.loads → after = session) := by
  cases reply with
  | error failure => exact ⟨session, .error failure, rfl, rfl, rfl, fun _ => rfl⟩
  | ok response =>
      by_cases hstale : token ≠ session.loads
      · refine ⟨session, .ok false, ?_, rfl, rfl, fun _ => rfl⟩
        simp only [resume, receive, receiveDefinition, if_pos hstale]
        rfl
      · simp only [resume, receive, receiveDefinition, if_neg hstale]
        cases readLoaded templateId response with
        | error failure => exact ⟨session, .error failure, rfl, rfl, rfl, fun _ => rfl⟩
        | ok loaded =>
            simp only [adopt]
            cases positive? loaded.version with
            | error failure =>
                exact ⟨_, .error failure, rfl, rfl, rfl, fun hne => absurd hne hstale⟩
            | ok version => exact ⟨_, .ok true, rfl, rfl, rfl, fun hne => absurd hne hstale⟩

/-- The answer to the newest load decides what is shown. -/
theorem shown_resume_newest (templateId : Value) (run : Option Value) (reply : Reply) :
    (session.resume (.definition session.loads templateId run) reply).session.shown =
      session.shown.receive templateId run reply := by
  cases reply with
  | error failure => rfl
  | ok response =>
      have hbind : Except.bind (.ok response) (readLoaded templateId) =
        readLoaded templateId response := rfl
      simp only [resume, Session.receive, receiveDefinition, ne_eq, not_true_eq_false, if_false,
        Shown.receive, hbind]
      cases readLoaded templateId response with
      | error failure => rfl
      | ok loaded =>
          simp only [adopt, positive?_eq]
          cases loaded.version.isInfinite <;> rfl

/-- An answer to a load leaves what is shown alone, or what it loads is taken over. -/
theorem shown_resume_definition_cases (token : Nat) (templateId : Value) (run : Option Value)
    (reply : Reply) :
    let turn := session.resume (.definition token templateId run) reply
    turn.session.shown = session.shown ∧
        (token = session.loads → ∃ failure, reply.bind (readLoaded templateId) = .error failure) ∨
      token = session.loads ∧ ∃ loaded, reply.bind (readLoaded templateId) = .ok loaded ∧
        turn.session.shown =
          if loaded.version.isInfinite then session.shown.tear loaded
          else session.shown.take loaded run := by
  intro turn
  by_cases hnewest : token = session.loads
  · have hshown : turn.session.shown = session.shown.receive templateId run reply := by
      rw [← shown_resume_newest, ← hnewest]
    rw [Shown.receive] at hshown
    cases hread : reply.bind (readLoaded templateId) with
    | error failure =>
        rw [hread] at hshown
        exact .inl ⟨hshown, fun _ => ⟨failure, rfl⟩⟩
    | ok loaded =>
        rw [hread] at hshown
        exact .inr ⟨hnewest, loaded, rfl, hshown⟩
  · obtain ⟨after, replaced, hturn, -, -, hkept⟩ :=
      session.resume_definition token templateId run reply
    have hsession : turn.session = session := (congrArg Turn.session hturn).trans (hkept hnewest)
    exact .inl ⟨congrArg shown hsession, fun hsame => absurd hsame hnewest⟩

/-! ## Runs -/

/-- The template that a run's detail names; empty if it names none. -/
def runTemplate (detail : Value) : String :=
  ((detail.field "run").field "workflow_template_id").trimmedText

/-- The version that a run's detail names. -/
def runVersion (detail : Value) : Value :=
  (detail.field "run").field "workflow_template_version"

/-- A detail makes its run the active one, and the template that it names is asked for unless the
version is an infinite number. -/
theorem resume_runDetail (runId : Value) (fields : Fields Value) :
    session.resume (.runDetail runId) (.ok (.object fields)) =
      let active := { session with activeRunId := runId }
      if runTemplate (.object fields) = "" then active.finish (.ok (.opened (.object fields) false))
      else if (runVersion (.object fields)).isInfinite then active.finish (.error .outOfRange)
      else
        active.startLoad (.text (runTemplate (.object fields)))
          (((versionNumber (runVersion (.object fields))).map Value.int).getD .null)
          (some (.object fields)) := by
  have htemplate : ((part fields "run").field "workflow_template_id").trimmedText =
    runTemplate (.object fields) := rfl
  have hversion : (part fields "run").field "workflow_template_version" =
    runVersion (.object fields) := rfl
  simp only [resume, receive, receiveRun, answerFields, htemplate, hversion, positive?_eq]
  split
  · rfl
  · cases (runVersion (.object fields)).isInfinite <;> rfl

/-! ## Saves -/

/-- A save asks for a new version of the session's template if the document still has the name under
which it was saved, and for a new template otherwise. Both carry the compiled document. -/
theorem saveCall_cases {runKey : Option Value} {call : Call} {pending : Pending}
    (hcall : session.saveCall runKey = .ok (call, pending)) :
    ∃ compiled mode, session.document.compile session.policy = .ok compiled ∧
      ((∃ id, session.templateId = some id ∧ id ≠ "" ∧
          session.savedName = some (effectiveName session.document) ∧
          call =
            .createVersion (.text id) compiled.toWire (.text mode) (.text updateNote) ∧
          pending = .save (effectiveName session.document) false runKey) ∨
        call =
            .createTemplate (.text (effectiveName session.document)) compiled.toWire (.text mode)
              (.text createDescription) (.text createNote) ∧
          pending = .save (effectiveName session.document) true runKey) := by
  obtain ⟨compiled, hcompiled, hcall⟩ := exists_of_bind_eq_ok hcall
  obtain ⟨mode, -, hcall⟩ := exists_of_bind_eq_ok hcall
  refine ⟨compiled, mode, hcompiled, ?_⟩
  simp only at hcall
  split at hcall
  · next id hsaved =>
    obtain ⟨rfl, rfl⟩ := Prod.mk.inj (Except.ok.inj hcall)
    rw [savedTemplate?] at hsaved
    split at hsaved
    · next held hheld =>
      split at hsaved
      · next hsame =>
        obtain rfl := Option.some.inj hsaved
        exact .inl ⟨held, hheld, hsame.1, hsame.2, rfl, rfl⟩
      · cases hsaved
    · cases hsaved
  · obtain ⟨rfl, rfl⟩ := Prod.mk.inj (Except.ok.inj hcall)
    exact .inr ⟨rfl, rfl⟩

/-- The id of the template that the answer to a creation names; empty if it names none. -/
def createdId (response : Value) : String := ((response.field "template").field "id").trimmedText

/-- The version that the answer to a save names. -/
def sentVersion (response : Value) : Value := (response.field "version").field "version"

/-- A save that was answered fails, or goes on with what was saved. -/
theorem resume_save_cases (name : String) (isNew : Bool) (runKey : Option Value) (reply : Reply) :
    (∃ after failure, session.resume (.save name isNew runKey) reply =
        finish after (.error failure)) ∨
      ∃ after result, session.resume (.save name isNew runKey) reply =
        afterSave after result runKey := by
  cases reply with
  | error failure => exact .inl ⟨session, failure, rfl⟩
  | ok response =>
      cases response with
      | object fields =>
          simp only [resume, receive, receiveSave, answerFields]
          split
          · exact .inr ⟨_, _, rfl⟩
          · exact .inl ⟨_, _, rfl⟩
      | _ => exact .inl ⟨session, .notMapping, rfl⟩

/-- The answer to a save as a new version leaves the session on its template, whichever that is by
now, and takes the version over if it is a number. -/
theorem resume_version (name : String) (runKey : Option Value) (fields : Fields Value) :
    session.resume (.save name false runKey) (.ok (.object fields)) =
      if (sentVersion (.object fields)).isInfinite then session.finish (.error .outOfRange)
      else
        let version := (versionNumber (sentVersion (.object fields))).or session.templateVersion
        afterSave { session with templateVersion := version, savedName := some name }
          { templateId := session.templateId.getD "", version, created := false } runKey := by
  have hversion : (part fields "version").field "version" = sentVersion (.object fields) := rfl
  simp only [resume, receive, receiveSave, answerFields, savedVersion, answeredVersion, hversion,
    positive?_eq]
  cases (sentVersion (.object fields)).isInfinite <;> rfl

/-- The answer to the creation of a template makes the session go on with that template, which has
to have an id. -/
theorem resume_created (name : String) (runKey : Option Value) (fields : Fields Value) :
    session.resume (.save name true runKey) (.ok (.object fields)) =
      let id := createdId (.object fields)
      if id = "" then
        session.finish (.error (.backend "Workflow backend did not return a template id" none))
      else if (sentVersion (.object fields)).isInfinite then
        { session with templateId := some id }.finish (.error .outOfRange)
      else
        let version := (versionNumber (sentVersion (.object fields))).getD 1
        afterSave
          { session with
            templateId := some id, templateVersion := some version, savedName := some name }
          { templateId := id, version := some version, created := true } runKey := by
  have hid : ((part fields "template").field "id").trimmedText = createdId (.object fields) := rfl
  have hversion : (part fields "version").field "version" = sentVersion (.object fields) := rfl
  simp only [resume, receive, receiveSave, answerFields, savedTemplate, answeredVersion, hid,
    hversion, positive?_eq, if_true]
  by_cases hnone : createdId (.object fields) = ""
  · rw [if_pos hnone, if_pos hnone]
  · rw [if_neg hnone, if_neg hnone]
    cases (sentVersion (.object fields)).isInfinite <;> rfl

end Session

end FlowGraph
