/-
# The template that a session is on

A session is on a template with one of its versions. Only three kinds of answers touch the two: the
newest load and the creation of a template take over a template together with its version, and a
save as a new version takes over the version alone, whatever template the session is on by then.

So the two stay together as long as every answer tells the truth and every save as a new version is
answered while the session is on the template that it was asked for.
-/

import FlowGraph.Proofs.Session.Answers

namespace FlowGraph

/-- The template that a call saves a new version of. -/
def Call.versionOf? : Call → Option String
  | .createVersion (.text id) _ _ _ => some id
  | _ => none

/-- The answer to a call tells the truth: its version is no infinite number, and it belongs to the
template that the answer is about. -/
def Pending.Truthful (belongs : String → Int → Prop) (call : Call) (response : Value) :
    Pending → Prop
  | .definition _ templateId _ =>
    ∀ loaded ∈ (Session.readLoaded templateId response).toOption, ¬ loaded.version.isInfinite ∧
      ∀ version ∈ Session.versionNumber loaded.version, belongs loaded.templateId version
  | .save _ true _ =>
    Session.createdId response ≠ "" →
      ¬ (Session.sentVersion response).isInfinite ∧
        belongs (Session.createdId response)
          ((Session.versionNumber (Session.sentVersion response)).getD 1)
  | .save _ false _ =>
    ∀ id ∈ call.versionOf?, ∀ version ∈ Session.versionNumber (Session.sentVersion response),
      belongs id version
  | _ => True

instance (belongs : String → Int → Prop) [∀ id version, Decidable (belongs id version)]
    (call : Call) (response : Value) : ∀ pending : Pending,
      Decidable (pending.Truthful belongs call response)
  | .definition _ templateId _ => inferInstanceAs (Decidable
      (∀ loaded ∈ (Session.readLoaded templateId response).toOption, ¬ loaded.version.isInfinite ∧
        ∀ version ∈ Session.versionNumber loaded.version, belongs loaded.templateId version))
  | .save _ true _ => inferInstanceAs (Decidable
      (Session.createdId response ≠ "" →
        ¬ (Session.sentVersion response).isInfinite ∧
          belongs (Session.createdId response)
            ((Session.versionNumber (Session.sentVersion response)).getD 1)))
  | .save _ false _ => inferInstanceAs (Decidable
      (∀ id ∈ call.versionOf?, ∀ version ∈ Session.versionNumber (Session.sentVersion response),
        belongs id version))
  | .runDetail _ | .runStart | .fetch _ | .task => inferInstanceAs (Decidable True)

namespace Session

variable {session : Session} {runKey : Option Value}

/-- The template that an answer makes the session go on with, if it does. -/
def taken? (session : Session) (reply : Reply) : Pending → Option String
  | .definition token templateId _ =>
    if token = session.loads then
      (reply.bind (readLoaded templateId)).toOption.map Loaded.templateId
    else none
  | .save _ true _ => reply.toOption.bind fun response =>
    if createdId response = "" then none else some (createdId response)
  | _ => none

/-- The session's version is one of its template's. -/
def Coherent (belongs : String → Int → Prop) (session : Session) : Prop :=
  ∀ id ∈ session.templateId, ∀ version ∈ session.templateVersion, belongs id version

@[simp]
theorem session_afterSave (result : SaveResult) :
    (session.afterSave result runKey).session = session := by
  cases runKey <;> rfl

/-- What the answers to the other calls do: they touch neither the template nor its version. -/
theorem template_resume_other {pending : Pending} (reply : Reply)
    (hdefinition : ∀ token templateId run, pending ≠ .definition token templateId run)
    (hsave : ∀ name isNew runKey, pending ≠ .save name isNew runKey) :
    (session.resume pending reply).session.templateId = session.templateId ∧
      (session.resume pending reply).session.templateVersion = session.templateVersion := by
  cases pending with
  | definition token templateId run => exact absurd rfl (hdefinition token templateId run)
  | save name isNew runKey => exact absurd rfl (hsave name isNew runKey)
  | runDetail runId =>
      cases reply with
      | error failure => exact ⟨rfl, rfl⟩
      | ok detail =>
          cases detail with
          | object fields =>
              rw [resume_runDetail]
              dsimp only
              split
              · exact ⟨rfl, rfl⟩
              · split <;> exact ⟨rfl, rfl⟩
          | _ => exact ⟨rfl, rfl⟩
  | runStart =>
      cases reply with
      | error failure => exact ⟨rfl, rfl⟩
      | ok response => cases response <;> exact ⟨rfl, rfl⟩
  | fetch runId =>
      cases reply with
      | error failure => cases failure <;> exact ⟨rfl, rfl⟩
      | ok response => exact ⟨rfl, rfl⟩
  | task => cases reply <;> exact ⟨rfl, rfl⟩

/-- An answer to a save as a new version that is no object, or whose version is an infinite number,
changes nothing. -/
theorem resume_version_of_unfit (name : String) {reply : Reply}
    (hunfit : ∀ fields, reply = .ok (.object fields) → (sentVersion (.object fields)).isInfinite) :
    ∃ failure, session.resume (.save name false runKey) reply =
      session.finish (.error failure) := by
  cases reply with
  | error failure => exact ⟨failure, rfl⟩
  | ok response =>
      cases response with
      | object fields => exact ⟨_, by rw [resume_version, if_pos (hunfit fields rfl)]⟩
      | _ => exact ⟨_, rfl⟩

/-- What becomes of the template and its version with the answer to a save as a new version. -/
theorem template_resume_version (name : String) (reply : Reply) :
    let turn := session.resume (.save name false runKey) reply
    turn.session.templateId = session.templateId ∧
      (turn.session.templateVersion = session.templateVersion ∨
        ∃ response, reply = .ok response ∧ turn.session.templateVersion =
          (versionNumber (sentVersion response)).or session.templateVersion) := by
  by_cases hunfit : ∀ fields, reply = .ok (.object fields) →
      (sentVersion (.object fields)).isInfinite
  · obtain ⟨failure, hturn⟩ := resume_version_of_unfit name hunfit
    rw [hturn]
    exact ⟨rfl, .inl rfl⟩
  · push Not at hunfit
    obtain ⟨fields, rfl, hfinite⟩ := hunfit
    rw [resume_version, if_neg hfinite]
    dsimp only
    rw [session_afterSave]
    exact ⟨rfl, .inr ⟨_, rfl, rfl⟩⟩

/-- What becomes of the template and its version with the answer to a creation. -/
theorem template_resume_created (name : String) (reply : Reply) :
    let turn := session.resume (.save name true runKey) reply
    turn.session.templateId =
        (session.taken? reply (.save name true runKey)).or session.templateId ∧
      (turn.session = session ∨ ∃ response, reply = .ok response ∧ createdId response ≠ "" ∧
        ((sentVersion response).isInfinite ∨
          turn.session.templateId = some (createdId response) ∧
            turn.session.templateVersion =
              some ((versionNumber (sentVersion response)).getD 1))) := by
  cases reply with
  | error failure => exact ⟨rfl, .inl rfl⟩
  | ok response =>
      have htaken : session.taken? (.ok response) (.save name true runKey) =
        if createdId response = "" then none else some (createdId response) := by
        simp only [taken?, Except.toOption, Option.bind_some]
      rw [htaken]
      by_cases hnone : createdId response = ""
      · obtain ⟨failure, hturn⟩ : ∃ failure,
            session.resume (.save name true runKey) (.ok response) =
              session.finish (.error failure) := by
          cases response with
          | object fields => exact ⟨_, (resume_created name runKey fields).trans (if_pos hnone)⟩
          | _ => exact ⟨_, rfl⟩
        rw [hturn, if_pos hnone]
        exact ⟨rfl, .inl rfl⟩
      · obtain ⟨fields, rfl⟩ := exists_object_of_trimmedText hnone
        rw [resume_created, if_neg hnone]
        dsimp only
        rw [if_neg hnone]
        by_cases hinfinite : (sentVersion (.object fields)).isInfinite
        · rw [if_pos hinfinite]
          exact ⟨rfl, .inr ⟨_, rfl, hnone, .inl hinfinite⟩⟩
        · rw [if_neg hinfinite, session_afterSave]
          exact ⟨rfl, .inr ⟨_, rfl, hnone, .inr ⟨rfl, rfl⟩⟩⟩

/-- What becomes of the template and its version with the answer to a load. -/
theorem template_resume_definition (token : Nat) (templateId : Value) (run : Option Value)
    (reply : Reply) :
    let turn := session.resume (.definition token templateId run) reply
    turn.session.templateId =
        (session.taken? reply (.definition token templateId run)).or session.templateId ∧
      (turn.session.templateId = session.templateId ∧
          turn.session.templateVersion = session.templateVersion ∨
        ∃ loaded, reply.bind (readLoaded templateId) = .ok loaded ∧
          (loaded.version.isInfinite ∨
            turn.session.templateId = some loaded.templateId ∧
              turn.session.templateVersion = versionNumber loaded.version)) := by
  intro turn
  rcases session.shown_resume_definition_cases token templateId run reply with
    ⟨hshown, hunread⟩ | ⟨hnewest, loaded, hread, hshown⟩
  · have hid : turn.session.templateId = session.templateId := congrArg Shown.templateId hshown
    have hversion : turn.session.templateVersion = session.templateVersion :=
      congrArg Shown.templateVersion hshown
    have hnone : session.taken? reply (.definition token templateId run) = none := by
      rw [taken?]
      split
      · next hnewest =>
        obtain ⟨failure, hread⟩ := hunread hnewest
        rw [hread]
        rfl
      · rfl
    rw [hnone, Option.none_or]
    exact ⟨hid, .inl ⟨hid, hversion⟩⟩
  · have hid := congrArg Shown.templateId hshown
    have hversion := congrArg Shown.templateVersion hshown
    have hsome : session.taken? reply (.definition token templateId run) =
        some loaded.templateId := by
      rw [taken?, if_pos hnewest, hread]
      rfl
    rw [hsome, Option.some_or]
    by_cases hinfinite : loaded.version.isInfinite
    · rw [if_pos hinfinite] at hid
      exact ⟨hid, .inr ⟨loaded, hread, .inl hinfinite⟩⟩
    · rw [if_neg hinfinite] at hid hversion
      exact ⟨hid, .inr ⟨loaded, hread, .inr ⟨hid, hversion⟩⟩⟩

/-- An answer takes over one template at most. -/
theorem templateId_resume (pending : Pending) (reply : Reply) :
    (session.resume pending reply).session.templateId =
      (session.taken? reply pending).or session.templateId := by
  cases pending with
  | definition token templateId run =>
      exact (template_resume_definition token templateId run reply).1
  | save name isNew runKey =>
      cases isNew with
      | true => exact (template_resume_created name reply).1
      | false => exact (template_resume_version name reply).1
  | _ => exact (template_resume_other reply (by simp) (by simp)).1

/-! ## Coherence -/

variable {belongs : String → Int → Prop}

theorem Coherent.of_eq {next : Session} (hcoherent : session.Coherent belongs)
    (hid : next.templateId = session.templateId)
    (hversion : next.templateVersion = session.templateVersion) : next.Coherent belongs := by
  rw [Coherent, hid, hversion]
  exact hcoherent

/-- A truthful answer that reaches the template it was asked for keeps the session coherent. -/
theorem Coherent.resume (hcoherent : session.Coherent belongs) {call : Call} {pending : Pending}
    {response : Value} (htruthful : pending.Truthful belongs call response)
    (hcredited : ∀ id ∈ call.versionOf?, session.templateId = some id)
    (hasked : ∀ name runKey, pending = .save name false runKey → ∃ id, call.versionOf? = some id) :
    (session.resume pending (.ok response)).session.Coherent belongs := by
  cases pending with
  | definition token templateId run =>
      rcases (template_resume_definition token templateId run (.ok response)).2 with
        ⟨hid, hversion⟩ | ⟨loaded, hloaded, htaken⟩
      · exact hcoherent.of_eq hid hversion
      · have hread : readLoaded templateId response = .ok loaded := hloaded
        obtain ⟨hfinite, hbelongs⟩ := htruthful loaded (by rw [hread]; rfl)
        obtain ⟨hid, hversion⟩ := htaken.resolve_left hfinite
        intro id hmem version hheld
        rw [hid, Option.mem_some_iff] at hmem
        rw [hversion] at hheld
        exact hmem ▸ hbelongs version hheld
  | save name isNew runKey =>
      cases isNew with
      | true =>
          rcases (@template_resume_created session runKey name (.ok response)).2 with
            hkept | ⟨_, hresponse, hnamed, htaken⟩
          · rw [hkept]
            exact hcoherent
          · obtain rfl := Except.ok.inj hresponse
            obtain ⟨hfinite, hbelongs⟩ := htruthful hnamed
            obtain ⟨hid, hversion⟩ := htaken.resolve_left hfinite
            intro id hmem version hheld
            rw [hid, Option.mem_some_iff] at hmem
            rw [hversion, Option.mem_some_iff] at hheld
            exact hmem ▸ hheld ▸ hbelongs
      | false =>
          obtain ⟨asked, hcall⟩ := hasked name runKey rfl
          obtain ⟨hid, hversion | ⟨_, hresponse, hversion⟩⟩ :=
            @template_resume_version session runKey name (.ok response)
          · exact hcoherent.of_eq hid hversion
          · obtain rfl := Except.ok.inj hresponse
            intro id hmem version hheld
            rw [hid] at hmem
            rw [hversion] at hheld
            rcases Option.or_eq_some_iff.mp hheld with hanswered | ⟨-, hold⟩
            · -- the number belongs to the template that was asked for, and that is the session's
              obtain rfl : asked = id := Option.some.inj ((hcredited asked hcall).symm.trans hmem)
              exact htruthful asked hcall version hanswered
            · exact hcoherent id hmem version hold
  | _ =>
      apply hcoherent.of_eq
      · exact (template_resume_other (.ok response) (by simp) (by simp)).1
      · exact (template_resume_other (.ok response) (by simp) (by simp)).2

/-- A call that fails leaves the session alone. -/
theorem session_resume_error (pending : Pending) (failure : Failure) :
    (session.resume pending (.error failure)).session = session := by
  cases pending with
  | fetch runId => cases failure <;> rfl
  | _ => rfl

end Session

end FlowGraph
