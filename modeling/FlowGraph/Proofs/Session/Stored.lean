/-
# Saved documents are stored

The session remembers of its template only the id, the version and a name. The fact that carries the
whole account is that the template with this id is in the archive, and that the name is the settled
form of the name under which it is stored there: trimmed, or the default if nothing is left. It
holds before and after every operation, whatever is edited in between, so a save as a new version
always goes to a template that bears the document's name. A name that was stored in another form
before the session was opened is never written back, which is why the two agree in the settled form
only.
-/

import FlowGraph.Proofs.Session.Archive
import FlowGraph.Proofs.Session.Desk
import FlowGraph.Proofs.Trim

namespace FlowGraph

open FlowGraph.Text

/-- The name that a session knows for one that is stored: trimmed, or the default. -/
def settledName (name : String) : String :=
  if trim name = "" then Document.defaultName else trim name

/-- The most calls that an operation still makes, if it is not one that follows a run. -/
def Next.calls : Next → Nat
  | .ask _ (.runDetail _) | .ask _ (.save _ _ (some _)) => 2
  | .ask .. => 1
  | .sleep _ | .done _ => 0

theorem Next.calls_le (next : Next) : next.calls ≤ 2 := by
  unfold calls
  split <;> decide

theorem Next.calls_ask_pos (call : Call) (pending : Pending) :
    0 < (Next.ask call pending).calls := by
  unfold calls
  split <;> simp_all

/-- What is done to a session at one time: an edit, or an operation that runs to its end. -/
inductive Act where
  | edit (move : Move)
  | operate (operation : Operation)

/-- The backend and the session after an act. -/
def Act.perform {β : Type} (answer : Turn.Backend β) (fuel : Nat) (state : β × Session) :
    Act → β × Session
  | .edit move => (state.1, state.2.withTimeline (state.2.timeline.act move).2)
  | .operate operation =>
    let ran := Turn.run answer fuel state.1 (operation.begin state.2)
    (ran.backend, ran.turn.session)

namespace Archive

variable {fits : String → Prop}

/-- What the session remembers of its template agrees with the archive; and names that are not
settled were there from the start. -/
structure Knows (start archive : Archive) (session : Session) : Prop where
  current : ∀ id, session.templateId = some id → id ≠ "" →
    ∃ template, Fields.get? archive.templates id = some template ∧
      session.savedName = some (settledName template.name)
  settled : ∀ id template, Fields.get? archive.templates id = some template →
    settledName template.name = template.name ∨
      ∃ first, Fields.get? start.templates id = some first ∧ first.name = template.name

/-- The document of the session is stored under this version of this template, and the template
bears its name. -/
structure Holds (start archive : Archive) (session : Session) (id : String) (version : Nat) :
    Prop where
  templateId : session.templateId = some id
  templateVersion : session.templateVersion = some (version : Int)
  definition : ∃ template compiled, Fields.get? archive.templates id = some template ∧
    session.document.compile session.policy = .ok compiled ∧
    template.definition? version = some compiled.toWire ∧
    settledName template.name = Session.effectiveName session.document ∧
    (template.name = Session.effectiveName session.document ∨
      ∃ first, Fields.get? start.templates id = some first ∧ first.name = template.name)

/-! ## Names and versions -/

theorem settledName_ne (name : String) : settledName name ≠ "" := by
  rw [settledName]
  split
  · decide
  · assumption

theorem trim_settledName (name : String) : trim (settledName name) = settledName name := by
  rw [settledName]
  split
  · decide
  · exact trim_trim name

theorem settledName_settledName (name : String) :
    settledName (settledName name) = settledName name := by
  rw [settledName, trim_settledName, if_neg (settledName_ne name)]

theorem effectiveName_eq (document : Document) :
    Session.effectiveName document = settledName document.name := rfl

/-- The name that is read of a template is the settled one. -/
theorem templateName_eq {template : Value} {name : String}
    (hname : template.field "name" = .text name) :
    Session.templateName template = settledName name := by
  have horElse : (template.field "name").orElse (.text Document.defaultName) =
      .text (if name = "" then Document.defaultName else name) := by
    rw [hname, Value.orElse]
    by_cases hempty : name = "" <;> simp [Value.isTruthy, hempty]
  have htext (text : String) : (Value.text text).display = text := rfl
  rw [Session.templateName, horElse, htext, settledName]
  by_cases hempty : name = ""
  · subst hempty
    decide
  · rw [if_neg hempty]

theorem versionNumber_int {n : Nat} (hpos : 0 < n) :
    Session.versionNumber (.int n) = some (n : Int) := by
  simp [Session.versionNumber, Session.positive?, Load.looseInt?, hpos, bind, Except.bind, pure,
    Except.pure, Except.toOption]

theorem exists_object_of_sentVersion {response : Value} {n : Int}
    (hversion : Session.sentVersion response = .int n) : ∃ fields, response = .object fields := by
  apply @Session.exists_object response "version"
  intro hnone
  rw [Session.sentVersion, hnone] at hversion
  cases hversion

/-- What is read of a stored template. -/
theorem readLoaded_read {id name : String} {response : Value} {loaded : Session.Loaded}
    (hid : (response.field "template").field "id" = .text id)
    (hname : (response.field "template").field "name" = .text name)
    (hread : Session.readLoaded (.text id) response = .ok loaded) :
    loaded.templateId = id ∧ loaded.name = settledName name ∧
      loaded.version = Session.sentVersion response := by
  obtain ⟨fields, hfields, hread⟩ := exists_of_bind_eq_ok hread
  obtain ⟨document, -, hread⟩ := exists_of_bind_eq_ok hread
  obtain rfl := Except.ok.inj hread
  cases response with
  | object held =>
      obtain rfl := Except.ok.inj hfields
      have hpartId : (Session.part held "template").field "id" = .text id := hid
      have hpartName : (Session.part held "template").field "name" = .text name := hname
      rw [templateName_eq hpartName, hpartId, Value.orElse, ite_self]
      dsimp only
      exact ⟨rfl, rfl, rfl⟩
  | _ => cases hfields

namespace Knows

variable {start archive : Archive} {session next : Session}

theorem of_eq (hknows : Knows start archive session) (hid : next.templateId = session.templateId)
    (hname : next.savedName = session.savedName) : Knows start archive next where
  current := by
    rw [hid, hname]
    exact hknows.current
  settled := hknows.settled

theorem of_stored (hknows : Knows start archive session) {id : String} {template : StoredTemplate}
    (hstored : Fields.get? archive.templates id = some template)
    (hid : next.templateId = some id) (hname : next.savedName = some (settledName template.name)) :
    Knows start archive next where
  current other hother _ := by
    obtain rfl := Option.some.inj (hid.symm.trans hother)
    exact ⟨template, hstored, hname⟩
  settled := hknows.settled

theorem put (hknows : Knows start archive session) {id : String} {template : StoredTemplate}
    (hid : next.templateId = some id) (hname : next.savedName = some (settledName template.name))
    (hsettled : settledName template.name = template.name ∨
      ∃ first, Fields.get? start.templates id = some first ∧ first.name = template.name) :
    Knows start (archive.put id template) next where
  current other hother _ := by
    obtain rfl := Option.some.inj (hid.symm.trans hother)
    exact ⟨template, get?_put archive id template, hname⟩
  settled other held hheld := by
    rw [Archive.put, Fields.get?_set] at hheld
    split at hheld
    · next hsame =>
      obtain rfl := Option.some.inj hheld
      exact hsame ▸ hsettled
    · exact hknows.settled other held hheld

end Knows

/-! ## Operations -/

/-- What an operation of a session asks of the archive, and what it remembers meanwhile. -/
inductive Asks (start archive : Archive) (session : Session) : Call → Pending → Prop
  | definition (token : Nat) (templateId version : Value) (run : Option Value) :
      Asks start archive session (.readDefinition templateId version)
        (.definition token templateId run)
  | detail (runId : Value) : Asks start archive session (.readRun runId) (.runDetail runId)
  | version {id name : String} {compiled : Definition} (mode note : Value) (runKey : Option Value)
      (hid : session.templateId = some id) (hne : id ≠ "") (hname : session.savedName = some name)
      (heffective : Session.effectiveName session.document = name)
      (hcompiled : session.document.compile session.policy = .ok compiled) :
      Asks start archive session (.createVersion (.text id) compiled.toWire mode note)
        (.save name false runKey)
  | template {name : String} {compiled : Definition} (mode description note : Value)
      (runKey : Option Value) (heffective : Session.effectiveName session.document = name)
      (hcompiled : session.document.compile session.policy = .ok compiled) :
      Asks start archive session
        (.createTemplate (.text name) compiled.toWire mode description note)
        (.save name true runKey)
  | run {id : String} {version : Nat} (input context key : Value)
      (hholds : Holds start archive session id version) :
      Asks start archive session (.startRun (.text id) (.int version) input context key) .runStart

/-- What an operation ends with. -/
def Ends (start archive : Archive) (runs : List (Value × Value)) (session : Session) :
    Except Failure Outcome → Prop
  | .ok (.saved result) => ∃ version : Nat, result.version = some (version : Int) ∧
    Holds start archive session result.templateId version
  | .ok (.started _) => ∃ (id : String) (version : Nat), Holds start archive session id version ∧
    archive.runs = (.text id, .int version) :: runs
  | _ => True

/-- Where an operation stands after a turn, if these runs had been started before it. -/
structure Stands (start archive : Archive) (runs : List (Value × Value)) (turn : Turn) : Prop where
  knows : Knows start archive turn.session
  asks : ∀ call pending, turn.next = .ask call pending →
    Asks start archive turn.session call pending ∧ archive.runs = runs
  awake : ∀ runId, turn.next ≠ .sleep runId
  ends : ∀ outcome, turn.next = .done outcome → Ends start archive runs turn.session outcome

section

variable {start archive : Archive} {runs : List (Value × Value)} {session : Session}

theorem stands_finish (hknows : Knows start archive session) {outcome : Except Failure Outcome}
    (hends : Ends start archive runs session outcome) :
    Stands start archive runs (session.finish outcome) where
  knows := hknows
  asks _ _ hnext := by cases hnext
  awake _ hnext := by cases hnext
  ends _ hnext := by
    obtain rfl := Next.done.inj hnext
    exact hends

theorem stands_fail (hknows : Knows start archive session) (failure : Failure) :
    Stands start archive runs (session.finish (.error failure)) :=
  stands_finish hknows trivial

theorem stands_ask (hknows : Knows start archive session) {call : Call} {pending : Pending}
    (hasks : Asks start archive session call pending) (hruns : archive.runs = runs) :
    Stands start archive runs { session, next := .ask call pending } where
  knows := hknows
  asks _ _ hnext := by
    obtain ⟨rfl, rfl⟩ := Next.ask.inj hnext
    exact ⟨hasks, hruns⟩
  awake _ hnext := by cases hnext
  ends _ hnext := by cases hnext

/-- A document that was saved ends its save, or is run. -/
theorem stands_afterSave (hknows : Knows start archive session) {result : SaveResult}
    {version : Nat} (hversion : result.version = some (version : Int))
    (hholds : Holds start archive session result.templateId version) (runKey : Option Value)
    (hruns : archive.runs = runs) :
    Stands start archive runs (session.afterSave result runKey) := by
  cases runKey with
  | none => exact stands_finish hknows ⟨version, hversion, hholds⟩
  | some key =>
      rw [Session.afterSave, hversion]
      exact stands_ask hknows (.run _ _ key hholds) hruns

theorem stands_startSave (hknows : Knows start archive session) (runKey : Option Value)
    (hruns : archive.runs = runs) : Stands start archive runs (session.startSave runKey) := by
  rw [Session.startSave]
  split
  · next call pending hcall =>
    apply stands_ask hknows _ hruns
    obtain ⟨compiled, mode, hcompiled, ⟨id, hid, hne, hname, rfl, rfl⟩ | ⟨rfl, rfl⟩⟩ :=
      Session.saveCall_cases hcall
    · exact .version _ _ runKey hid hne hname rfl hcompiled
    · exact .template _ _ _ runKey rfl hcompiled
  · next failure hcall => exact stands_fail hknows failure

theorem stands_begin (hknows : Knows start archive session) (operation : Operation)
    (hruns : archive.runs = runs) : Stands start archive runs (operation.begin session) := by
  cases operation with
  | loadTemplate templateId version =>
      exact @stands_ask start archive runs { session with loads := session.loads + 1 }
        (hknows.of_eq rfl rfl) _ _ (.definition _ templateId version none) hruns
  | loadRun runId => exact stands_ask hknows (.detail runId) hruns
  | save => exact stands_startSave hknows none hruns
  | startRun key clock =>
      simp only [Operation.begin, Session.startRun]
      split
      · exact stands_startSave hknows _ hruns
      · exact stands_fail hknows _

theorem stands_resume_definition (hknows : Knows start archive session)
    (token : Nat) {templateId version : Value} (run : Option Value)
    {after : Archive} {reply : Reply}
    (hanswers : archive.Answers fits (.readDefinition templateId version) after reply) :
    Stands start after runs (session.resume (.definition token templateId run) reply) := by
  cases hanswers with
  | refused message status => exact stands_fail hknows _
  | other _ hother => exact absurd rfl hother
  | read hstored hnumber hdefinition hid hname hversion hsent =>
      next id template number definition response =>
      obtain ⟨next, replaced, hturn, -⟩ :=
        session.resume_definition token (.text id) run (.ok response)
      have hcases := session.shown_resume_definition_cases token (.text id) run (.ok response)
      rw [hturn] at hcases ⊢
      refine stands_finish ?_ (by cases replaced <;> cases run <;> trivial)
      rcases hcases with ⟨hshown, -⟩ | ⟨-, loaded, hread, hshown⟩
      · exact hknows.of_eq (congrArg Shown.templateId hshown) (congrArg Shown.savedName hshown)
      · obtain ⟨hloadedId, hloadedName, hloadedVersion⟩ := readLoaded_read hid hname hread
        have hfinite : ¬ loaded.version.isInfinite := by
          rw [hloadedVersion, hversion]
          exact Value.not_isInfinite_int _
        rw [if_neg hfinite] at hshown
        have hnextId : next.templateId = some loaded.templateId := congrArg Shown.templateId hshown
        have hnextName : next.savedName = some loaded.name := congrArg Shown.savedName hshown
        rw [hloadedId] at hnextId
        rw [hloadedName] at hnextName
        exact hknows.of_stored hstored hnextId hnextName

theorem stands_resume_detail (hknows : Knows start archive session) (hruns : archive.runs = runs)
    (runId : Value) (reply : Reply) :
    Stands start archive runs (session.resume (.runDetail runId) reply) := by
  have hactive : Knows start archive { session with activeRunId := runId } :=
    hknows.of_eq rfl rfl
  cases reply with
  | error failure => exact stands_fail hknows failure
  | ok detail =>
      cases detail with
      | object fields =>
          rw [Session.resume_runDetail]
          dsimp only
          split
          · exact stands_finish hactive trivial
          · split
            · exact stands_fail hactive _
            · exact @stands_ask start archive runs
                { session with activeRunId := runId, loads := session.loads + 1 }
                (hknows.of_eq rfl rfl) _ _ (.definition _ _ _ _) hruns
      | _ => exact stands_fail hknows _

theorem stands_resume_version (hknows : Knows start archive session) (hruns : archive.runs = runs)
    {id name : String} {compiled : Definition} {mode note : Value} (runKey : Option Value)
    (hid : session.templateId = some id) (hne : id ≠ "") (hname : session.savedName = some name)
    (heffective : Session.effectiveName session.document = name)
    (hcompiled : session.document.compile session.policy = .ok compiled) {after : Archive}
    {reply : Reply}
    (hanswers : archive.Answers fits (.createVersion (.text id) compiled.toWire mode note) after
      reply) :
    Stands start after runs (session.resume (.save name false runKey) reply) := by
  cases hanswers with
  | refused message status => exact stands_fail hknows _
  | other _ hother => exact absurd rfl hother
  | extended _ _ _ hstored hversion =>
      next template response =>
      obtain ⟨fields, rfl⟩ := exists_object_of_sentVersion hversion
      obtain ⟨held, hheld, hsaved⟩ := hknows.current id hid hne
      obtain rfl := Option.some.inj (hheld.symm.trans hstored)
      have hsame : settledName held.name = name := Option.some.inj (hsaved.symm.trans hname)
      have hnumber : Session.versionNumber (.int (held.newest + 1)) =
          some ((held.newest + 1 : Nat) : Int) := versionNumber_int (Nat.succ_pos _)
      rw [Session.resume_version, hversion, if_neg (Value.not_isInfinite_int _), hnumber, hid]
      refine stands_afterSave ?_ rfl ?_ runKey hruns
      · exact hknows.put rfl (congrArg some hsame.symm) (hknows.settled id held hheld)
      · refine ⟨rfl, rfl, held.extend compiled.toWire, compiled, get?_put _ _ _, hcompiled,
          List.lookup_cons_self, hsame.trans heffective.symm, ?_⟩
        rcases hknows.settled id held hheld with hsettled | hfirst
        · exact .inl (hsettled.symm.trans (hsame.trans heffective.symm))
        · exact .inr hfirst

theorem stands_resume_template (hknows : Knows start archive session) (hruns : archive.runs = runs)
    {name : String} {compiled : Definition} {mode description note : Value}
    (runKey : Option Value) (heffective : Session.effectiveName session.document = name)
    (hcompiled : session.document.compile session.policy = .ok compiled) {after : Archive}
    {reply : Reply}
    (hanswers : archive.Answers (fun id => id ≠ "" ∧ trim id = id)
      (.createTemplate (.text name) compiled.toWire mode description note) after reply) :
    Stands start after runs (session.resume (.save name true runKey) reply) := by
  have hsettled : settledName name = name := by
    rw [← heffective, effectiveName_eq, settledName_settledName]
  cases hanswers with
  | refused message status => exact stands_fail hknows _
  | other _ hother => exact absurd rfl hother
  | created _ _ _ _ hfits hfresh hid hversion =>
      next id response =>
      obtain ⟨fields, rfl⟩ := exists_object_of_sentVersion hversion
      have hcreated : Session.createdId (.object fields) = id := by
        rw [Session.createdId, hid, Value.trimmedText, Value.filledText,
          if_pos (by simpa [Value.isTruthy] using hfits.1)]
        exact hfits.2
      have hnumber : Session.versionNumber (.int 1) = some ((1 : Nat) : Int) :=
        versionNumber_int Nat.one_pos
      rw [Session.resume_created, hcreated, hversion]
      dsimp only
      rw [if_neg hfits.1, if_neg (Value.not_isInfinite_int _), hnumber]
      refine stands_afterSave ?_ rfl ?_ runKey hruns
      · exact hknows.put rfl (congrArg some hsettled.symm) (.inl hsettled)
      · exact ⟨rfl, rfl, _, compiled, get?_put _ _ _, hcompiled, List.lookup_cons_self,
          hsettled.trans heffective.symm, .inl heffective.symm⟩

theorem stands_resume_run (hknows : Knows start archive session) (hruns : archive.runs = runs)
    {id : String} {version : Nat} (hholds : Holds start archive session id version)
    {input context key : Value} {after : Archive} {reply : Reply}
    (hanswers : archive.Answers fits (.startRun (.text id) (.int version) input context key) after
      reply) :
    Stands start after runs (session.resume .runStart reply) := by
  cases hanswers with
  | refused message status => exact stands_fail hknows _
  | other _ hother => exact absurd rfl hother
  | started =>
      next response =>
      have hkept : Knows start { archive with runs := (.text id, .int version) :: archive.runs }
        session := ⟨hknows.current, hknows.settled⟩
      cases response with
      | object fields =>
          exact @stands_finish start _ runs
            (session.resume .runStart (.ok (.object fields))).session (hkept.of_eq rfl rfl)
            (.ok (.started (.object fields)))
            ⟨id, version, ⟨hholds.templateId, hholds.templateVersion, hholds.definition⟩,
              congrArg (List.cons _) hruns⟩
      | _ => exact stands_fail hkept _

/-- What a turn does to the archive and to the operation, one case for each thing an operation can
ask. -/
theorem Asks.stands {call : Call} {pending : Pending}
    (hasks : Asks start archive session call pending) (hknows : Knows start archive session)
    (hruns : archive.runs = runs) {after : Archive} {reply : Reply}
    (hanswers : archive.Answers (fun id => id ≠ "" ∧ trim id = id) call after reply) :
    Stands start after runs (session.resume pending reply) := by
  cases hasks with
  | definition token templateId version run =>
      exact stands_resume_definition hknows token run hanswers
  | detail runId =>
      cases hanswers with
      | refused message status => exact stands_resume_detail hknows hruns runId _
      | other reply hother => exact stands_resume_detail hknows hruns runId reply
  | version mode note runKey hid hne hname heffective hcompiled =>
      exact stands_resume_version hknows hruns runKey hid hne hname heffective hcompiled hanswers
  | template mode description note runKey heffective hcompiled =>
      exact stands_resume_template hknows hruns runKey heffective hcompiled hanswers
  | run input context key hholds => exact stands_resume_run hknows hruns hholds hanswers

/-- Every answer brings an operation nearer to its end. -/
theorem Asks.calls_resume_lt {call : Call} {pending : Pending}
    (hasks : Asks start archive session call pending) (reply : Reply) :
    (session.resume pending reply).next.calls < (Next.ask call pending).calls := by
  have hsave (name : String) (isNew : Bool) (runKey : Option Value) :
      (session.resume (.save name isNew runKey) reply).next.calls <
        (Next.ask call (.save name isNew runKey)).calls := by
    rcases session.resume_save_cases name isNew runKey reply with ⟨after, failure, hturn⟩ |
      ⟨after, result, hturn⟩
    · rw [hturn]
      cases runKey with
      | none => exact Nat.one_pos
      | some key => exact Nat.two_pos
    · rw [hturn]
      cases runKey with
      | none => exact Nat.one_pos
      | some key => exact Nat.one_lt_two
  cases hasks with
  | definition token templateId version run =>
      obtain ⟨after, replaced, hturn, -⟩ :=
        session.resume_definition token templateId run reply
      rw [hturn]
      exact Nat.one_pos
  | detail runId =>
      cases reply with
      | error failure => exact Nat.two_pos
      | ok detail =>
          cases detail with
          | object fields =>
              rw [Session.resume_runDetail]
              dsimp only
              split
              · exact Nat.two_pos
              · split
                · exact Nat.two_pos
                · exact Nat.one_lt_two
          | _ => exact Nat.two_pos
  | version mode note runKey => exact hsave _ false runKey
  | template mode description note runKey => exact hsave _ true runKey
  | run =>
      cases reply with
      | error failure => exact Nat.one_pos
      | ok response => cases response <;> exact Nat.one_pos

end

/-! ## Histories -/

/-- An operation that runs on its own stands after each call where it should, and has ended after as
many calls as it may make. -/
theorem Stands.run {β : Type} {answer : Turn.Backend β} {archive : β → Archive}
    (hkeeps : Keeps (fun id => id ≠ "" ∧ trim id = id) answer archive) {start : Archive}
    {runs : List (Value × Value)} {backend : β} {turn : Turn}
    (hstands : Stands start (archive backend) runs turn) (fuel : Nat) :
    let ran := Turn.run answer fuel backend turn
    Stands start (archive ran.backend) runs ran.turn ∧
      (turn.next.calls ≤ fuel → ∃ outcome, ran.turn.next = .done outcome) := by
  induction fuel generalizing backend turn with
  | zero =>
      refine ⟨hstands, fun hcalls => ?_⟩
      cases hnext : turn.next with
      | ask call pending =>
          rw [hnext] at hcalls
          exact absurd hcalls (Nat.not_le_of_lt (Next.calls_ask_pos call pending))
      | sleep runId => exact absurd hnext (hstands.awake runId)
      | done outcome => exact ⟨outcome, hnext⟩
  | succ fuel ih =>
      cases hnext : turn.next with
      | ask call pending =>
          obtain ⟨hasks, hruns⟩ := hstands.asks call pending hnext
          obtain ⟨hsession, hanswers⟩ := hkeeps backend turn.session call
          obtain ⟨hafter, hended⟩ := ih (hasks.stands hstands.knows hruns hanswers)
          simp only [Turn.run, hnext, hsession]
          refine ⟨hafter, fun hcalls => hended ?_⟩
          have hlt := hasks.calls_resume_lt (answer backend turn.session call).2.2
          omega
      | sleep runId => exact absurd hnext (hstands.awake runId)
      | done outcome =>
          simp only [Turn.run, hnext]
          exact ⟨hstands, fun _ => ⟨outcome, hnext⟩⟩

/-- Whatever was done before, the session knows its template. -/
theorem knows_foldl_perform {β : Type} {answer : Turn.Backend β} {archive : β → Archive}
    (hkeeps : Keeps (fun id => id ≠ "" ∧ trim id = id) answer archive) {start : Archive}
    (fuel : Nat) {state : β × Session} (hknows : Knows start (archive state.1) state.2)
    (acts : List Act) :
    let last := acts.foldl (Act.perform answer fuel) state
    Knows start (archive last.1) last.2 := by
  induction acts generalizing state with
  | nil => exact hknows
  | cons act rest ih =>
      apply ih
      cases act with
      | edit move => exact hknows.of_eq rfl rfl
      | operate operation => exact ((stands_begin hknows operation rfl).run hkeeps fuel).1.knows

/-- A new session on a document of this name. -/
def fresh (name : String) : Session :=
  { timeline := { limit := 100, present := Document.blank name } }

/-- Whatever was edited, loaded, saved and run before, a document that was saved is stored under the
version and the template that the session then names, and the template bears the document's name;
and a run that was started is one of exactly this version. -/
theorem saved_documents_are_stored {β : Type} (answer : Turn.Backend β) (archive : β → Archive)
    (hkeeps : Keeps (fun id => id ≠ "" ∧ trim id = id) answer archive) (backend : β)
    (session : Session) (hnew : session.templateId = none) (fuel : Nat) (hfuel : 2 ≤ fuel)
    (acts : List Act) (operation : Operation) :
    let state := acts.foldl (Act.perform answer fuel) (backend, session)
    let ran := Turn.run answer fuel state.1 (operation.begin state.2)
    (∃ outcome, ran.turn.next = .done outcome) ∧
    (∀ result, ran.turn.saved? = some result →
      ∃ version : Nat, result.version = some (version : Int) ∧
        Holds (archive backend) (archive ran.backend) ran.turn.session result.templateId version) ∧
    (ran.turn.started?.isSome →
      ∃ (id : String) (version : Nat),
        Holds (archive backend) (archive ran.backend) ran.turn.session id version ∧
        (archive ran.backend).runs = (.text id, .int version) :: (archive state.1).runs) := by
  intro state ran
  have hstart : Knows (archive backend) (archive backend) session :=
    { current := fun id hid => by cases hnew.symm.trans hid
      settled := fun id template hstored => .inr ⟨template, hstored, rfl⟩ }
  have hknows : Knows (archive backend) (archive state.1) state.2 :=
    knows_foldl_perform hkeeps fuel hstart acts
  obtain ⟨hstands, hended⟩ := (stands_begin hknows operation rfl).run hkeeps fuel
  refine ⟨hended ((Next.calls_le _).trans hfuel), fun result hsaved => ?_, fun hstarted => ?_⟩
  · exact hstands.ends _ (Turn.next_of_saved? hsaved)
  · obtain ⟨response, hresponse⟩ := Option.isSome_iff_exists.mp hstarted
    exact hstands.ends _ (Turn.next_of_started? hresponse)

theorem second_version_is_stored :
    let state := [.operate .save, .edit (.dispatch (.rename " First "))].foldl
      (Act.perform (shelf "t") 2) ({}, fresh "First")
    let saved := Turn.run (shelf "t") 2 state.1 (Operation.save.begin state.2)
    let started := Turn.run (shelf "t") 2 state.1 ((Operation.startRun .null 0).begin state.2)
    Holds {} saved.backend saved.turn.session "t" 2 ∧
      ∃ id version, Holds {} started.backend started.turn.session id version ∧
        started.backend.runs = (.text id, .int version) :: state.1.runs := by
  have hspec := saved_documents_are_stored (shelf "t") id (keeps_shelf (by decide)) {}
    (fresh "First") rfl 2 (Nat.le_refl 2) [.operate .save, .edit (.dispatch (.rename " First "))]
  simp only [id_eq] at hspec
  constructor
  · obtain ⟨version, hversion, hholds⟩ := (hspec .save).2.1
      { templateId := "t", version := some 2, created := false } (by decide +kernel)
    obtain rfl : version = 2 := by
      have hnumber : (2 : Int) = version := Option.some.inj hversion
      omega
    exact hholds
  · exact (hspec (.startRun .null 0)).2.2 (by decide +kernel)

/-- A name that was stored with white space around it stays as it is when a version is saved under
the document's name; and under an id that the backend gives with white space around it nothing is
found again. -/
theorem padded_forms_differ :
    (Keeps (fun id => trim id ≠ "") (shelf "t") id ∧
      let stored : StoredTemplate := { name := " Draft ", versions := [(1, .object [])] }
      let state := [.operate (.loadTemplate (.text "a") .null)].foldl
        (Act.perform (shelf "t") 2) ({ templates := [("a", stored)] }, fresh "First")
      let saved := Turn.run (shelf "t") 2 state.1 state.2.save
      saved.turn.saved? = some { templateId := "a", version := some 2, created := false } ∧
        (Fields.get? saved.backend.templates "a").map StoredTemplate.name = some " Draft " ∧
        Session.effectiveName saved.turn.session.document = "Draft") ∧
    (Keeps (fun id => trim id ≠ "") (shelf " t ") id ∧
      let saved := Turn.run (shelf " t ") 2 {} (fresh "First").save
      saved.turn.saved? = some { templateId := "t", version := some 1, created := true } ∧
        saved.turn.session.templateId = some "t" ∧
        (Fields.get? saved.backend.templates "t").isNone) := by
  refine ⟨⟨keeps_shelf (by decide), ?_⟩, keeps_shelf (by decide), ?_⟩
  · decide +kernel
  · decide +kernel

end Archive

end FlowGraph
