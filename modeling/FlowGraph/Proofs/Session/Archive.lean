/-
# A backend that keeps versioned templates

What is saved ends up in an archive of templates, each with a name and numbered versions. A new
template gets a fresh id and the version one, a new version the number after the highest one, and a
definition is read as it is stored; any call may instead be refused and change nothing. Which of
these a backend does is left open. One that refuses only what it must shows that the account is not
empty.
-/

import FlowGraph.Proofs.Fields
import FlowGraph.Proofs.Session.Answers

namespace FlowGraph

/-- A template in an archive, with its versions. -/
structure StoredTemplate where
  name : String
  versions : List (Nat × Value)

namespace StoredTemplate

/-- The highest version number. -/
def newest (template : StoredTemplate) : Nat :=
  (template.versions.map Prod.fst).foldl max 0

/-- The definition under a version number. -/
def definition? (template : StoredTemplate) (number : Nat) : Option Value :=
  template.versions.lookup number

/-- The template with one more version. -/
def extend (template : StoredTemplate) (definition : Value) : StoredTemplate :=
  { template with versions := (template.newest + 1, definition) :: template.versions }

end StoredTemplate

/-- What a backend has stored: its templates, and the runs it started, the last one first. -/
structure Archive where
  templates : Fields StoredTemplate := []
  runs : List (Value × Value) := []

/-- The call is one that concerns the archive. -/
def Call.isArchival : Call → Bool
  | .createTemplate .. | .createVersion .. | .readDefinition .. | .startRun .. => true
  | _ => false

namespace Archive

variable {fits : String → Prop}

/-- The archive with a template stored under an id. -/
def put (archive : Archive) (id : String) (template : StoredTemplate) : Archive :=
  { archive with templates := Fields.set archive.templates id template }

/-- How a call may be answered, and what becomes of the archive. The ids of new templates are of a
form that the backend chooses. -/
inductive Answers (fits : String → Prop) : Archive → Call → Archive → Reply → Prop
  | refused (archive : Archive) (call : Call) (message : String) (status : Option Int) :
      Answers fits archive call archive (.error (.backend message status))
  | created {archive : Archive} {name id : String} {response : Value}
      (definition mode description note : Value) (hfits : fits id)
      (hfresh : Fields.get? archive.templates id = none)
      (hid : (response.field "template").field "id" = .text id)
      (hversion : Session.sentVersion response = .int 1) :
      Answers fits archive (.createTemplate (.text name) definition mode description note)
        (archive.put id { name, versions := [(1, definition)] }) (.ok response)
  | extended {archive : Archive} {id : String} {template : StoredTemplate} {response : Value}
      (definition mode note : Value) (hstored : Fields.get? archive.templates id = some template)
      (hversion : Session.sentVersion response = .int (template.newest + 1)) :
      Answers fits archive (.createVersion (.text id) definition mode note)
        (archive.put id (template.extend definition)) (.ok response)
  | read {archive : Archive} {id : String} {template : StoredTemplate} {number : Nat}
      {version definition response : Value}
      (hstored : Fields.get? archive.templates id = some template)
      (hnumber : version = .null ∧ number = template.newest ∨ version = .int number)
      (hdefinition : template.definition? number = some definition)
      (hid : (response.field "template").field "id" = .text id)
      (hname : (response.field "template").field "name" = .text template.name)
      (hversion : Session.sentVersion response = .int number)
      (hsent : (response.field "version").field "definition" = definition) :
      Answers fits archive (.readDefinition (.text id) version) archive (.ok response)
  | started {archive : Archive} {response : Value} (templateId version input context key : Value) :
      Answers fits archive (.startRun templateId version input context key)
        { archive with runs := (templateId, version) :: archive.runs } (.ok response)
  | other {archive : Archive} {call : Call} (reply : Reply) (hother : ¬ call.isArchival) :
      Answers fits archive call archive reply

/-- The backend answers as an archive does, and leaves the session alone. -/
def Keeps {β : Type} (fits : String → Prop) (answer : Turn.Backend β) (archive : β → Archive) :
    Prop :=
  ∀ backend session call, (answer backend session call).2.1 = session ∧
    (archive backend).Answers fits call (archive (answer backend session call).1)
      (answer backend session call).2.2

theorem get?_put (archive : Archive) (id : String) (template : StoredTemplate) :
    Fields.get? (archive.put id template).templates id = some template := by
  rw [put, Fields.get?_set, if_pos rfl]

/-! ## A backend -/

/-- The version that is asked for: a number, or the newest one. -/
def wanted? (template : StoredTemplate) : Value → Option Nat
  | .null => some template.newest
  | .int (.ofNat number) => some number
  | _ => none

/-- The answer to a call that a backend refuses. -/
def refusal : Reply := .error (.backend "refused" none)

/-- A backend of which the archive is all there is. It has one id for a new template. -/
def serve (newId : String) (archive : Archive) : Call → Archive × Reply
  | .createTemplate (.text name) definition _ _ _ =>
    match Fields.get? archive.templates newId with
    | none =>
      (archive.put newId { name, versions := [(1, definition)] },
        .ok (.object
          [("template", .object [("id", .text newId)]),
           ("version", .object [("version", .int 1)])]))
    | some _ => (archive, refusal)
  | .createVersion (.text id) definition _ _ =>
    match Fields.get? archive.templates id with
    | some template =>
      (archive.put id (template.extend definition),
        .ok (.object [("version", .object [("version", .int (template.newest + 1))])]))
    | none => (archive, refusal)
  | .readDefinition (.text id) version =>
    match Fields.get? archive.templates id with
    | some template =>
      match wanted? template version with
      | some number =>
        match template.definition? number with
        | some definition =>
          (archive, .ok (.object
            [("template", .object [("id", .text id), ("name", .text template.name)]),
             ("version", .object [("version", .int number), ("definition", definition)])]))
        | none => (archive, refusal)
      | none => (archive, refusal)
    | none => (archive, refusal)
  | .startRun templateId version _ _ _ =>
    ({ archive with runs := (templateId, version) :: archive.runs },
      .ok (.object [("run", .object [("id", .text "run")])]))
  | _ => (archive, refusal)

/-- The backend that serves an archive. -/
def shelf (newId : String) : Turn.Backend Archive := fun archive session call =>
  let (next, reply) := archive.serve newId call
  (next, session, reply)

theorem eq_of_wanted? {template : StoredTemplate} {version : Value} {number : Nat}
    (hwanted : wanted? template version = some number) :
    version = .null ∧ number = template.newest ∨ version = .int number := by
  rw [wanted?.eq_def] at hwanted
  split at hwanted
  · exact .inl ⟨rfl, (Option.some.inj hwanted).symm⟩
  · exact .inr (congrArg _ (congrArg Int.ofNat (Option.some.inj hwanted)))
  · cases hwanted

/-- Such a backend keeps its templates. -/
theorem keeps_shelf {newId : String} (hfits : fits newId) : Keeps fits (shelf newId) id := by
  intro archive session call
  refine ⟨rfl, ?_⟩
  change archive.Answers fits call (archive.serve newId call).1 (archive.serve newId call).2
  rw [serve.eq_def]
  split
  · next name definition mode description note =>
    split
    · next hfresh => exact .created definition mode description note hfits hfresh rfl rfl
    · exact .refused ..
  · next id definition mode note =>
    split
    · next template hstored => exact .extended definition mode note hstored rfl
    · exact .refused ..
  · next id version =>
    split
    · next template hstored =>
      split
      · next number hnumber =>
        split
        · next definition hdefinition =>
          exact .read hstored (eq_of_wanted? hnumber) hdefinition rfl rfl rfl rfl
        · exact .refused ..
      · exact .refused ..
    · exact .refused ..
  · exact .started ..
  · exact .refused ..

end Archive

end FlowGraph
