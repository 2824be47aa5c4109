/-
# What callers are promised

A caller is to see that a request failed: if it was not answered, or answered with another status
than one of success, the call fails, and the failure carries the status. Of a success the caller
gets the object that was sent back, and it fails if the content cannot be read.

Only the statuses from 400 to 599 are looked at. A redirection, or a status that nobody knows, is
taken for a success whenever its content could be that of one; the promise is kept by chance if the
content cannot be read. An answer is only looked at if the address of the request begins with a
scheme, as it does if the address of the backend has one.
-/

import FlowGraph.Proofs.Backend.Content
import FlowGraph.Proofs.Case
import FlowGraph.Proofs.Edit.Outline

namespace FlowGraph

/-! ## Schemes -/

namespace Address

/-- The scheme is there, and ends where a reader of the address takes it to end. -/
def IsScheme (scheme : List Char) : Prop :=
  scheme ≠ [] ∧ ∀ c ∈ scheme, c ≠ '/' ∧ c ≠ ':'

variable {address : Address} {parts : Parts}

theorem scheme_of_ofParts? (hparts : ofParts? parts = some address) :
    address.scheme = parts.scheme.map Char.toLower := by
  simp only [ofParts?, Option.bind_eq_bind, Option.bind_eq_some_iff] at hparts
  obtain ⟨host, -, port, -, hfits⟩ := hparts
  split at hfits
  · cases hfits
    rfl
  · cases hfits

theorem IsScheme.map_toLower {scheme : List Char} (hscheme : IsScheme scheme) :
    IsScheme (scheme.map Char.toLower) := by
  refine ⟨by simpa using hscheme.1, fun c hc => ?_⟩
  obtain ⟨d, hd, rfl⟩ := List.mem_map.mp hc
  rw [Ne, Ne, Text.toLower_eq_iff (by decide), Text.toLower_eq_iff (by decide)]
  exact hscheme.2 d hd

theorem IsScheme.isOpenable (hscheme : IsScheme address.scheme) : address.isOpenable = true := by
  obtain ⟨hne, hchars⟩ := hscheme
  have hfront : ∃ rest, address.front = address.scheme ++ ':' :: rest := by
    rw [front, if_neg hne]
    exact ⟨_, by simp only [List.append_assoc, List.cons_append, List.nil_append]; rfl⟩
  obtain ⟨rest, hrest⟩ := hfront
  have hname : address.front.takeWhile (fun c => c ≠ '/' && c ≠ ':') = address.scheme := by
    rw [hrest, List.takeWhile_append_of_pos]
    · simp
    · intro c hc
      simpa using hchars c hc
  rw [Address.isOpenable, hname, hrest, List.drop_left]
  simp [hne]

theorem scheme_of_ofText? {text : String} (htext : ofText? text = some address) :
    address.scheme = [] ∨ IsScheme address.scheme := by
  rw [ofText?] at htext
  split at htext
  · cases htext
  · rw [scheme_of_ofParts? htext]
    rw [Parts.ofChars]
    have hsplit (cs : List Char) : (splitScheme cs).1 = [] ∨ IsScheme (splitScheme cs).1 := by
      by_cases hnil : (splitScheme cs).1 = []
      · exact .inl hnil
      · refine .inr ⟨hnil, fun c hc => ?_⟩
        have hmem : c ∈ cs.takeWhile inScheme := by
          rw [splitScheme] at hc
          split at hc
          · split at hc
            · exact hc
            · cases hc
          · cases hc
        have hin := List.all_eq_true.mp List.all_takeWhile c hmem
        constructor <;> rintro rfl <;> exact absurd hin (by decide)
    dsimp only
    rcases hsplit (splitFirst '?' (splitFirst '#' text.toList).1).1 with hnil | hscheme
    · left
      rw [hnil]
      rfl
    · exact .inr hscheme.map_toLower

theorem scheme_of_withTarget? {target : List Char} {other : Address}
    (htarget : address.withTarget? target = some other) :
    other.scheme = address.scheme.map Char.toLower := by
  rw [withTarget?] at htarget
  exact scheme_of_ofParts? htarget

end Address

namespace Client

open Address

variable {client : Client} {call : Call} {request : Request}

theorem eq_some_of_addressed {found : Option Address} {address : Address}
    (haddressed : addressed found = .ok address) : found = some address := by
  cases found with
  | none => cases haddressed
  | some other => rw [Except.ok.inj haddressed]

/-- A client whose address has a scheme has a proper one. -/
theorem isScheme_of_ofSettings {settings : Fields Value}
    (hclient : ofSettings settings = .ok client) (hscheme : client.base.scheme ≠ []) :
    IsScheme client.base.scheme := by
  rw [ofSettings] at hclient
  dsimp only at hclient
  split at hclient
  · obtain ⟨base, hbase, hclient⟩ := exists_of_bind_eq_ok hclient
    split at hclient
    · cases hclient
    · obtain rfl := Except.ok.inj hclient
      obtain ⟨address, htext, hslash⟩ := Option.bind_eq_some_iff.mp (eq_some_of_addressed hbase)
      have hproper : address.scheme = [] ∨ IsScheme address.scheme := scheme_of_ofText? htext
      rw [withSlash?] at hslash
      split at hslash
      · obtain rfl := Option.some.inj hslash
        exact hproper.resolve_left hscheme
      · have hlower := scheme_of_withTarget? hslash
        rw [hlower] at hscheme ⊢
        exact (hproper.resolve_left fun hnil => hscheme (by rw [hnil, List.map_nil])).map_toLower
  · cases hclient

/-- A request goes where the address of the client goes. -/
theorem isScheme_of_request (hscheme : IsScheme client.base.scheme)
    (hrequest : client.request call = .ok request) : IsScheme request.address.scheme := by
  obtain ⟨-, -, hrequest⟩ := exists_of_bind_eq_ok hrequest
  split at hrequest
  · cases hrequest
  · dsimp only at hrequest
    obtain ⟨below, hbelow, hrequest⟩ := exists_of_bind_eq_ok hrequest
    obtain ⟨relative, -, htarget⟩ := Option.bind_eq_some_iff.mp (eq_some_of_addressed hbelow)
    have hproper : IsScheme below.scheme := by
      rw [scheme_of_withTarget? htarget]
      exact hscheme.map_toLower
    split at hrequest
    · obtain ⟨address, hpairs, hrequest⟩ := exists_of_bind_eq_ok hrequest
      obtain ⟨-, -, hrequest⟩ := exists_of_bind_eq_ok hrequest
      obtain rfl := Except.ok.inj hrequest
      rw [scheme_of_ofParts? (eq_some_of_addressed hpairs)]
      exact hproper.map_toLower
    · obtain ⟨address, haddress, hrequest⟩ := exists_of_bind_eq_ok hrequest
      obtain rfl := Except.ok.inj haddress
      obtain ⟨-, -, hrequest⟩ := exists_of_bind_eq_ok hrequest
      obtain rfl := Except.ok.inj hrequest
      exact hproper

/-! ## Answers -/

/-- The status of a success. -/
def IsSuccess (status : Int) : Prop := 200 ≤ status ∧ status ≤ 299

instance (status : Int) : Decidable (IsSuccess status) :=
  inferInstanceAs (Decidable (200 ≤ status ∧ status ≤ 299))

/-- The object that content stands for: an empty one without content, and what is no object is
wrapped in one. -/
def object? (body : Body) : Option Value :=
  if body.bytes = [] then some (.object [])
  else
    body.json?.map fun
      | .object fields => .object fields
      | value => .object [("data", value)]

/-- Content that is sent as a text stands for what the text says. -/
theorem object?_ofText {s : String} (hzero : Char.ofNat 0 ∉ s.toList)
    (hmark : s.toList.head? ≠ some '\uFEFF') :
    object? (Body.ofText s) =
      if s = "" then some (.object [])
      else
        (Json.read? s).map fun
          | .object fields => .object fields
          | value => .object [("data", value)] := by
  rw [object?, Body.json?_ofText hzero hmark]
  exact if_congr Body.bytes_ofText_eq_nil_iff rfl rfl

/-- What a caller is promised for what became of a request. -/
def Promised : Transfer → Reply → Prop
  | .failed _, reply => ∃ message, reply = .error (.backend message none)
  | .misaddressed, reply => ∃ failure, reply = .error failure
  | .answered status body, reply =>
    (¬ IsSuccess status → ∃ message, reply = .error (.backend message (some status))) ∧
      (IsSuccess status → ∀ value, object? body = some value → reply = .ok value) ∧
      (IsSuccess status → object? body = none →
        ∃ message code, reply = .error (.backend message code))

/-- What a caller gets for an answer that is looked at. -/
theorem receive_answered (hopenable : request.address.isOpenable = true) (status : Int)
    (body : Body) :
    Client.receive request (.answered status body) =
      if isRefusal status then .error (.backend (refusal status body) (some status))
      else match object? body with
        | some value => .ok value
        | none => .error (.backend ("Workflow backend returned invalid JSON for "
            ++ request.verb.name ++ " " ++ request.path) (some status)) := by
  rw [receive, hopenable, object?]
  by_cases hbody : body.bytes = []
  · simp [hbody]
  · simp only [Bool.not_true, Bool.false_eq_true, if_false, hbody]
    cases body.json? with
    | none => rfl
    | some value => cases value <;> rfl

theorem isRefusal_iff {status : Int} : isRefusal status = true ↔ 400 ≤ status ∧ status ≤ 599 := by
  simp [isRefusal]

/-- The promise is kept unless an answer is not looked at, for the address of the request, or has a
status of neither a success nor a refusal and content that could be that of a success. A client
whose address has a scheme has all answers looked at. -/
theorem receive_is_promised_iff {settings : Fields Value}
    (hclient : ofSettings settings = .ok client) (hrequest : client.request call = .ok request)
    (transfer : Transfer) :
    (client.base.scheme ≠ [] → request.address.isOpenable = true) ∧
      (Promised transfer (receive request transfer) ↔
        match transfer with
        | .answered status body =>
          request.address.isOpenable = true ∧
            (IsSuccess status ∨ (400 ≤ status ∧ status ≤ 599) ∨ object? body = none)
        | _ => True) := by
  refine ⟨fun hscheme => (isScheme_of_request (isScheme_of_ofSettings hclient hscheme)
    hrequest).isOpenable, ?_⟩
  cases transfer with
  | failed message => exact iff_of_true ⟨_, rfl⟩ trivial
  | misaddressed => exact iff_of_true ⟨_, rfl⟩ trivial
  | answered status body =>
      dsimp only [Promised]
      by_cases hopenable : request.address.isOpenable = true
      · rw [receive_answered hopenable, ← isRefusal_iff]
        have hapart : isRefusal status = true → ¬ IsSuccess status := by
          rw [isRefusal_iff, IsSuccess]
          omega
        by_cases hrefusal : isRefusal status = true
        · rw [if_pos hrefusal]
          have hnot := hapart hrefusal
          simp [hnot, hrefusal, hopenable]
        · rw [if_neg hrefusal]
          cases hobject : object? body with
          | none => simp [hopenable]
          | some value => simp [hopenable, hrefusal]
      · have hreceive : receive request (.answered status body) =
            .error (.unknownScheme request.address.shown) := by
          rw [receive, Bool.eq_false_iff.mpr hopenable]
          rfl
        rw [hreceive]
        by_cases hsuccess : IsSuccess status
        · cases hobject : object? body <;> simp [hopenable, hsuccess]
        · simp [hopenable, hsuccess]

/-- Settings that name an address with a scheme, and an organization. -/
def someSettings : Fields Value :=
  [("base_url", .text "http://test/api"), ("org_id", .text "org1")]

/-- A client of these settings sends a request for a run. -/
theorem exists_sent : ∃ client request, ofSettings someSettings = .ok client ∧
    client.request (.readRun (.text "r1")) = .ok request ∧ client.base.scheme ≠ [] := by
  have hsent : (do
      let client ← ofSettings someSettings
      let _ ← client.request (.readRun (.text "r1"))
      return decide (client.base.scheme ≠ []) : Except Failure Bool) = .ok true := by
    decide +kernel
  obtain ⟨client, hclient, hsent⟩ := exists_of_bind_eq_ok hsent
  obtain ⟨request, hrequest, hscheme⟩ := exists_of_bind_eq_ok hsent
  exact ⟨client, request, hclient, hrequest, of_decide_eq_true (Except.ok.inj hscheme)⟩

theorem listed_content_is_wrapped : ∃ client request, ofSettings someSettings = .ok client ∧
    client.request (.readRun (.text "r1")) = .ok request ∧
    receive request (.answered 200 "[1]") = .ok (.object [("data", .list [.int 1])]) := by
  obtain ⟨client, request, hclient, hrequest, hscheme⟩ := exists_sent
  obtain ⟨hopenable, hpromised⟩ :=
    receive_is_promised_iff hclient hrequest (.answered 200 (Body.ofText "[1]"))
  have hsuccess : IsSuccess 200 := by decide
  have hkept := hpromised.mpr ⟨hopenable hscheme, .inl hsuccess⟩
  have hcontent : object? (Body.ofText "[1]") = some (.object [("data", .list [.int 1])]) := by
    rw [object?_ofText (by decide) (by decide)]
    rfl
  exact ⟨client, request, hclient, hrequest, hkept.2.1 hsuccess _ hcontent⟩

/-- A redirection, and an answer that nothing has changed, look like successes. -/
theorem redirection_looks_like_success : ∃ client request, ofSettings someSettings = .ok client ∧
    client.request (.readRun (.text "r1")) = .ok request ∧
    receive request (.answered 302 "\x7b\x7d") = .ok (.object []) ∧
    receive request (.answered 304 "") = .ok (.object []) ∧
    ¬ Promised (.answered 304 "") (receive request (.answered 304 "")) := by
  obtain ⟨client, request, hclient, hrequest, hscheme⟩ := exists_sent
  have hopenable :=
    (isScheme_of_request (isScheme_of_ofSettings hclient hscheme) hrequest).isOpenable
  have hempty : receive request (.answered 304 (Body.ofText "")) = .ok (.object []) := by
    rw [receive_answered hopenable, object?_ofText (by decide) (by decide)]
    rfl
  refine ⟨client, request, hclient, hrequest, ?_, hempty, ?_⟩
  · rw [receive_answered hopenable, object?_ofText (by decide) (by decide)]
    rfl
  · rw [hempty]
    rintro ⟨hfails, -⟩
    obtain ⟨message, hfailed⟩ := hfails (by decide)
    cases hfailed

end Client

end FlowGraph
