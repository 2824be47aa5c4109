/-
# Handles and readiness of routers

The free-form configuration of a router is read twice: for the handles that edges can be drawn from,
and for the check that there is a route at all. Both come to one list, of the keys of the routes and
the default route. The handles are this list without repeats, and the check passes just if there is
something in it. A text or a mapping in the place of the list of routes is walked for handles and
holds none, and the check does not look into it.

The two readings part where something is configured that cannot be walked. The check takes a number,
or true, for no routes; the handles cannot be told at all.
-/

import FlowGraph.Catalog.Handles
import FlowGraph.Proofs.Catalog
import FlowGraph.Proofs.Trim
import FlowGraph.Readiness.Check

namespace FlowGraph

open Text

/-- The value is a number that is not zero, or true: it counts as something and holds no items. -/
def Value.isCount (value : Value) : Bool :=
  match value with
  | .bool _ | .int _ | .float _ => value.isTruthy
  | _ => false

/-! ## The routes of a configuration -/

/-- The default route, if there is one. -/
def defaultRoutes (config : Fields Value) : List String :=
  let fallback := ((Fields.get? config "default_route").getD .null).trimmedText
  if fallback = "" then [] else [fallback]

/-- The keys of the routes in a list of routes, and the default route. -/
def routeNames (config : Fields Value) : List String :=
  (((Fields.get? config "routes").bind Value.asList?).getD []).filterMap routeKey
    ++ defaultRoutes config

theorem isSome_routeKey (route : Value) :
    (routeKey route).isSome = Readiness.Context.holdsText "key" "id" route := by
  cases route with
  | object fields =>
      rw [routeKey, Readiness.Context.holdsText]
      split <;> simp_all
  | _ => rfl

theorem trim_of_routeKey {route : Value} {key : String} (hkey : routeKey route = some key) :
    trim key ≠ "" := by
  cases route with
  | object fields =>
      rw [routeKey] at hkey
      split at hkey
      · cases hkey
      · next hne =>
        obtain rfl := Option.some.inj hkey
        rwa [Value.trimmedText, trim_trim]
  | _ => cases hkey

theorem trim_of_mem_routeNames {config : Fields Value} {name : String}
    (hname : name ∈ routeNames config) : trim name ≠ "" := by
  rcases List.mem_append.mp hname with hkey | hdefault
  · obtain ⟨route, -, hroute⟩ := List.mem_filterMap.mp hkey
    exact trim_of_routeKey hroute
  · rw [defaultRoutes] at hdefault
    split at hdefault
    · cases hdefault
    · next hne =>
      obtain rfl := List.mem_singleton.mp hdefault
      rwa [Value.trimmedText, trim_trim]

/-- Items that are texts are no routes. -/
theorem filterMap_routeKey_text {α : Type} (f : α → String) (items : List α) :
    (items.map fun item => Value.text (f item)).filterMap routeKey = [] := by
  rw [List.filterMap_eq_nil_iff]
  intro item hitem
  obtain ⟨_, _, rfl⟩ := List.mem_map.mp hitem
  rfl

/-- What is configured as routes is refused if it cannot be walked, and otherwise has the keys of
a list of routes. -/
theorem walk_routes (routes : Value) :
    if routes.isCount then (routes.orElse (.list [])).walk = .error .unsuitable
    else ∃ items, (routes.orElse (.list [])).walk = .ok items ∧
      items.filterMap routeKey = (routes.asList?.getD []).filterMap routeKey := by
  cases routes with
  | list items =>
      cases items with
      | nil => exact ⟨[], rfl, rfl⟩
      | cons item rest => exact ⟨item :: rest, rfl, rfl⟩
  | text s =>
      by_cases hs : s = ""
      · subst hs
        exact ⟨[], rfl, rfl⟩
      · refine ⟨s.toList.map fun c => .text (String.ofList [c]), ?_, filterMap_routeKey_text _ _⟩
        simp [Value.orElse, Value.isTruthy, hs, Value.walk]
  | object fields =>
      cases fields with
      | nil => exact ⟨[], rfl, rfl⟩
      | cons pair rest => exact ⟨_, rfl, filterMap_routeKey_text Prod.fst (pair :: rest)⟩
  | null => exact ⟨[], rfl, rfl⟩
  | bool b =>
    cases b
    · exact ⟨[], rfl, rfl⟩
    · rfl
  | int n =>
      by_cases hn : n = 0 <;>
        simp [Value.isCount, Value.isTruthy, Value.orElse, hn, Value.walk, Value.asList?]
  | float x =>
      by_cases hx : (x == 0) = true <;>
        simp [Value.isCount, Value.isTruthy, Value.orElse, hx, Value.walk, Value.asList?]

/-- The handles of a router are its routes without repeats, if what is configured as routes can be
walked. -/
theorem routeHandles_eq (config : Fields Value) :
    routeHandles config =
      if ((Fields.get? config "routes").getD .null).isCount then .error .unsuitable
      else .ok (Document.distinct (routeNames config)) := by
  have hwalk := walk_routes ((Fields.get? config "routes").getD .null)
  have hlist : ((Fields.get? config "routes").getD .null).asList? =
      (Fields.get? config "routes").bind Value.asList? := by
    cases Fields.get? config "routes" <;> rfl
  have hnames (keys : List String) :
      (if ((Fields.get? config "default_route").getD .null).trimmedText = "" then keys
        else keys ++ [((Fields.get? config "default_route").getD .null).trimmedText]) =
      keys ++ defaultRoutes config := by
    rw [defaultRoutes]
    split <;> simp
  split at hwalk
  · next hcount =>
    rw [if_pos hcount, routeHandles, hwalk]
    rfl
  · next hcount =>
    obtain ⟨items, hitems, hkeys⟩ := hwalk
    rw [if_neg hcount, routeHandles, hitems, routeNames, ← hlist, ← hkeys, ← hnames]
    rfl

namespace Readiness

variable {document : Document} {stages : Fields Int} {node : Node}

theorem settingText_default_ne_iff :
    (Context.of document stages node).settingText "default_route" ≠ "" ↔
      defaultRoutes node.config ≠ [] := by
  rw [defaultRoutes]
  change ((Fields.get? node.config "default_route").getD .null).trimmedText ≠ "" ↔ _
  split <;> simp_all

/-- The check passes just if there is a route. -/
theorem passes_routes_iff :
    (Context.of document stages node).passes .routes = true ↔ routeNames node.config ≠ [] := by
  have hlist : (Context.of document stages node).anyItem "routes" (Context.holdsText "key" "id") =
      (((Fields.get? node.config "routes").bind Value.asList?).getD []).any
        fun route => (routeKey route).isSome := by
    simp only [isSome_routeKey]
    rw [Context.anyItem, show (Context.of document stages node).node = node from rfl, Node.setting]
    cases Fields.get? node.config "routes" with
    | none => rfl
    | some routes => cases routes <;> rfl
  have hkeys (items : List Value) :
      (items.any fun route => (routeKey route).isSome) = true ↔ items.filterMap routeKey ≠ [] := by
    rw [Ne, List.filterMap_eq_nil_iff]
    simp [Option.isSome_iff_ne_none]
  rw [Context.passes, Context.hasRoute, Bool.or_eq_true, hlist, hkeys, decide_eq_true_iff,
    settingText_default_ne_iff, routeNames, Ne, Ne, Ne, List.append_eq_nil_iff, not_and_or]

/-- What counts as something and holds no items is no list of routes. -/
theorem routeNames_of_isCount {config : Fields Value}
    (hcount : ((Fields.get? config "routes").getD .null).isCount) :
    routeNames config = defaultRoutes config := by
  rw [routeNames]
  cases hroutes : Fields.get? config "routes" with
  | none => simp
  | some routes =>
      have hlist : routes.asList? = none := by
        rw [hroutes, Option.getD_some] at hcount
        cases routes <;> simp_all [Value.isCount, Value.asList?]
      simp [hlist]

/-- How the check for routes is called where it fails. -/
def routesLabel : String := "At least one route (or set a Default Route)"

/-- The label is reported on the node among those that have to be set up. -/
def Reports (document : Document) (stages : Fields Int) (node : Node) (label : String) : Prop :=
  ∃ issue, issue? document stages node = some issue ∧ label ∈ issue.setupMissing

theorem reports_iff {label : String} :
    Reports document stages node label ↔ ∃ requirement ∈ requirementsFor node,
      (Context.of document stages node).satisfies requirement = false ∧
        requirement.setup = true ∧ requirement.label = label := by
  rw [Reports, issue?]
  constructor
  · rintro ⟨issue, hissue, hlabel⟩
    split at hissue
    · cases hissue
    · cases hissue
      obtain ⟨requirement, hrequirement, hname⟩ := List.mem_map.mp hlabel
      obtain ⟨hmissing, hsetup⟩ := List.mem_filter.mp hrequirement
      obtain ⟨hmem, hunmet⟩ := List.mem_filter.mp hmissing
      exact ⟨requirement, hmem, by simpa using hunmet, hsetup, hname⟩
  · rintro ⟨requirement, hmem, hunmet, hsetup, hname⟩
    have hmissing : requirement ∈ missing document stages node :=
      List.mem_filter.mpr ⟨hmem, by simpa using hunmet⟩
    split
    · next hnone =>
      rw [hnone] at hmissing
      cases hmissing
    · exact ⟨_, rfl,
        List.mem_map.mpr ⟨requirement, List.mem_filter.mpr ⟨hmissing, hsetup⟩, hname⟩⟩

theorem type?_flow : Catalog.type? "flow" = some Palette.flow := by rfl

theorem kind?_of_flow (htype : node.type = "flow") : node.kind? = some Palette.flow := by
  rw [Node.kind?, htype, type?_flow]

/-- The requirements of a router are those of its mode, unless its backend key has its own. -/
theorem requirementsFor_router (htype : node.type = "flow") (hmode : node.mode = "router") :
    requirementsFor node =
      (Catalog.standard.specialized? node.refKey).getD
        (Palette.flow.modeOrDefault (some "router")).requirements := by
  have hrecord : node.modeRecord? = some (Palette.flow.modeOrDefault (some "router")) := by
    rw [Node.modeRecord?, Catalog.mode?, Registry.lookupMode?, htype, hmode,
      show Catalog.standard.type? "flow" = some Palette.flow from type?_flow, Option.map_some]
  have htakesPart : (Palette.flow.sourceOnly || Palette.flow.builderOnly) = false := by
    decide +kernel
  rw [requirementsFor, Node.isSourceOnly, Node.isBuilderOnly, kind?_of_flow htype, hrecord,
    Option.any_some, Option.any_some, htakesPart, Option.map_some, Option.getD_some]
  cases Catalog.standard.specialized? node.refKey <;> simp

/-- A router's missing routes are reported just if the check fails, unless its backend key has
requirements of its own. -/
theorem reports_routes_iff (htype : node.type = "flow") (hmode : node.mode = "router") :
    Reports document stages node routesLabel ↔
      (Context.of document stages node).passes .routes = false ∧
        Catalog.standard.specialized? node.refKey = none := by
  have hown : ∀ requirements ∈ Catalog.specializedRules.map Prod.snd,
      ∀ requirement ∈ requirements, requirement.label ≠ routesLabel := by decide +kernel
  have hmodes : ∀ requirement ∈ (Palette.flow.modeOrDefault (some "router")).requirements,
      requirement.label = routesLabel →
        requirement.setup = true ∧ requirement.check = some .routes := by decide +kernel
  have hthere : ∃ requirement ∈ (Palette.flow.modeOrDefault (some "router")).requirements,
      requirement.label = routesLabel := by decide +kernel
  rw [reports_iff, requirementsFor_router htype hmode]
  cases hspecialized : Catalog.standard.specialized? node.refKey with
  | some requirements =>
      have hrules := hown requirements (Catalog.mem_of_specialized? hspecialized)
      constructor
      · rintro ⟨requirement, hmem, -, -, hlabel⟩
        exact absurd hlabel (hrules requirement hmem)
      · rintro ⟨-, hnone⟩
        cases hnone
  | none =>
      rw [Option.getD_none]
      constructor
      · rintro ⟨requirement, hmem, hunmet, -, hlabel⟩
        rw [Context.satisfies, (hmodes requirement hmem hlabel).2] at hunmet
        exact ⟨hunmet, rfl⟩
      · rintro ⟨hfails, -⟩
        obtain ⟨requirement, hmem, hlabel⟩ := hthere
        obtain ⟨hsetup, hcheck⟩ := hmodes requirement hmem hlabel
        refine ⟨requirement, hmem, ?_, hsetup, hlabel⟩
        rw [Context.satisfies, hcheck]
        exact hfails

/-- The handles of a router are told just if what is configured as routes can be walked. They are
distinct and not blank, and there is one just if the check for routes passes. Where they cannot be
told, the check only asks for a default route. Its label is reported just if the check fails,
unless the backend key of the router has requirements of its own. -/
theorem handles_agree_with_check (htype : node.type = "flow") (hmode : node.mode = "router")
    (document : Document) (stages : Fields Int) :
    ∃ kind, node.kind? = some kind ∧
      let handles := kind.outputHandles (some node.mode) (.object node.config)
      let context := Context.of document stages node
      (if (node.setting "routes").isCount then
        handles = .error .unsuitable ∧
          (context.passes .routes = true ↔ context.settingText "default_route" ≠ "")
      else
        ∃ names, handles = .ok names ∧ names.Nodup ∧ (∀ name ∈ names, trim name ≠ "") ∧
          (names ≠ [] ↔ context.passes .routes = true)) ∧
      (Reports document stages node routesLabel ↔
        context.passes .routes = false ∧ Catalog.standard.specialized? node.refKey = none) := by
  refine ⟨Palette.flow, kind?_of_flow htype, ?_⟩
  intro handles context
  have hhandles : handles = routeHandles node.config := by
    have hroutes : Palette.flow.routingFor (some "router") = .route := by decide +kernel
    have hemits : Palette.flow.emitsHandles = true := by decide +kernel
    simp only [handles, hmode, NodeType.outputHandles, hroutes, hemits, if_true]
  refine ⟨?_, reports_routes_iff htype hmode⟩
  rw [hhandles, routeHandles_eq]
  split
  · next hcount =>
    refine ⟨if_pos hcount, ?_⟩
    rw [passes_routes_iff, routeNames_of_isCount hcount, settingText_default_ne_iff]
  · next hwalks =>
    refine ⟨_, if_neg hwalks, Document.nodup_distinct _, fun name hname => ?_, ?_⟩
    · exact trim_of_mem_routeNames (Document.mem_distinct_iff.mp hname)
    · rw [Ne, Document.distinct_eq_nil_iff, passes_routes_iff]

/-- A router with the given routes and nothing else configured. -/
def router (routes : Value) : Node :=
  { id := "router", type := "flow", data := { mode := "router", config := [("routes", routes)] } }

theorem handles_of_listed_routes :
    let node := router (.list [.object [("key", .text "left")], .object [("id", .text " left ")]])
    Palette.flow.outputHandles (some "router") (.object node.config) = .ok ["left"] ∧
      ¬ Reports {} [] node routesLabel := by
  intro node
  have hleft : Palette.flow.outputHandles (some "router") (.object node.config) = .ok ["left"] := by
    decide +kernel
  have htype : node.type = "flow" := rfl
  obtain ⟨kind, hkind, hagree, hreports⟩ := handles_agree_with_check htype rfl {} []
  obtain rfl : Palette.flow = kind := Option.some.inj ((kind?_of_flow htype).symm.trans hkind)
  rw [if_neg (by decide +kernel)] at hagree
  obtain ⟨names, hnames, -, -, hpasses⟩ := hagree
  cases hleft.symm.trans hnames
  refine ⟨hleft, fun hreported => ?_⟩
  rw [hpasses.mp (List.cons_ne_nil _ _)] at hreports
  cases (hreports.mp hreported).1

/-- A number in the place of the routes fails the check, and then the handles cannot be told. -/
theorem handles_of_counted_routes :
    let node := router (.int 5)
    node.kind? = some Palette.flow ∧
      Palette.flow.outputHandles (some "router") (.object node.config) = .error .unsuitable ∧
      (Context.of {} [] node).passes .routes = false := by
  exact ⟨kind?_of_flow rfl, by decide +kernel, by decide +kernel⟩

end Readiness

end FlowGraph
