/-
This file shows that a site of static files never stands before the resources of the panel. A
request for a resource is answered as without the site, and any other request by the site alone,
whatever the panel holds.
-/

import FleetPanel.Live.Session
import FleetPanel.Proofs.Http.Paths

namespace FleetPanel.Api

open Http

variable {request : Request}

/-- At a resource no site is asked. -/
theorem answerAtResource (resource : IsResource request.target.path) (context : Context)
    (site? other? : Option Site) :
    answer context site? request = answer context other? request := by
  obtain ⟨route, isAt⟩ := resource
  simp only [answer, Route.ofPathIff.mpr isAt]

/-- Where there is no resource nothing else is asked. -/
theorem answerElsewhere (noResource : ¬ IsResource request.target.path) (context : Context)
    (site? : Option Site) : answer context site? request =
      .done (if request.method = .options then .preflight false
        else (site?.map (·.answer request)).getD .notFound) := by
  simp only [answer, Route.ofPathNone.mpr noResource, answerOther]
  cases request.method <;> cases site? <;> rfl

end FleetPanel.Api

namespace FleetPanel.Live

open Http

/-- All requests of some steps are for resources of the panel. -/
def OnlyResources (steps : List Step) : Prop :=
  ∀ request, Step.request request ∈ steps → IsResource request.target.path

namespace Session

/-- A session with another site, or without any. -/
def withSite (session : Session) (site? : Option Site) : Session :=
  { session with site? }

variable (session : Session) (site? : Option Site)

theorem writeWithSite (which : Which) (entry : Exports.Entry) :
    (session.withSite site?).write which entry = (session.write which entry).withSite site? := by
  cases written : session.world.write? which entry <;> simp [write, withSite, written]

theorem closeWithSite (socket : Nat) :
    (session.withSite site?).close socket = (session.close socket).withSite site? := by
  cases closed : session.world.disconnect? socket <;> simp [close, withSite, closed]

theorem unwatchWithSite :
    (session.withSite site?).unwatch = session.unwatch.withSite site? := by
  cases closed : session.world.closeWatch? <;> simp [unwatch, withSite, closed]

theorem watchWithSite : (session.withSite site?).watch =
    (session.watch.1, session.watch.2.withSite site?) := by
  cases opened : session.world.openWatch? with
  | some world => simp [watch, withSite, opened]
  | none => cases directory : session.world.directory? <;> simp [watch, withSite, opened, directory]

/-- What a step does with another site. The site stays. -/
def changeSite (moved : Outcome × Session) : Outcome × Session :=
  (moved.1, moved.2.withSite site?)

theorem requestWithSite {request : Request} (resource : IsResource request.target.path) :
    (session.withSite site?).request request =
      (session.request request).map (changeSite site?) := by
  have same : (session.withSite site?).answer request = session.answer request :=
    congrArg (·.alone session.world.snapshot)
      (Api.answerAtResource resource session.context site? session.site?)
  simp only [Session.request, same]
  split <;> rfl

/-- A step that asks for resources only does the same with another site. -/
theorem stepWithSite {step : Step} (resources : OnlyResources [step]) :
    (session.withSite site?).step step = (session.step step).map (changeSite site?) := by
  cases step with
  | write which entry => simp only [Session.step, writeWithSite, Except.map, changeSite]
  | writeWatched which entry =>
      simp only [Session.step, writeWithSite, Except.map, changeSite]
      rfl
  | close socket => simp only [Session.step, closeWithSite, Except.map, changeSite]
  | watch => simp only [Session.step, watchWithSite, Except.map, changeSite]
  | unwatch => simp only [Session.step, unwatchWithSite, Except.map, changeSite]
  | request request => exact session.requestWithSite site? (resources request List.mem_cons_self)
  | _ => rfl

/-- Steps that ask for resources only have the same outcomes with another site. -/
theorem runWithSite {steps : List Step} (resources : OnlyResources steps) :
    (session.withSite site?).run steps = session.run steps := by
  induction steps generalizing session with
  | nil => rfl
  | cons step rest inductionHypothesis =>
      have first : OnlyResources [step] := fun request inside =>
        resources request (List.mem_cons.mpr (.inl (List.mem_singleton.mp inside)))
      have later : OnlyResources rest := fun request inside =>
        resources request (List.mem_cons_of_mem step inside)
      rw [run, run, session.stepWithSite site? first]
      cases session.step step with
      | error breakdown => rfl
      | ok moved =>
          have same := inductionHypothesis moved.2 later
          exact congrArg (fun outcomes => (outcomes.map (moved.1 :: ·))) same

end Session

/-- A panel with a site answers every request for a resource as a panel without one, in every state
and throughout a session. Any other request is answered by the site alone, without a look at the
snapshot, and without a site there is nothing. A question about methods is always answered. -/
theorem sitesNeverShadow (site : Site) :
    (∀ (context : Api.Context) (request : Request), IsResource request.target.path →
      Api.answerWithSite context site request = Api.answerPlain context request) ∧
    (∀ (context : Api.Context) (request : Request), ¬ IsResource request.target.path →
      Api.answerWithSite context site request =
          .done (if request.method = .options then .preflight false else site.answer request) ∧
        Api.answerPlain context request =
          .done (if request.method = .options then .preflight false else .notFound)) ∧
    ∀ (session : Session) (steps : List Step), OnlyResources steps →
      (session.withSite (some site)).run steps = (session.withSite none).run steps := by
  refine ⟨?_, ?_, ?_⟩
  · intro context request resource
    exact Api.answerAtResource resource context (some site) none
  · intro context request noResource
    exact ⟨Api.answerElsewhere noResource context (some site),
      Api.answerElsewhere noResource context none⟩
  · intro session steps resources
    rw [session.runWithSite (some site) resources, session.runWithSite none resources]

/-- The file of a site at the path of a node is not shown. The index of the directory of such files
is shown, since no resource has a slash at its end. -/
theorem nodeNotShadowed :
    let site := Site.ofTexts [("api/nodes/a", "shadow"), ("api/nodes/index.html", "index")]
    let session := Session.begin (World.start none .missing)
      (.still ⟨⟨2026, 5, 17, by decide⟩, .ofNumbers 12 0 0 0⟩ 60) none
    let request (path : String) : Request := ⟨.get, ⟨path.toList, []⟩⟩
    let steps := [.request (request "/api/nodes/a"), .connect]
    IsResource "/api/nodes/a".toList ∧ ¬ IsResource "/api/nodes/".toList ∧ OnlyResources steps ∧
      (session.withSite (some site)).answer (request "/api/nodes/a") = .notFound ∧
      (session.withSite (some site)).answer (request "/api/nodes/") =
        Site.answerFile "index.html" (Text.Utf8.encode "index".toList) ∧
      (session.withSite (some site)).run steps =
        .ok [.answered .notFound, .greeted session.counts] := by
  intro site session request steps
  have resource : IsResource "/api/nodes/a".toList :=
    ⟨.node ['a'], Route.ofPathIff.mp (by decide)⟩
  have noResource : ¬ IsResource "/api/nodes/".toList := Route.ofPathNone.mp (by decide)
  have resources : OnlyResources steps := by
    intro asked inside
    simp only [steps, List.mem_cons, Step.request.injEq, reduceCtorEq, List.not_mem_nil, or_false]
      at inside
    exact inside ▸ resource
  obtain ⟨atResource, elsewhere, throughout⟩ := sitesNeverShadow site
  have same := atResource session.context (request "/api/nodes/a") resource
  have shown := (elsewhere session.context (request "/api/nodes/") noResource).1
  refine ⟨resource, noResource, resources, ?_, ?_, ?_⟩
  · exact (congrArg (·.alone session.world.snapshot) same).trans rfl
  · exact (congrArg (·.alone session.world.snapshot) shown).trans rfl
  · exact (throughout session steps resources).trans rfl

end FleetPanel.Live
