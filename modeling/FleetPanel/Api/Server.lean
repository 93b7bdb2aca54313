/-
This file answers requests: those for resources of the panel, and all others by its static site.
-/

import FleetPanel.Api.Resource
import FleetPanel.Http.Site

namespace FleetPanel.Api

open Http

/-- What is told to a request for the head of a socket. -/
def noSocketHead : Answer :=
  (Answer.text 405 "Request method must be `GET`").withoutBody

/-- The answer to a request for a resource. -/
def answerResource (context : Context) (request : Request) (route : Route) : Reading Answer :=
  match request.method with
  | .get => resource context request.target.query route
  | .head =>
      match route with
      | .socket => .done noSocketHead
      | _ => (resource context request.target.query route).map Answer.withoutBody
  | .options => .done (.preflight true)
  | .other _ => .done .methodNotAllowed

/-- The answer to a request that names no resource. -/
def answerOther (site? : Option Site) (request : Request) : Answer :=
  match request.method, site? with
  | .options, _ => .preflight false
  | _, none => .notFound
  | _, some site => site.answer request

/-- The answer to a request. -/
def answer (context : Context) (site? : Option Site) (request : Request) : Reading Answer :=
  match Route.ofPath? request.target.path with
  | some route => answerResource context request route
  | none => .done (answerOther site? request)

/-- The answer of a panel that has its resources only. -/
def answerPlain (context : Context) (request : Request) : Reading Answer :=
  answer context none request

/-- The answer of a panel with a site beside its resources. -/
def answerWithSite (context : Context) (site : Site) (request : Request) : Reading Answer :=
  answer context (some site) request

end FleetPanel.Api
