/-
This file holds requests and answers.
-/

import FleetPanel.Http.Target
import FleetPanel.Json.Basic

namespace FleetPanel.Http

inductive Method where
  | get
  | head
  | options
  | other (name : String)
deriving DecidableEq, Repr

def Method.ofName : String → Method
  | "GET" => get
  | "HEAD" => head
  | "OPTIONS" => options
  | name => other name

structure Request where
  method : Method
  target : Target
deriving DecidableEq, Repr

inductive Body where
  | empty
  | json (value : Json)
  | text (content : String)
  | octets (content : List UInt8)
deriving Repr

/-- An answer with the headers that the panel sets. Every origin is allowed to read it. -/
structure Answer where
  status : Nat
  contentType? : Option String := none
  allow? : Option String := none
  location? : Option String := none
  body : Body := .empty
deriving Repr

namespace Answer

/-- The origins that may read an answer. -/
def allowedOrigin : String := "*"

def plain (status : Nat) : Answer :=
  { status }

def json (value : Json) : Answer :=
  { status := 200, contentType? := some "application/json", body := .json value }

def text (status : Nat) (message : String) : Answer :=
  { status, contentType? := some "text/plain; charset=utf-8", body := .text message }

/-- What was asked for is found at another place. -/
def redirect (location : String) : Answer :=
  { status := 307, location? := some location }

def notFound : Answer := plain 404

def allowedMethods : String := "GET,HEAD"

def methodNotAllowed : Answer :=
  { plain 405 with allow? := some allowedMethods }

/-- The answer to a question about a resource's methods. -/
def preflight (isKnown : Bool) : Answer :=
  { plain 200 with allow? := if isKnown then some allowedMethods else none }

def withoutBody (answer : Answer) : Answer :=
  { answer with body := .empty }

/-- A header holds tabs, spaces and the visible characters of ASCII. -/
def isHeaderCharacter (character : Char) : Bool :=
  character == '\t' || (' ' ≤ character && character ≤ '~')

/-- A location is sent as a header. -/
def isSendable (answer : Answer) : Bool :=
  answer.location?.all fun location => location.toList.all isHeaderCharacter

end Answer

end FleetPanel.Http
