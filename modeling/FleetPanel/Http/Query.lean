/-
This file reads form-encoded queries.
-/

import FleetPanel.Http.Percent
import FleetPanel.Http.Target

namespace FleetPanel.Http

/-- A key or a value of a query. A plus sign stands for a space, and octets that are no text are
replaced. -/
def formText (part : List Char) : String :=
  let spaced := part.map fun character => if character == '+' then ' ' else character
  String.ofList (Text.Utf8.decodeLossy (decodePercent (Text.Utf8.encode spaced)))

/-- A pair of a query. Without an equals sign the value is empty. -/
def formPair (part : List Char) : String × String :=
  let (key, value) := part.span (· != '=')
  (formText key, formText (value.drop 1))

/-- The pairs of a query in their order. -/
def formPairs (query : List Char) : List (String × String) :=
  ((splitOn '&' query).filter fun part => !part.isEmpty).map formPair

end FleetPanel.Http
