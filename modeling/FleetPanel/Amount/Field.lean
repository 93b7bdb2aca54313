/-
This file reads the amount of a row's field, which may be a number or a text.
-/

import FleetPanel.Amount.Numeral
import FleetPanel.Json.Number

namespace FleetPanel.Amount

/-- The number of a field. A missing field and any other value give NaN. -/
def ofField : Option Json → Binary64
  | some (.string text) => ofText text
  | some value => (Json.number? value).getD .nan
  | none => .nan

end FleetPanel.Amount
