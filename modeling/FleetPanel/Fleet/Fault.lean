/-
This file says what can be wrong with a value of a record, and in which words.
-/

import FleetPanel.Fleet.Status
import FleetPanel.Json.Number
import FleetPanel.Text.Quoted
import FleetPanel.Time.Relaxed

namespace FleetPanel.Fleet

/-- The closed sets, as far as messages tell them apart. -/
inductive Kind where
  | nodeStatus
  | instanceState
deriving DecidableEq, Repr

namespace Kind

def title : Kind → String
  | nodeStatus => "node status"
  | instanceState => "instance state"

def names : Kind → List String
  | nodeStatus => NodeStatus.set.names
  | instanceState => InstanceState.set.names

end Kind

/-- A name or a tag that denotes no value of a closed set. -/
inductive EnumerationFault where
  | unknownName (kind : Kind) (name : String)
  | unknownTag (kind : Kind) (tag : Nat)
deriving DecidableEq, Repr

def EnumerationFault.message : EnumerationFault → String
  | unknownName kind name =>
      let title := kind.title
      let names := ", ".intercalate kind.names
      s!"Invalid {title}: {name}. Valid values: {names}"
  | unknownTag kind tag =>
      let title := kind.title
      s!"Unknown {title} tag {tag}"

/-- What a field or a whole record is written as. -/
inductive Shape where
  | text
  | truth
  | count
  | timestamp
  | node
  | instance_
deriving DecidableEq, Repr

def Shape.title : Shape → String
  | text => "a string"
  | truth => "a boolean"
  | count => "u32"
  | timestamp => "an RFC 3339 formatted date and time string"
  | node => "struct Node"
  | instance_ => "struct Instance"

/-- Why a JSON value is no record, or no value of a field. -/
inductive DecodeFault where
  | wrongShape (found : Json) (wanted : Shape)
  | outOfRange (found : Int)
  | timestamp (fault : Time.Fault)
  | enumeration (fault : EnumerationFault)
  | neitherNameNorTag
  | missingField (key : String)
  | tooShort (length : Nat) (wanted : Shape) (full : Nat)
  | tooLong (length : Nat)
deriving Repr

/-- A JSON value in a few words. -/
def describe : Json → String
  | .null => "null"
  | .boolean value => if value then "boolean `true`" else "boolean `false`"
  | .integer value => "integer `" ++ String.ofList (Json.integerText value) ++ "`"
  | .float value => "floating point `" ++ String.ofList (Json.floatText value) ++ "`"
  | .string value => "string " ++ Text.quoted value
  | .array _ => "sequence"
  | .object _ => "map"

def DecodeFault.message : DecodeFault → String
  | wrongShape found wanted =>
      let found := describe found
      let wanted := wanted.title
      s!"invalid type: {found}, expected {wanted}"
  | outOfRange found =>
      let found := describe (.integer found)
      let wanted := Shape.count.title
      s!"invalid value: {found}, expected {wanted}"
  | timestamp fault => fault.message
  | enumeration fault => fault.message
  | neitherNameNorTag => "data did not match any variant of untagged enum EnumRepr"
  | missingField key => s!"missing field `{key}`"
  | tooShort length wanted full =>
      let wanted := wanted.title
      s!"invalid length {length}, expected {wanted} with {full} elements"
  | tooLong length => s!"invalid length {length}, expected fewer elements in array"

end FleetPanel.Fleet
