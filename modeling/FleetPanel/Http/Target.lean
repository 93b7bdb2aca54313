/-
This file takes request targets apart.
-/

namespace FleetPanel.Http

/-- The parts of a text between the places where a mark stands. -/
def splitOn (mark : Char) : List Char → List (List Char)
  | [] => [[]]
  | character :: rest =>
      if character == mark then [] :: splitOn mark rest
      else
        match splitOn mark rest with
        | [] => [[character]]
        | first :: others => (character :: first) :: others

theorem splitOnNotNil (mark : Char) (text : List Char) : splitOn mark text ≠ [] := by
  induction text with
  | nil => simp [splitOn]
  | cons character rest inductionHypothesis =>
      rw [splitOn]
      split
      · simp
      · split <;> simp

/-- No part holds the mark. -/
theorem notMemSplitOn {mark : Char} {text part : List Char} (inside : part ∈ splitOn mark text) :
    mark ∉ part := by
  induction text generalizing part with
  | nil => simp_all [splitOn]
  | cons character rest inductionHypothesis =>
      rw [splitOn] at inside
      grind

/-- A path and a query, both still encoded. A host alone has neither. -/
structure Target where
  path : List Char
  query : List Char
deriving DecidableEq, Repr

namespace Target

/-- The query follows the first question mark. -/
def ofPathAndQuery (text : List Char) : Target :=
  let (path, rest) := text.span (· != '?')
  ⟨path, rest.drop 1⟩

def isSchemeCharacter (character : Char) : Bool :=
  character.isAlphanum || ['+', '-', '.'].contains character

/-- What follows a scheme, if a text begins with one. -/
def afterScheme? (text : List Char) : Option (List Char) :=
  let rest := text.dropWhile isSchemeCharacter
  if "://".toList.isPrefixOf rest then some (rest.drop 3) else none

/-- The target behind a host. No path stands for the shortest one. -/
def afterHost (text : List Char) : Target :=
  let target := ofPathAndQuery (text.dropWhile fun letter => letter != '/' && letter != '?')
  if target.path.isEmpty then { target with path := ['/'] } else target

/-- A text begins with its path, or with a scheme and a host, or is a host. What follows a number
sign is not sent. -/
def ofText (text : String) : Target :=
  let sent := text.toList.takeWhile (· != '#')
  if sent.head? == some '/' || sent == ['*'] then ofPathAndQuery sent
  else
    match afterScheme? sent with
    | none => ⟨[], []⟩
    | some rest => afterHost rest

/-- The target with a slash at the end of its path. -/
def withSlash (target : Target) : Target :=
  { target with path := target.path ++ ['/'] }

def text (target : Target) : String :=
  String.ofList (target.path ++ if target.query.isEmpty then [] else '?' :: target.query)

end Target

end FleetPanel.Http
