/-
This file serves a site of static files.
-/

import FleetPanel.Http.Answer
import FleetPanel.Http.MediaType
import FleetPanel.Http.Percent
import FleetPanel.Text.Utf8

namespace FleetPanel.Http

/-- The files of a site, and directories that need not hold any, each with the names on its way from
the site's directory. -/
structure Site where
  files : List (List String × List UInt8)
  directories : List (List String)
deriving Repr

namespace Site

/-- The parts of a path that name something. -/
def namesOf (path : List Char) : List String :=
  ((splitOn '/' path).map String.ofList).filter fun part => part != "" && part != "."

/-- The site of some texts by their paths, with no more directories than they need. -/
def ofTexts (texts : List (String × String)) : Site where
  files := texts.map fun (path, text) => (namesOf path.toList, Text.Utf8.encode text.toList)
  directories := []

def file? (site : Site) (names : List String) : Option (List UInt8) :=
  site.files.lookup names

/-- A directory, or one on the way to something. The site's directory is one, if it is there. -/
def isDirectory (site : Site) (names : List String) : Bool :=
  (site.files.any fun (path, _) => names.isPrefixOf path && names.length < path.length) ||
    site.directories.any names.isPrefixOf

/-- The names on a decoded path. A path that leaves the site's directory has none. -/
def names? (path : List Char) : Option (List String) :=
  if path.head? == some '/' || (namesOf path).contains ".." then none else some (namesOf path)

/-- What names lead to. -/
inductive Place where
  | file (content : List UInt8)
  | directory
  | nothing
  | unreachable
deriving DecidableEq, Repr

/-- The octets that no name in a directory exceeds. -/
def longestName : Nat := 255

/-- The octets that every path falls short of. -/
def pathLimit : Nat := 4096

/-- The octets of a path, with a slash before each name. -/
def pathSize (names : List String) : Nat :=
  names.foldl (fun size name => size + name.utf8ByteSize + 1) 0

/-- What names lead to from a place. A name that is too long is found out only in a directory. -/
def placeFrom (site : Site) (way : List String) : List String → Place
  | [] =>
      match site.file? way with
      | some content => .file content
      | none => if site.isDirectory way then .directory else .nothing
  | name :: names =>
      if !site.isDirectory way then .nothing
      else if longestName < name.utf8ByteSize then .unreachable
      else site.placeFrom (way ++ [name]) names

/-- What names lead to from the site's directory. -/
def place (site : Site) (names : List String) : Place :=
  if pathLimit ≤ pathSize names then .unreachable else site.placeFrom [] names

/-- A file of the site, as it is. -/
def answerFile (name : String) (content : List UInt8) : Answer :=
  { status := 200
    contentType? := some (mediaType name)
    body := if content.isEmpty then .empty else .octets content }

/-- The name of the file that a directory shows. -/
def indexName : String := "index.html"

/-- The answer to a place with the last name on the way to it. -/
def answerPlace (name : String) : Place → Answer
  | .file content => answerFile name content
  | .directory => answerFile name []
  | .nothing => .notFound
  | .unreachable => .plain 500

/-- The answer to a path of names. A directory is entered by a slash at the end of its path, and
shows its index; no slash can follow a host alone. A name with a zero character is no name of a
file, and has no head either. -/
def answerNames (site : Site) (request : Request) (names : List String) : Answer :=
  if names.any (·.toList.contains '\x00') then
    if request.method = .head then .plain 500 else .notFound
  else
    match site.place names with
    | .directory =>
        match request.target.path.getLast? with
        | none => .plain 500
        | some '/' => answerPlace indexName (site.place (names ++ [indexName]))
        | some _ => .redirect request.target.withSlash.text
    | place => answerPlace ((names.getLast?).getD indexName) place

/-- The answer to a request for the path that it names. -/
def answerPath (site : Site) (request : Request) : Answer :=
  match (decoded? (request.target.path.dropWhile (· == '/'))).bind names? with
  | none => .notFound
  | some names => site.answerNames request names

def answer (site : Site) (request : Request) : Answer :=
  match request.method with
  | .get => site.answerPath request
  | .head => (site.answerPath request).withoutBody
  | _ => .methodNotAllowed

end Site

end FleetPanel.Http
