/-
This file finds the directories that serve when nothing is configured.
-/

import FleetPanel.Path

namespace FleetPanel.Config

/-- The environment of a program: what its variables are set to, and the home of its account, which
serves when the variables name none. -/
structure Surroundings where
  set? : String → Option RawText
  accountHome? : Option RawText

namespace Surroundings

/-- The text of a variable. One that is set to octets that are no text counts as not set. -/
def get? (surroundings : Surroundings) (name : String) : Option String :=
  (surroundings.set? name).bind RawText.text?

def home? (surroundings : Surroundings) : Option RawText :=
  ((surroundings.set? "HOME").filter fun home => !home.isEmpty) <|> surroundings.accountHome?

/-- A directory that a variable names absolutely, or else one inside the home. Neither has to be a
text. -/
def directory? (surroundings : Surroundings) (key inHome : String) : Option RawText :=
  (surroundings.set? key).filter Path.isAbsolute <|>
    surroundings.home?.map (Path.joinRaw · inHome)

/-- Where a configuration file is looked for when none is named. -/
def settingsPath? (surroundings : Surroundings) : Option RawText :=
  (surroundings.directory? "XDG_CONFIG_HOME" ".config").map fun directory =>
    Path.joinRaw (Path.joinRaw directory "kodama") "panel.toml"

def dataDirectory (surroundings : Surroundings) : RawText :=
  ((surroundings.directory? "XDG_DATA_HOME" ".local/share").map
    (Path.joinRaw · "kodama")).getD (.ofText "data")

end Surroundings

end FleetPanel.Config
