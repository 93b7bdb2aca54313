/-
This file reads the options of a command line, which come before all other settings.
-/

import FleetPanel.Config.Load

namespace FleetPanel.Config

structure Options where
  settingsPath? : Option RawText
  bindAddress? : Option Address.SocketAddress
  dataDirectory? : Option RawText
deriving DecidableEq, Repr

inductive OptionFault where
  | unknown (argument : String)
  | repeated (option : String)
  | lacksValue (option : String)
  | badAddress (text : String)
deriving DecidableEq, Repr

def OptionFault.message : OptionFault → String
  | unknown argument => s!"unexpected argument '{argument}'"
  | repeated option => s!"the argument '{option}' cannot be used multiple times"
  | lacksValue option => s!"a value is required for '{option}'"
  | badAddress text => s!"invalid value '{text}' for '--bind': invalid socket address syntax"

namespace Options

def none : Options := ⟨.none, .none, .none⟩

def names : List String := ["--config", "--bind", "--data-dir"]

def usage : String :=
  "options: --config <PATH>  --bind <ADDRESS>  --data-dir <PATH>"

/-- Gives an option its value. No option is given twice. -/
def set (options : Options) (option value : String) : Except OptionFault Options :=
  match option with
  | "--config" =>
      if options.settingsPath?.isSome then .error (.repeated option)
      else .ok { options with settingsPath? := some (.ofText value) }
  | "--bind" =>
      if options.bindAddress?.isSome then .error (.repeated option)
      else
        match Address.SocketAddress.ofText? value with
        | .some address => .ok { options with bindAddress? := some address }
        | .none => .error (.badAddress value)
  | "--data-dir" =>
      if options.dataDirectory?.isSome then .error (.repeated option)
      else .ok { options with dataDirectory? := some (.ofText value) }
  | _ => .error (.unknown option)

/-- Reads arguments in which each option is followed by its value. -/
def ofArguments (options : Options) : List String → Except OptionFault Options
  | [] => .ok options
  | [option] => .error (if names.contains option then .lacksValue option else .unknown option)
  | option :: value :: rest => do
      let options ← options.set option value
      ofArguments options rest

/-- The configuration with what the options say in place of what it said. -/
def override (options : Options) (config : Config) : Config :=
  { config with
    bindAddress := options.bindAddress?.getD config.bindAddress
    dataDirectory := options.dataDirectory?.getD config.dataDirectory }

end Options

end FleetPanel.Config
