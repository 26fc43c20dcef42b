import Gatehouse.Config.Decode
import Gatehouse.Config.Validate
import Gatehouse.Toml.Parser

namespace Gatehouse

/-- Why there are no settings to work by. -/
inductive ConfigError where
  /-- The file cannot be read as text. -/
  | io
  /-- The text is no TOML or has a value of the wrong kind. -/
  | parse
  | validation (faults : List ConfigFault)
deriving DecidableEq, Repr

/-- The text of the fault; how the text of a file is malformed is not told. -/
def ConfigError.message : ConfigError → String
  | io => "IO error:"
  | parse => "Parse error:"
  | validation faults => "Validation failed: " ++ ", ".intercalate (faults.map ConfigFault.text)

namespace Config

/-- The settings themselves if nothing is wrong with them. -/
def validate (c : Config) : Except ConfigError Config :=
  if c.faults.isEmpty then .ok c else .error (.validation c.faults)

def ofToml (text : String) : Except ConfigError Config :=
  match (Toml.ofText? text).bind (Config.ofDatum? true) with
  | some c => c.validate
  | none => .error .parse

/-- Settings from the octets of a file, or from none when there is no such file. -/
def ofFile : Option ByteArray → Except ConfigError Config
  | none => .error .io
  | some bytes =>
    match String.fromUTF8? bytes with
    | some text => ofToml text
    | none => .error .io

end Config

end Gatehouse
