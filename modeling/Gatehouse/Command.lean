import Gatehouse.Config.Load
import Gatehouse.Exchange
import Gatehouse.Files
import Gatehouse.Json.Parser
import Gatehouse.Json.Printer
import Gatehouse.Route.Surface
import Gatehouse.Text.Utf8

namespace Gatehouse

structure Report where
  exit : Nat
  stdout : String
  stderr : String
deriving DecidableEq, Repr

def Report.success (stdout : String) : Report := ⟨0, stdout, ""⟩

def Report.failed (stderr : String) : Report := ⟨1, "", stderr⟩

/-- A command that was given up; the cause is not part of what is promised. -/
def Report.givenUp : Report := .failed "Error:"

inductive Command where
  | health (url : String)
  | routes (config : Option String)
  | checkConfig (config : String)
deriving DecidableEq, Repr

/-- The value of an option in either spelling, together with its name or behind it. -/
def optionValue? (long short : String) : List String → Option String
  | [] => none
  | [argument] => joined argument
  | argument :: value :: rest =>
    if argument = long ∨ argument = short then some value
    else joined argument <|> optionValue? long short (value :: rest)
where
  /-- The value that stands in the same argument as the name. -/
  joined (argument : String) : Option String :=
    let behind := dropStart? (long.toList ++ ['=']) argument.toList
      <|> dropStart? (short.toList ++ ['=']) argument.toList
      <|> (dropStart? short.toList argument.toList).filter (!·.isEmpty)
    behind.map String.ofList

/-- Where a gateway is looked for when no address is given. -/
def defaultGateway : String := "http://localhost:8080"

def Command.ofArguments? : List String → Option Command
  | "health" :: rest => some (.health ((optionValue? "--url" "-u" rest).getD defaultGateway))
  | "routes" :: rest => some (.routes (optionValue? "--config" "-c" rest))
  | "check-config" :: rest => (optionValue? "--config" "-c" rest).map .checkConfig
  | _ => none

/-- The settings of a file, or the defaults when none is named. -/
def Config.load (files : Files) : Option String → Except ConfigError Config
  | some path => Config.ofFile (files path)
  | none => .ok {}

def column (width : Nat) (text : String) : String :=
  String.ofList (padRight ' ' width text.toList)

def row (widths : List Nat) (texts : List String) : String :=
  " ".intercalate (List.zipWith column (widths ++ List.replicate texts.length 0) texts) ++ "\n"

def baseRows (b : BasesConfig) : List String :=
  [("auth", b.auth), ("backend", b.backend), ("node", b.node), ("monitoring", b.monitoring)].map
    fun (name, base) => row [12] [name, base]

def routeWidths : List Nat := [18, 32, 24, 11, 5]

def routeRow (r : Route) : String :=
  row routeWidths [r.name, r.path.display, r.methods.display, r.target.name,
    if r.requiresAuth then "yes" else "no", r.transform.display]

/-- Where the collaborators are and which requests each of them gets. -/
def routeListing (c : Config) : String :=
  String.join (baseRows c.bases ++ ["\n",
    row routeWidths ["NAME", "PATH", "METHODS", "TARGET", "AUTH", "TRANSFORM"]] ++
    surface.routes.map routeRow)

def checkReport (path : String) : Except ConfigError Config → Report
  | .ok _ => .success (path ++ ": ok\n")
  | .error (.validation faults) =>
    .failed (path ++ ": " ++ decimalText faults.length ++ " error(s)\n" ++
      String.join (faults.map fun f => "  - " ++ f.text ++ "\n"))
  | .error e => .failed (path ++ ": " ++ e.message)

/-- The address of a gateway's health, from the address of the gateway. -/
def healthUrl (base : String) : String :=
  String.ofList ((base.toList.reverse.dropWhile (· == '/')).reverse ++ "/health".toList)

/-- The longest answer of a gateway that is read, in octets. -/
def maxHealthReply : Nat := UInt32.size

def healthReport (r : Response) : Report :=
  let body := (r.body.collect maxHealthReply).toOption
  if r.status.isSuccess then
    match body.bind Json.ofBytes? with
    | some v => .success (String.ofList (v.renderPretty 0) ++ "\n")
    | none => .givenUp
  else
    let said := match body with
      | some bytes => "Response: " ++ lossyText bytes ++ "\n"
      | none => ""
    .failed ("Error: gateway returned status " ++ r.status.text ++ "\n" ++ said)

abbrev CommandProgram := Program Event RequestTarget Outcome Report

/-- How many redirections are followed one after the other. -/
def maxRedirections : Nat := 10

/-- The URL that a response sends its client on to, if it does and there can be a request for it. -/
def Response.redirection? (r : Response) (asked : Url) : Option Url :=
  if r.status.isRedirection then do
    let location ← r.headers.first? .location
    let text ← String.fromUTF8? (ByteArray.mk location.octets.toArray)
    let url ← (asked.resolve text).toOption
    let _ ← url.target?
    return url
  else none

/-- Asks for a URL of the web and follows redirections, so many at most, to the final answer. -/
def askHealth (url : Url) (redirections : Nat) : CommandProgram :=
  match if url.isWeb then url.target? else none with
  | none => .done .givenUp
  | some target => .ask target fun
    | .reply r _ =>
      match r.redirection? url, redirections with
      | none, _ => .done (healthReport r)
      | some _, 0 => .done .givenUp
      | some next, left + 1 => askHealth next left
    | _ => .done .givenUp

def Command.run (files : Files) : Command → CommandProgram
  | health base =>
    match Url.ofText (healthUrl base) with
    | .ok url => askHealth url maxRedirections
    | .error _ => .done .givenUp
  | routes config =>
    match Config.load files config with
    | .ok c => .done (.success (routeListing c))
    | .error _ => .done .givenUp
  | checkConfig path => .done (checkReport path (Config.load files (some path)))

end Gatehouse
