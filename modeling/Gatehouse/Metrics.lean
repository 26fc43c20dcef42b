import Gatehouse.Http.Method
import Gatehouse.Http.Status

namespace Gatehouse

inductive SessionOutcome where
  | valid
  | refreshed
  | noSession
  | serviceDown
  | expired
  | rejected
deriving DecidableEq, Repr

def SessionOutcome.label : SessionOutcome → String
  | valid => "valid"
  | refreshed => "refreshed"
  | noSession => "no_session"
  | serviceDown => "service_down"
  | expired => "expired"
  | rejected => "rejected"

inductive Event where
  /-- A request was answered; requests without a route count under `none`. -/
  | request (method : Method) (status : Status) (route : String)
  | sessionCheck (outcome : SessionOutcome)
deriving DecidableEq, Repr

namespace Event

/-- A label's value between quotes, with quotes, backslashes and line ends escaped. -/
def quoteLabel (value : String) : String :=
  String.ofList ('"' :: value.toList.flatMap (fun c =>
    if c = '"' then ['\\', '"'] else if c = '\\' then ['\\', '\\']
    else if c = '\n' then ['\\', 'n'] else [c]) ++ ['"'])

def seriesText (name : String) (labels : List (String × String)) : String :=
  name ++ "\x7b" ++ ",".intercalate (labels.map fun (key, value) => key ++ "=" ++ quoteLabel value)
    ++ "\x7d"

def series : Event → List String
  | request m s route =>
    [seriesText "gateway_requests_total"
      [("method", m.token), ("status", decimalText s.code), ("route", route)],
     seriesText "gateway_request_duration_seconds_count" [("route", route)]]
  | sessionCheck outcome =>
    [seriesText "gateway_session_checks_total" [("outcome", outcome.label)]]

end Event

/-- One line for each series that was counted, in the order of their texts. -/
def metricLines (events : List Event) : List String :=
  let counted := events.flatMap Event.series
  let lines := counted.eraseDups.map fun s => s ++ " " ++ decimalText (counted.count s)
  lines.mergeSort fun a b => decide (a ≤ b)

end Gatehouse
