import Gatehouse.Command
import Gatehouse.Gateway

namespace Gatehouse

structure ServiceOptions where
  config : Option String
  /-- An address to listen at in place of the configured one. -/
  bind : Option String
deriving DecidableEq, Repr

def ServiceOptions.ofArguments (arguments : List String) : ServiceOptions :=
  ⟨optionValue? "--config" "-c" arguments, optionValue? "--bind" "-b" arguments⟩

structure Service where
  gateway : Gateway
  /-- Where the counts can be asked for, if that address was free. -/
  metricsAt : Option SocketAddress

/-- A TCP port that stands for any free one. -/
def anyTcpPort : Nat := 0

/-- Whether an address can be listened at beside those that are taken. -/
def SocketAddress.isFree (taken : List SocketAddress) (a : SocketAddress) : Bool :=
  a.tcpPort = anyTcpPort || !taken.contains a

namespace Service

/-- The settings with the address that was given on starting. -/
def override (o : ServiceOptions) (c : Config) : Config :=
  match o.bind with
  | some address => { c with listener := ⟨address⟩ }
  | none => c

/-- Where metrics are offered: nowhere if the address is taken, which stops nothing else. -/
def metricsAddress (taken : List SocketAddress) (o : ObservabilityConfig) : Option SocketAddress :=
  if o.metricsEnabled then (SocketAddress.ofText? o.metricsAddress).filter (·.isFree taken)
  else none

def start (files : Files) (taken : List SocketAddress) (o : ServiceOptions) : Option Service := do
  let c := override o (← (Config.load files o.config).toOption)
  let metricsAt := metricsAddress taken c.observability
  let gateway ← (Gateway.ofConfig c).toOption
  let address ← SocketAddress.ofText? c.listener.bindAddress
  if address.isFree (taken ++ metricsAt.toList) then some ⟨gateway, metricsAt⟩ else none

end Service

end Gatehouse
