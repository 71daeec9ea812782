import DeviceAllocation.Plugin

namespace DeviceAllocation.Plugin

inductive Command where
  -- removes some environment variables and then sets others, up to one that cannot be set
  | changeEnvironment (removed : List String) (set : List (String × String))
  | forgetSettings
  | forgetContainer
  | openContainer
  | askForMetrics
  | serveContainerMetrics (barred : Option Fault)
  -- serves the metrics of the container of a number, which need not be open any more
  | serveHeld (number : Nat) (barred : Option Fault)
  | serveMetrics (port : Int) (own : Bool) (barred : Option Fault)
  -- reports the values in the registry of the process, or in the last one of its own
  | sample (own : Bool)
  | wire (name : String) (net : Interconnect) (topology : Placement.TopologyAllocator)
      (inventory : DeviceSet)
  -- wires a service from the container of a number, which need not be open any more
  | wireHeld (number : Nat) (name : String) (net : Interconnect)
      (topology : Placement.TopologyAllocator) (inventory : DeviceSet)
  -- wires a service of its own, with the metrics of the process and the strategy of a name
  | wireAlone (name : String) (selector : Selector) (strategy : String) (inventory : DeviceSet)
  | request (service : String) (request : Request) (around : Circumstances)
  | log (component : String) (call : LogCall)
  | askForLogger (component : String)
  | logBy (number : Nat) (call : LogCall)
  | logByContainer (number : Nat) (call : LogCall)
  | span (tracer name : String) (around : Circumstances)

inductive Reply where
  | done
  | container (container : Container)
  -- the metrics that are asked for or served, and whether they are those of their owner
  | metrics (position : Nat) (same : Bool)
  | samples (samples : List Sample)
  | devices (devices : List DeviceId)
  | unopened (error : OpenError)
  | refusedVariable (refusal : Environment.Refusal)
  | untraced (error : TracingError)
  | unlogged (error : LogError)
  | failed (failure : Failure)

def Reply.missing (number : Nat) : Reply := .failed (.broken (.missingKey (toString number)))

def withContainer (plugin : Plugin)
    (next : Container → Plugin → Plugin × Reply × Effects) : Plugin × Reply × Effects :=
  let (outcome, plugin, opened) := plugin.openContainer
  match outcome with
  | .error error => (plugin, .unopened error, opened)
  | .ok container =>
    let (plugin, reply, effects) := next container plugin
    (plugin, reply, opened ++ effects)

/-- The logger of a container, which has been used when the container was set up. -/
def heldLogger : Logger := ⟨containerLogger, [], some .handedOver⟩

def serviceComponent : String := "preferred_allocation"

def serviceOf (container : Container) (name : String) (net : Interconnect)
    (topology : Placement.TopologyAllocator) : WiredService where
  name := name
  selector := ⟨net, topology, container.settings.strict⟩
  strategy := .container container.number
  metrics := container.metrics
  logger := { heldLogger with bound := component serviceComponent }

def addService (service : WiredService) (plugin : Plugin) : Plugin :=
  { plugin with services := Keyed.put WiredService.name service plugin.services }

def samplesOf (own : Bool) (plugin : Plugin) : List Sample :=
  let found := plugin.registered.filter fun entry => own = decide (entry.registry ≠ .shared)
  (found.getLast?.map fun entry => entry.metrics.samples).getD []

/-- A new logger for the component of a name, or for the process when it has no name. -/
def newLogger (name : String) (plugin : Plugin) : Logger :=
  if name = "" then .unused "__main__"
  else plugin.logging.bind (.unused componentLogger) (component name)

def report (logger : Logger) (call : LogCall) (plugin : Plugin) : Reply × Effects :=
  match Report.ofCall logger.name logger.bound call with
  | .error error => (.unlogged error, .none)
  | .ok report => (.done, .ofLines (plugin.logging.deliver logger report))

/-- Serves the metrics of the process on the port of a container, which takes them for its own once
they are served. -/
def serveMetricsOf (container : Container) (barred : Option Fault) (plugin : Plugin) :
    Plugin × Reply × Effects :=
  let (outcome, plugin, effects) :=
    plugin.serveMetrics container.settings.metricsPort false barred
  match outcome with
  | .error fault => (plugin, .failed (.broken fault), effects)
  | .ok position =>
    let plugin := plugin.giveMetrics container.number position
    let served := (plugin.containers[container.number]?).map Container.metrics
    (plugin, .metrics position (served = some position), effects)

def step (plugin : Plugin) : Command → Plugin × Reply × Effects
  | .changeEnvironment removed set =>
    let (environment, refusal) := (removed.foldl Environment.unset plugin.environment).setAll set
    ({ plugin with environment }, (refusal.map .refusedVariable).getD .done, .none)
  | .forgetSettings => ({ plugin with settings := none }, .done, .none)
  | .forgetContainer => ({ plugin with container := none }, .done, .none)
  | .openContainer =>
    withContainer plugin fun container plugin => (plugin, .container container, .none)
  | .askForMetrics =>
    let (position, plugin) := plugin.currentMetrics
    (plugin, .metrics position (plugin.current = some position), .none)
  | .serveContainerMetrics barred =>
    withContainer plugin fun container plugin => plugin.serveMetricsOf container barred
  | .serveHeld number barred =>
    match plugin.containers[number]? with
    | some container => plugin.serveMetricsOf container barred
    | none => (plugin, .missing number, .none)
  | .serveMetrics port own barred =>
    let (outcome, plugin, effects) := plugin.serveMetrics port own barred
    match outcome with
    | .error fault => (plugin, .failed (.broken fault), effects)
    | .ok position => (plugin, .metrics position (plugin.current = some position), effects)
  | .sample own => (plugin, .samples (plugin.samplesOf own), .none)
  | .wire name net topology inventory =>
    withContainer { plugin with inventory } fun container plugin =>
      (plugin.addService (serviceOf container name net topology), .done, .none)
  | .wireHeld number name net topology inventory =>
    let plugin := { plugin with inventory }
    match plugin.containers[number]? with
    | some container => (plugin.addService (serviceOf container name net topology), .done, .none)
    | none => (plugin, .missing number, .none)
  | .wireAlone name selector strategy inventory =>
    let plugin := { plugin with inventory }
    match Strategy.ofName strategy with
    | .error fault => (plugin, .failed (.broken fault), .none)
    | .ok strategy =>
      match plugin.askForTracer ownTracer with
      | (.error error, plugin, lines) => (plugin, .untraced error, .ofLines lines)
      | (.ok (), plugin, lines) =>
        let (position, plugin) := plugin.currentMetrics
        let service : WiredService :=
          ⟨name, selector, .fixed strategy, position, plugin.newLogger serviceComponent⟩
        (plugin.addService service, .done, .ofLines lines)
  | .request service request around =>
    match Keyed.find? WiredService.name service plugin.services with
    | none => (plugin, .failed (.broken (.missingKey service)), .none)
    | some service =>
      let attributes := Service.startAttributes (plugin.strategyOf service) request
      match plugin.startSpan around attributes with
      | (lines, .error error) => (plugin, .untraced error, .ofLines lines)
      | (_, .ok ()) =>
        let (outcome, plugin, effects) := plugin.answer service request around
        match outcome with
        | .ok devices => (plugin, .devices devices, effects)
        | .error failure => (plugin, .failed failure, effects)
  | .log name call => (plugin, plugin.report (plugin.newLogger name) call)
  | .askForLogger name =>
    ({ plugin with loggers := plugin.loggers ++ [plugin.newLogger name] }, .done, .none)
  | .logBy number call =>
    match plugin.loggers[number]? with
    | some logger =>
      ({ plugin with loggers := plugin.loggers.set number (plugin.logging.use logger) },
        plugin.report logger call)
    | none => (plugin, .missing number, .none)
  | .logByContainer number call =>
    match plugin.containers[number]? with
    | some _ => (plugin, plugin.report heldLogger call)
    | none => (plugin, .missing number, .none)
  | .span tracer name around =>
    match plugin.askForTracer tracer with
    | (.error error, plugin, lines) => (plugin, .untraced error, .ofLines lines)
    | (.ok (), plugin, lines) =>
      match plugin.startSpan around [] with
      | (_, .error error) => (plugin, .untraced error, .ofLines lines)
      | (_, .ok ()) =>
        let traced := plugin.trace around ⟨name, [], [], [], .unset⟩
        (plugin, .done, { Effects.none with lines, spans := traced.kept })

end DeviceAllocation.Plugin
