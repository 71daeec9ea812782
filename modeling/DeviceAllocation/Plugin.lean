import DeviceAllocation.Log.Handling
import DeviceAllocation.Service
import DeviceAllocation.Settings.Sources
import DeviceAllocation.Tracing.Tracer

/-! The process that the engine runs in, with all that is set up in it once. What a step leaves
behind besides the state are its effects. -/

namespace DeviceAllocation

/-- Where metrics are registered: in the registry of the process, or in one of its own number. -/
inductive Registry where
  | shared
  | own (number : Nat)
  deriving DecidableEq, Repr

structure Registered where
  registry : Registry
  metrics : Metrics
  deriving DecidableEq, Repr

inductive Exporter where
  | console
  | collector (endpoint : String)
  deriving DecidableEq, Repr

/-- What services are wired from. Metrics are named by their position among the registered ones. -/
structure Container where
  number : Nat
  settings : Settings
  metrics : Nat
  deriving DecidableEq, Repr

inductive StrategySource where
  | fixed (strategy : Strategy)
  -- in the settings of the container with this number
  | container (number : Nat)
  deriving DecidableEq, Repr

structure WiredService where
  name : String
  selector : Selector
  strategy : StrategySource
  metrics : Nat
  logger : Logger

structure MetricsServer where
  port : Int
  registry : Registry
  deriving DecidableEq, Repr

structure Effects where
  lines : List LogLine
  spans : List (Span × Resource)
  exporters : List Exporter
  servers : List MetricsServer

namespace Effects

def none : Effects := ⟨[], [], [], []⟩

def append (first second : Effects) : Effects :=
  ⟨first.lines ++ second.lines, first.spans ++ second.spans, first.exporters ++ second.exporters,
    first.servers ++ second.servers⟩

instance : Append Effects := ⟨append⟩

def ofLines (lines : List LogLine) : Effects := { none with lines }

end Effects

structure Plugin where
  -- how deep settings in the environment may be nested
  nesting : Nat
  environment : Environment
  -- the settings that were read first, until they are forgotten
  settings : Option Settings
  containers : List Container
  -- the number of the container that is open
  container : Option Nat
  registered : List Registered
  -- the position of the metrics of the process
  current : Option Nat
  tracer : Option Tracer
  logging : Logging
  loggers : List Logger
  inventory : DeviceSet
  services : List WiredService

namespace Plugin

def start (environment : Environment) (nesting : Nat) : Plugin where
  nesting := nesting
  environment := environment
  settings := none
  containers := []
  container := none
  registered := []
  current := none
  tracer := none
  logging := .initial
  loggers := []
  inventory := .empty
  services := []

def currentContainer (plugin : Plugin) : Option Container :=
  plugin.container.bind fun number => plugin.containers[number]?

def strategyOf (plugin : Plugin) (service : WiredService) : Strategy :=
  match service.strategy with
  | .fixed strategy => strategy
  | .container number =>
    ((plugin.containers[number]?).map fun container => container.settings.strategy).getD .none

def write (plugin : Plugin) (report : Report) : List LogLine :=
  plugin.logging.handle report

def writeAll (plugin : Plugin) (reports : List Report) : List LogLine :=
  reports.flatMap plugin.write

def writeLosses (plugin : Plugin) (losses : List AttributeLoss) : List LogLine :=
  plugin.writeAll (losses.map AttributeLoss.report)

/-- What the log writes when a span starts with attributes, and why it cannot start if it cannot. -/
def startSpan (plugin : Plugin) (around : Circumstances) (attributes : List (String × Json)) :
    List LogLine × Except TracingError Unit :=
  match plugin.tracer with
  | some tracer =>
    let (losses, outcome) := tracer.start around attributes
    (plugin.writeLosses losses, outcome)
  | none => ([], .ok ())

def trace (plugin : Plugin) (around : Circumstances) (span : Span) : TracedSpan :=
  match plugin.tracer with
  | some tracer => tracer.trace around span
  | none => ⟨[], [], []⟩

def writeSources (plugin : Plugin) (sources : Settings.Sources) : List LogLine :=
  if Settings.Sources.areReported plugin.environment then plugin.write sources.report else []

def readSettings (plugin : Plugin) :
    List LogLine × Except Settings.ReadError (Settings × Plugin) :=
  match plugin.settings with
  | some settings => ([], .ok (settings, plugin))
  | none =>
    match Settings.Sources.consult plugin.nesting plugin.environment [] with
    | .error error => ([], .error error)
    | .ok sources =>
      (plugin.writeSources sources,
        sources.settings.map fun settings =>
          (settings, { plugin with settings := some settings }))

def register (registry : Registry) (plugin : Plugin) : Nat × Plugin :=
  (plugin.registered.length,
    { plugin with
      registered := plugin.registered ++ [⟨registry, .fresh⟩]
      current := some plugin.registered.length })

def currentMetrics (plugin : Plugin) : Nat × Plugin :=
  match plugin.current with
  | some position => (position, plugin)
  | none => plugin.register .shared

def metricsAt (plugin : Plugin) (position : Nat) : Metrics :=
  ((plugin.registered[position]?).map Registered.metrics).getD .fresh

def setMetrics (plugin : Plugin) (position : Nat) (metrics : Metrics) : Plugin :=
  { plugin with
    registered := plugin.registered.modify position fun entry => { entry with metrics } }

def freshRegistry (plugin : Plugin) : Registry :=
  .own (plugin.registered.filter fun entry => entry.registry ≠ .shared).length

/-- Serves metrics on a port. A new registry, when one is wanted, takes new metrics, which become
those of the process. The server offers the new registry, or else the one of the process. When it
cannot listen on the port, the metrics are there all the same. -/
def serveMetrics (port : Int) (own : Bool) (barred : Option Fault) (plugin : Plugin) :
    Except Fault Nat × Plugin × Effects :=
  let registry := if own then plugin.freshRegistry else .shared
  let (position, plugin) := if own then plugin.register registry else plugin.currentMetrics
  match barred with
  | some fault => (.error fault, plugin, .none)
  | none => (.ok position, plugin, { Effects.none with servers := [⟨port, registry⟩] })

def setUpLogging (settings : Settings) (plugin : Plugin) : Plugin :=
  { plugin with logging := plugin.logging.setUp settings }

def tracerKept : Report :=
  .plain "opentelemetry.trace" .warning "Overriding of current TracerProvider is not allowed"

/-- Where the settings send spans. An empty endpoint counts as none. -/
def exporterOf (settings : Settings) : Exporter :=
  match settings.endpoint with
  | some endpoint => if endpoint = "" then .console else .collector endpoint
  | none => .console

def resourceOf (settings : Settings) (plugin : Plugin) : Resource where
  serviceName := Tracing.knownService plugin.environment settings.serviceName
  environment := settings.environment

def ownTracer : String := "gpu_allocator"

def nameTracer (name : String) (plugin : Plugin) : Plugin × List LogLine :=
  match plugin.tracer with
  | some tracer =>
    ({ plugin with tracer := some (tracer.named name) },
      plugin.writeAll (tracer.reportsOn plugin.environment name))
  | none => (plugin, [])

/-- Sets up a tracer and asks for it. An exporter is set up each time, but the first tracer stays.
-/
def setUpTracing (settings : Settings) (plugin : Plugin) :
    Except TracingError Unit × Plugin × Effects :=
  let (reports, outcome) :=
    Tracing.setUp plugin.environment (plugin.resourceOf settings) true
  let lines := plugin.writeAll reports
  match outcome with
  | .error error => (.error error, plugin, .ofLines lines)
  | .ok tracer =>
    let kept := if plugin.tracer.isSome then plugin.write tracerKept else []
    let (plugin, named) :=
      nameTracer ownTracer { plugin with tracer := some (plugin.tracer.getD tracer) }
    (.ok (), plugin,
      { Effects.none with lines := lines ++ kept ++ named, exporters := [exporterOf settings] })

/-- The tracer that the environment asks for by name, and what is reported while it is set up. What
such a tracer keeps is not sent anywhere. -/
def tracerByName (name : String) (plugin : Plugin) : List Report × Except TracingError Tracer :=
  if name = "default_tracer_provider" then ([], .ok .silent)
  else if name = "sdk_tracer_provider" then
    Tracing.setUp plugin.environment ⟨Tracing.knownService plugin.environment "", ""⟩ false
  else ([], .error .unknownTracer)

/-- Asks for the tracer under a name. When there is none yet, the environment may name one that is
set up for good. -/
def askForTracer (name : String) (plugin : Plugin) :
    Except TracingError Unit × Plugin × List LogLine :=
  match plugin.tracer, plugin.environment.value? "OTEL_PYTHON_TRACER_PROVIDER" with
  | none, some wanted =>
    let (reports, outcome) := plugin.tracerByName wanted
    let lines := plugin.writeAll reports
    match outcome with
    | .error error => (.error error, plugin, lines)
    | .ok tracer =>
      let (plugin, named) := nameTracer name { plugin with tracer := some tracer }
      (.ok (), plugin, lines ++ named)
  | _, _ =>
    let (plugin, named) := plugin.nameTracer name
    (.ok (), plugin, named)

def containerLogger : String := "gpu_allocator.infrastructure.container"

def componentLogger : String := "gpu_allocator.infrastructure.logging"

def containerReady (settings : Settings) : Report where
  logger := containerLogger
  level := .info
  event := .text "gpu_allocator_container_initialized"
  fields :=
    [("environment", .text settings.environment), ("strategy", .text settings.strategy.name)]
  stack := none

inductive OpenError where
  | settings (error : Settings.ReadError)
  | tracing (error : TracingError)
  deriving DecidableEq, Repr

def install (settings : Settings) (plugin : Plugin) : Container × Plugin :=
  let (position, plugin) := plugin.currentMetrics
  let container : Container := ⟨plugin.containers.length, settings, position⟩
  let metrics := { plugin.metricsAt position with environment := some settings.environment }
  (container,
    { plugin.setMetrics position metrics with
      containers := plugin.containers ++ [container]
      container := some container.number })

def giveMetrics (number position : Nat) (plugin : Plugin) : Plugin :=
  { plugin with
    containers := plugin.containers.modify number fun container =>
      { container with metrics := position } }

def build (settings : Settings) (plugin : Plugin) :
    Except OpenError Container × Plugin × Effects :=
  let (outcome, plugin, effects) := (plugin.setUpLogging settings).setUpTracing settings
  match outcome with
  | .error error => (.error (.tracing error), plugin, effects)
  | .ok () =>
    let (container, plugin) := plugin.install settings
    let lines := plugin.logging.deliver (.unused containerLogger) (containerReady settings)
    (.ok container, plugin, effects ++ .ofLines lines)

def openContainer (plugin : Plugin) : Except OpenError Container × Plugin × Effects :=
  match plugin.currentContainer with
  | some container => (.ok container, plugin, .none)
  | none =>
    match plugin.readSettings with
    | (lines, .error error) => (.error (.settings error), plugin, .ofLines lines)
    | (lines, .ok (settings, plugin)) =>
      let (outcome, plugin, effects) := plugin.build settings
      (outcome, plugin, .ofLines lines ++ effects)

def component (name : String) : LogFields := [("component", .text name)]

def noteReport (note : Note) : Report := .plain note.source .debug note.text

def eventReport (logger : Logger) (event : RequestEvent) : Report where
  logger := logger.name
  level := event.level
  event := .text event.name
  fields := logger.bound ++ .ofJson event.fields
  stack := none

/-- Answers a request through a service, from the current inventory. The event is reported once the
first failure is recorded on the span, if there is one. -/
def answer (service : WiredService) (request : Request) (around : Circumstances)
    (plugin : Plugin) : Except Failure (List DeviceId) × Plugin × Effects :=
  let response :=
    Service.respond service.selector plugin.inventory (plugin.strategyOf service) request
      (plugin.metricsAt service.metrics)
  let traced := plugin.trace around response.span
  (response.outcome, plugin.setMetrics service.metrics response.metrics,
    { Effects.none with
      lines :=
        plugin.writeLosses traced.losses ++
          plugin.writeAll (response.notes.map noteReport) ++
          plugin.writeLosses (traced.failureLosses.take 1).flatten ++
          response.events.flatMap (fun event =>
            plugin.logging.deliver service.logger (eventReport service.logger event)) ++
          plugin.writeLosses (traced.failureLosses.drop 1).flatten
      spans := response.ended.flatMap fun span => (plugin.trace around span).kept })

end Plugin

end DeviceAllocation
