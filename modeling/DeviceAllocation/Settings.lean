import DeviceAllocation.Json
import DeviceAllocation.Log

namespace DeviceAllocation

inductive Threshold where
  | debug
  | info
  | warning
  | error
  deriving DecidableEq, Repr

namespace Threshold

def name : Threshold → String
  | debug => "DEBUG"
  | info => "INFO"
  | warning => "WARNING"
  | error => "ERROR"

def all : List Threshold := [debug, info, warning, error]

def level : Threshold → Level
  | debug => .debug
  | info => .info
  | warning => .warning
  | error => .error

def admits (threshold : Threshold) (level : Level) : Bool :=
  threshold.level.rank ≤ level.rank

end Threshold

inductive LogFormat where
  | json
  | console
  deriving DecidableEq, Repr

namespace LogFormat

def name : LogFormat → String
  | json => "json"
  | console => "console"

def all : List LogFormat := [json, console]

end LogFormat

structure Settings where
  strategy : Strategy
  -- whether required devices must be available ones
  strict : Bool
  host : String
  metricsPort : Int
  serviceName : String
  environment : String
  threshold : Threshold
  format : LogFormat
  -- where spans are sent, none to write them to the console
  endpoint : Option String
  deriving DecidableEq, Repr

namespace Settings

def default : Settings where
  strategy := .none
  strict := false
  host := "0.0.0.0"
  metricsPort := 8004
  serviceName := "gpu_allocator"
  environment := "development"
  threshold := .info
  format := .json
  endpoint := none

def sections (settings : Settings) : List (String × Json) :=
  [("sharing", .object [("time_slicing", .object [("strategy", .text settings.strategy.name)])]),
    ("allocation", .object [("validate_required_subset", .bool settings.strict)]),
    ("server",
      .object [("host", .text settings.host), ("metrics_port", .int settings.metricsPort)]),
    ("observability", .object [("service_name", .text settings.serviceName),
      ("environment", .text settings.environment), ("log_level", .text settings.threshold.name),
      ("log_format", .text settings.format.name),
      ("otlp_endpoint", (settings.endpoint.map Json.text).getD .null)])]

end Settings

end DeviceAllocation
