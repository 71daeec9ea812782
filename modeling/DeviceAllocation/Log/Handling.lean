import DeviceAllocation.Log.Report

/-! How reports get into the log. A logger looks up how it ends when it is first used, and keeps it
from then on if logging has been set up, or if it has fields bound to it. -/

namespace DeviceAllocation

structure LogLine where
  format : LogFormat
  report : Report

inductive Ending where
  -- it prints them itself, which is no part of the log
  | printed
  | handedOver
  deriving DecidableEq, Repr

structure Logger where
  name : String
  bound : LogFields
  -- the ending that it keeps, if it keeps one yet
  kept : Option Ending

def Logger.unused (name : String) : Logger := ⟨name, [], none⟩

structure Logging where
  threshold : Threshold
  handlers : List LogFormat
  -- how loggers end that do not keep an ending
  ending : Ending
  deriving DecidableEq, Repr

namespace Logging

def initial : Logging := ⟨.warning, [], .printed⟩

def handle (logging : Logging) (report : Report) : List LogLine :=
  if logging.threshold.admits report.level then
    logging.handlers.map fun format => ⟨format, report⟩
  else []

def deliver (logging : Logging) (logger : Logger) (report : Report) : List LogLine :=
  match logger.kept.getD logging.ending with
  | .printed => []
  | .handedOver => logging.handle report

def use (logging : Logging) (logger : Logger) : Logger :=
  match logging.ending with
  | .printed => logger
  | .handedOver => { logger with kept := some (logger.kept.getD .handedOver) }

def bind (logging : Logging) (logger : Logger) (fields : LogFields) : Logger where
  name := logger.name
  bound := Keyed.ofList Prod.fst (logger.bound ++ fields)
  kept := some (logger.kept.getD logging.ending)

def addHandler (format : LogFormat) (logging : Logging) : Logging :=
  { logging with handlers := logging.handlers ++ [format] }

/-- Leaves reports to a new handler, which takes the place of all that there were. -/
def setUp (settings : Settings) (logging : Logging) : Logging :=
  { addHandler settings.format { logging with ending := .handedOver, handlers := [] } with
    threshold := settings.threshold }

end Logging

end DeviceAllocation
