import DeviceAllocation.Environment
import DeviceAllocation.Log.Report
import DeviceAllocation.Text.LowerCase
import DeviceAllocation.Text.Number

namespace DeviceAllocation.Tracing

/-- Traces are drawn by chance from so many. A share of them is kept, which is the first ones. -/
def traceCount : Nat := 0x10000000000000000

/-- How many traces make up a share, none when a number is no share. -/
def shareOf? : Binary64 → Option Nat
  | .finite negative mantissa exponent =>
    let (n, d) := Binary64.scale 2 mantissa 1 exponent
    if (negative ∧ mantissa ≠ 0) ∨ d < n then none
    else some (Binary64.roundHalfEven (n * traceCount) d)
  | _ => none

def samplerReport (event : String) : Report :=
  .plain "opentelemetry.sdk.trace.sampling" .warning event

/-- How many traces the sampler that the environment asks for keeps, and what is warned of. Samplers
differ in what they do with spans inside of others, which there are none of. -/
def sampling (environment : Environment) : Nat × List Report :=
  let name := Text.lowerCase ((environment.value? "OTEL_TRACES_SAMPLER").getD "always_on")
  if name ∈ ["always_on", "parentbased_always_on"] then (traceCount, [])
  else if name ∈ ["always_off", "parentbased_always_off"] then (0, [])
  else if name ∈ ["traceidratio", "parentbased_traceidratio"] then
    match ((environment.value? "OTEL_TRACES_SAMPLER_ARG").bind fun text =>
        Text.real? text.toList).bind shareOf? with
    | some share => (share, [])
    | none =>
      (traceCount,
        [samplerReport
          "Could not convert TRACES_SAMPLER_ARG to float. Using default rate 1.0."])
  else (traceCount, [samplerReport ("Couldn't recognize sampler " ++ name ++ ".")])

end DeviceAllocation.Tracing
