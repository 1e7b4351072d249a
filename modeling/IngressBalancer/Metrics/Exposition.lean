import IngressBalancer.Decimal.Digits
import IngressBalancer.Metrics.Basic
/-!
# Exposition of the metrics

The metrics in the text form of OpenMetrics: for each metric its help, its
type, and its samples, and a last line that marks the end.
-/

namespace IngressBalancer

namespace Metrics

/-- A name with labels in braces, a blank, and a value. -/
def sample (name : String) (labels : List (String × String)) (value : List Char) : String :=
  let inner := labels.map fun l => l.1.toList ++ '=' :: '"' :: l.2.toList ++ ['"']
  let braces := if labels.isEmpty then [] else '\x7b' :: [','].intercalate inner ++ ['\x7d']
  String.ofList (name.toList ++ braces ++ ' ' :: value)

/-- The samples of a metric after its help and its type. -/
def family (name type help : String) (samples : List String) : List String :=
  ["# HELP " ++ name ++ " " ++ help ++ ".", "# TYPE " ++ name ++ " " ++ type] ++ samples

/-- A count in 64 bits with a sign. -/
def showGauge (n : Nat) : List Char := Text.showInt (Int64.ofNat n).toInt

/-- The samples of one histogram: sum, count, and how many values each bound holds. -/
def histogramSamples (name : String) (labels : List (String × String)) (h : Histogram) :
    List String :=
  let reached := (List.range h.buckets.length).map fun i => (h.buckets.take (i + 1)).foldl (· + ·) 0
  let bounds := Histogram.bounds.map (fun b => String.ofList (Decimal.showFloat b)) ++ ["+Inf"]
  [sample (name ++ "_sum") labels (Decimal.showFloat h.sum),
    sample (name ++ "_count") labels (Text.showNat h.count)] ++
    (bounds.zip reached).map fun b =>
      sample (name ++ "_bucket") (("le", b.1) :: labels) (Text.showNat b.2)

/-- The lines of the exposition. -/
def lines (m : Metrics) : List String :=
  family "alb_managed_ingresses" "gauge" "Number of ingresses managed per namespace"
    (m.managed.entries.map fun e =>
      sample "alb_managed_ingresses" [("namespace", e.1)] (showGauge e.2)) ++
  family "alb_on_update" "counter" "Number of convergence passes started"
    [sample "alb_on_update_total" [] (Text.showNat m.updates)] ++
  family "alb_parked_resources" "gauge"
    "Resources skipped after reaching the consecutive failure limit"
    [sample "alb_parked_resources" [] (showGauge m.parked)] ++
  family "alb_reconcile_duration_seconds" "histogram"
    "Duration of convergence passes and drift resyncs in seconds"
    (m.durations.entries.flatMap fun e =>
      histogramSamples "alb_reconcile_duration_seconds" [("kind", e.1)] e.2) ++
  family "alb_reconcile_errors" "counter" "Number of per-resource reconcile failures"
    (m.errors.entries.map fun e =>
      sample "alb_reconcile_errors_total" [("kind", e.1)] (Text.showNat e.2)) ++
  ["# EOF"]

/-- The exposition; every line ends in a line feed. -/
def expose (m : Metrics) : String := String.join (m.lines.map (· ++ "\n"))

end Metrics

end IngressBalancer
