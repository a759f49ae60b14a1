/-
Questions about recorded samples: totals of counters and last values of gauges, by name and labels.
-/
import MailReconciler.Metrics.Sample

namespace MailReconciler

namespace Sample

/-- The value of a label, the first of several. -/
def label? (s : Sample) (name : String) : Option String := s.labels.lookup name

/-- Whether a sample carries all the given labels. -/
def carries (s : Sample) (labels : Labels) : Bool := labels.all fun (name, value) => s.label? name == some value

/-- Whether a sample is of a kind and has a name. -/
def isOf (s : Sample) (kind : SampleKind) (name : String) : Bool := s.kind == kind && s.name == name

end Sample

namespace Recording

/-- The samples of a kind and a name in the order of their emission. -/
def samplesOf (samples : List Sample) (kind : SampleKind) (name : String) : List Sample :=
  samples.filter (·.isOf kind name)

/-- The sum of a counter over the samples that carry some labels; the empty sum is the negative zero. -/
def counterTotal (samples : List Sample) (name : String) (labels : Labels) : Float :=
  ((samplesOf samples .counter name).filter (·.carries labels)).foldl (fun sum s => sum + s.value) (-0.0)

/-- The last value of a gauge among the samples that carry some labels. -/
def lastGauge? (samples : List Sample) (name : String) (labels : Labels) : Option Float :=
  (((samplesOf samples .gauge name).reverse).find? (·.carries labels)).map (·.value)

end Recording
end MailReconciler
