/-
The exposition of the library's metrics. Samples of a registered family with exactly its labels are gathered for each
assignment of the labels; all others are dropped. The text lists families by name and assignments by their values.
-/
import MailReconciler.Metrics.Sample
import MailReconciler.Table

namespace MailReconciler

/-- A registered family of metrics. Its label names are in increasing order. -/
structure MetricFamily where
  name : String
  help : String
  kind : SampleKind
  labelNames : List String
deriving Repr, DecidableEq

namespace MetricFamily

/-- The families of the library in increasing order of their names. -/
def all : List MetricFamily :=
  [⟨Family.rejections, "Calls rejected while the circuit breaker was open", .counter, ["breaker"]⟩,
    ⟨Family.breakerState, "Circuit breaker state (0=closed, 1=open, 2=half-open)", .gauge, ["breaker"]⟩,
    ⟨Family.transitions, "Circuit breaker state transitions", .counter, ["breaker", "from", "to"]⟩,
    ⟨Family.attempts, "Attempts made by the retry executor", .counter, ["operation", "outcome"]⟩,
    ⟨Family.backoff, "Backoff delays slept between attempts", .histogram, ["operation"]⟩,
    ⟨Family.runs, "Retry executor runs by final outcome", .counter, ["operation", "outcome"]⟩]

/-- The upper bounds of the buckets of a histogram, in seconds. -/
def buckets : List Float := [0.05, 0.1, 0.25, 0.5, 1.0, 2.0, 4.0, 8.0, 16.0, 30.0]

/-- The values that a sample's labels give to the label names of a family, if the names are exactly those. Of several
labels of one name the last counts. -/
def assignment? (f : MetricFamily) (labels : Labels) : Option (List String) :=
  if labels.all fun (name, _) => f.labelNames.contains name then
    f.labelNames.mapM fun name => labels.reverse.lookup name
  else
    none

/-- Whether a sample belongs to a family. -/
def takes (f : MetricFamily) (s : Sample) : Bool := f.kind == s.kind && f.name == s.name

end MetricFamily

/-- What is gathered for one assignment of labels. -/
structure Gathered where
  /-- The number of samples. -/
  count : Nat
  /-- The sum of their values. -/
  sum : Float
  /-- The last value. -/
  last : Float
  /-- For each bucket, how many values do not exceed its bound. -/
  within : List Nat

namespace Gathered

/-- Nothing gathered yet. -/
def none : Gathered := ⟨0, 0.0, 0.0, MetricFamily.buckets.map fun _ => 0⟩

/-- Takes a value in. -/
def add (g : Gathered) (value : Float) : Gathered where
  count := g.count + 1
  sum := g.sum + value
  last := value
  within := g.within.zipWith (fun n bound => if value ≤ bound then n + 1 else n) MetricFamily.buckets

end Gathered

/-- What is gathered for a family, by the values of its labels. -/
abbrev Children := Table (List String) Gathered

/-- Everything gathered, by the names of the families. -/
structure Exposition where
  children : Table String Children

namespace Exposition

/-- Nothing gathered. -/
def empty : Exposition := ⟨.empty⟩

/-- What is gathered for a family. -/
def childrenOf (e : Exposition) (family : String) : Children := (e.children.get? family).getD .empty

/-- Takes a sample in, or drops it. -/
def record (e : Exposition) (s : Sample) : Exposition :=
  match MetricFamily.all.find? (·.takes s) with
  | none => e
  | some family =>
    match family.assignment? s.labels with
    | none => e
    | some values =>
      let children := e.childrenOf family.name
      let gathered := ((children.get? values).getD .none).add s.value
      ⟨e.children.insert family.name (children.insert values gathered)⟩

/-- The exposition of some samples in the order of their emission. -/
def ofSamples (samples : List Sample) : Exposition := samples.foldl record .empty

/-! ## Text -/

/-- A label value between its quotes. -/
def escapeLabel (value : String) : String :=
  String.join (value.toList.map fun c =>
    if c = '\\' then "\\\\" else if c = '\n' then "\\n" else if c = '"' then "\\\"" else String.singleton c)

/-- A line of a metric. -/
def line (name : String) (labels : Labels) (value : String) : String :=
  let pairs := labels.map fun (label, value) => label ++ "=\"" ++ escapeLabel value ++ "\""
  name ++ (if pairs.isEmpty then "" else "\x7b" ++ ",".intercalate pairs ++ "\x7d") ++ " " ++ value

/-- The lines of one assignment of labels. -/
def metricLines (f : MetricFamily) (values : List String) (g : Gathered) : List String :=
  let labels := f.labelNames.zip values
  match f.kind with
  | .counter => [line f.name labels (Decimal.plain.render g.sum)]
  | .gauge => [line f.name labels (Decimal.plain.render g.last)]
  | .histogram =>
    (MetricFamily.buckets.zip g.within).map (fun (bound, n) =>
      line (f.name ++ "_bucket") (labels ++ [("le", Decimal.plain.render bound)]) (toString n)) ++
    [line (f.name ++ "_bucket") (labels ++ [("le", "+Inf")]) (toString g.count),
      line (f.name ++ "_sum") labels (Decimal.plain.render g.sum),
      line (f.name ++ "_count") labels (toString g.count)]

/-- What a kind of metric is called. -/
def kindName : SampleKind → String
  | .counter => "counter"
  | .gauge => "gauge"
  | .histogram => "histogram"

/-- The lines of a family; none without samples. -/
def familyLines (e : Exposition) (f : MetricFamily) : List String :=
  let children := (e.childrenOf f.name).entries.mergeSort fun a b => !decide (b.1 < a.1)
  if children.isEmpty then []
  else ["# HELP " ++ f.name ++ " " ++ f.help, "# TYPE " ++ f.name ++ " " ++ kindName f.kind] ++
    children.flatMap fun (values, g) => metricLines f values g

/-- The lines of the exposition. -/
def lines (e : Exposition) : List String := MetricFamily.all.flatMap e.familyLines

/-- The text of the exposition. -/
def render (e : Exposition) : String := String.join (e.lines.map (· ++ "\n"))

/-! ## Registration -/

/-- Registers a family beside others; a name can be registered once. -/
def register (registered : List String) (f : MetricFamily) : Except String (List String) :=
  if registered.contains f.name then .error ("metric registration failed: duplicate family " ++ f.name)
  else .ok (f.name :: registered)

/-- Registers every family of the library. -/
def registerAll (registered : List String) : Except String (List String) :=
  MetricFamily.all.foldlM register registered

end Exposition
end MailReconciler
