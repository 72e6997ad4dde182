import Hotplug.Double.Text
import Hotplug.Metrics.Basic

/-!
# Publishing the counts

The counts are published as text: for each family that has samples its help and type, then a line
for each sample with its labels and its value. They are served at one path.

## Main definitions

* `Metrics.Family` — a name, a help text, a type and samples.
* `Metrics.families`, `Metrics.exposition` — the families in order of names, and their text.
* `Metrics.serve` — the answer to a request for a page.
-/

namespace Hotplug.Metrics

/-- One line of a family: a suffix of its name, labels and a value. -/
structure Sample where
  suffix : String := ""
  labels : List (String × String)
  value : String
  deriving DecidableEq, Repr, Inhabited

/-- The samples of one kind of count. -/
structure Family where
  name : String
  help : String
  type : String
  samples : List Sample
  deriving DecidableEq, Repr, Inhabited

/-- How one character is written in a label's value. -/
def escapeChar (c : Char) : List Char :=
  if c = '\\' then ['\\', '\\']
  else if c = '"' then ['\\', '"']
  else if c = '\n' then ['\\', 'n']
  else [c]

/-- A label with its value between quotes. -/
def labelText (label : String × String) : String :=
  label.1 ++ "=\"" ++ String.ofList (label.2.toList.flatMap escapeChar) ++ "\""

/-- The line of a sample. -/
def Sample.line (family : String) (s : Sample) : String :=
  family ++ s.suffix ++ "\x7b" ++ ",".intercalate (s.labels.map labelText) ++ "\x7d " ++ s.value

/-- The lines of a family; none where it has no samples. -/
def Family.lines (f : Family) : List String :=
  if f.samples.isEmpty then []
  else
    ["# HELP " ++ f.name ++ " " ++ f.help, "# TYPE " ++ f.name ++ " " ++ f.type] ++
      f.samples.map (Sample.line f.name)

/-- The samples of counts under one label. -/
def counterSamples (label : String) (t : Table Nat) : List Sample :=
  t.entries.map fun (key, n) => { labels := [(label, key)], value := Digits.text n }

/-- The samples of the failed requests: by code, then by method. -/
def errorSamples (t : Table (Table Nat)) : List Sample :=
  t.entries.flatMap fun (code, methods) =>
    methods.entries.map fun (method, n) =>
      { labels := [("code", code), ("method", method)], value := Digits.text n }

/-- The samples of a histogram: the counts up to each bound and without one, the sum, the count. -/
def histogramSamples (label key : String) (h : Histogram) : List Sample :=
  let bucket (bound : String) (n : Nat) : Sample :=
    { suffix := "_bucket", labels := [(label, key), ("le", bound)], value := Digits.text n }
  (bucketBounds.zip h.upTo).map (fun (bound, n) => bucket bound.text n) ++
    [bucket "+Inf" h.count,
      { suffix := "_sum", labels := [(label, key)], value := h.sum.text },
      { suffix := "_count", labels := [(label, key)], value := Digits.text h.count }]

/-- The families in ascending order of their names. -/
def families (m : Metrics) : List Family :=
  [{ name := "kubevirt_csi_format_total", help := "Block devices formatted", type := "counter",
     samples := counterSamples "fs_type" m.formats },
   { name := "kubevirt_csi_hotplug_total", help := "Volume attach and detach requests handled",
     type := "counter", samples := counterSamples "action" m.hotplugs },
   { name := "kubevirt_csi_operation_duration_seconds",
     help := "CSI operation duration in seconds", type := "histogram",
     samples := m.durations.entries.flatMap fun (key, h) => histogramSamples "method" key h },
   { name := "kubevirt_csi_operation_errors_total", help := "CSI operation errors",
     type := "counter", samples := errorSamples m.errors },
   { name := "kubevirt_csi_operations_total", help := "Total CSI operations", type := "counter",
     samples := counterSamples "method" m.operations }]

/-- The lines of all families. -/
def exposition (m : Metrics) : List String :=
  m.families.flatMap Family.lines

/-- The type of the published text. -/
def contentType : String := "text/plain; version=0.0.4"

/-- The answer to a request for a page. -/
structure Page where
  status : Nat
  contentType : Option String := none
  lines : List String := []
  deriving DecidableEq, Repr, Inhabited

/-- Answers a request for a page: the counts are at one path, to be read only. What follows a
question mark or a number sign is no part of the path. -/
def serve (m : Metrics) (method target : String) : Page :=
  let path := String.ofList (target.toList.takeWhile fun c => c != '?' && c != '#')
  if path ≠ "/metrics" then { status := 404 }
  else if method = "GET" then
    { status := 200, contentType := some contentType, lines := m.exposition }
  else if method = "HEAD" then { status := 200, contentType := some contentType }
  else { status := 405 }

end Hotplug.Metrics
