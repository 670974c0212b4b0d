import Estate.Extraction

/-!
Extractions as JSON. What there is not is left out.
-/

namespace Estate

open Json

namespace Report

def optional (key : String) (v : Option Value) : List (String × Value) :=
  (v.map fun v => (key, v)).toList

def ofNat (n : Nat) : Value := .ofInt n

end Report

open Report

def FieldTrace.toJson (t : FieldTrace) : Value :=
  .object (Keyed.ofList
    ([("field", .string t.field), ("fallbackPath", .array (t.fallbackPath.map ofNat)),
        ("status", .string t.status.name)] ++
      optional "strategy" (t.kind.map fun k => .string k.name) ++
      optional "error" (t.error.map fun e => .string e.message)))

namespace Extraction

def diagnostics (e : Extraction) : Value :=
  .object (Keyed.ofList
    ([("scraperName", .string e.mapping), ("populatedFields", ofNat e.coverage.populated),
        ("totalFields", ofNat e.coverage.total),
        ("extractionRate", .number (.float e.coverage.rate)),
        ("qualityGrade", .string e.coverage.grade.name),
        ("missingFields", .ofStrings e.coverage.missing)] ++
      optional "meetsExpectation" (e.coverage.meetsExpectation.map .bool) ++
      optional "fieldTraces" (e.traces.map fun ts => .array (ts.map FieldTrace.toJson))))

def toJson (e : Extraction) : Value :=
  .object (Keyed.ofList
    ([("success", .bool true), ("properties", .array [.object e.record]),
        ("diagnostics", e.diagnostics)] ++
      optional "fingerprint" (e.fingerprint.map .string)))

/-- An extraction that did not come about. -/
def failureJson (message : String) : Value :=
  .object (Keyed.ofList
    [("success", .bool false), ("properties", .array []), ("error", .string message)])

end Extraction

end Estate
