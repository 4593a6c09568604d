import TypeSchema.Json
import TypeSchema.Lint

/-!
# Reports as JSON
-/

namespace TypeSchema.Lint

/-- A diagnostic as JSON. -/
def Diagnostic.toJson (d : Diagnostic) : Json :=
  .object
    [("severity", .string d.finding.severity.word), ("code", .string d.finding.code),
     ("file", .string d.file.text), ("path", .string d.path),
     ("message", .string d.finding.message)]

/-- A report on a file as JSON; without diagnostics there is no list of them. -/
def FileReport.toJson (r : FileReport) : Json :=
  .object
    ([("file", .string r.file.text), ("status", .string r.statusWord)] ++
      if r.diagnostics.isEmpty then []
      else [("diagnostics", .array (r.diagnostics.map Diagnostic.toJson))])

/-- A report as JSON. -/
def Report.toJson (r : Report) : Json :=
  .object
    [("path", .string r.path.text), ("files_checked", .ofNat r.files.length),
     ("passed", .ofNat r.passed), ("failed", .ofNat r.failed),
     ("errors", .ofNat (r.total .error)), ("warnings", .ofNat (r.total .warning)),
     ("results", .array (r.files.map FileReport.toJson))]

end TypeSchema.Lint
