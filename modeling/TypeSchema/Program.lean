import TypeSchema.CommandLine
import TypeSchema.FileTree.Update
import TypeSchema.JsonSchema.Checking
import TypeSchema.Lint.Json
import TypeSchema.Loading
import TypeSchema.TextForm.Reading
import TypeSchema.TextForm.Writing

/-!
# The program

What each command writes, as a function of the files it finds.
-/

namespace TypeSchema

/-- What a run of the program leaves: its exit code, what it wrote, and the file it wrote to. -/
structure Outcome where
  exit : Nat
  stdout : String
  stderr : String
  written : Option (Path × String)
deriving DecidableEq, Repr

namespace Outcome

/-- A successful run that writes a line. -/
def line (text : String) : Outcome := ⟨0, text ++ "\n", "", none⟩

/-- A run that ends with a message. -/
def failure (exit : Nat) (message : String) : Outcome := ⟨exit, "", message ++ "\n", none⟩

/-- A run that ends with an error. -/
def ofError (e : SchemaError) : Outcome := failure e.exitCode ("Error: " ++ e.message)

/-- A run that breaks off. -/
def brokenOff : Outcome := failure 101 "assertion failed: self.is_char_boundary(new_len)"

/-- A run that ends with an error if there is one. -/
def ofExcept (r : Except SchemaError Outcome) : Outcome :=
  match r with
  | .ok o => o
  | .error e => ofError e

end Outcome

/-- The files that a run finds, and the first year of the century it takes place in. -/
structure World where
  files : FileTree
  century : Int

namespace World

/-- The type of a source. -/
def typeOf (w : World) (source : TypeSource) : Except SchemaError ValueType :=
  match source.key with
  | some key => do (← w.files.loadDocument ⟨true, .all⟩ source.path).typeOfKey key
  | none => w.files.loadType source.path

/-! ## Resolving -/

/-- The word for what a declaration turned out to be. -/
def subtypeWord : Declaration.Subtype → String
  | .extension => "extension"
  | .config => "config"
  | .compound => "compound"
  | .simple => "simple"
  | .alias => "alias"
  | .augmented => "augmented"
  | .fundamental => "fundamental"

/-- A declaration as it is listed. -/
def listed (key : String) (d : Declaration) : Json :=
  .object
    [("key", .string key),
     ("subtype", (d.subtype.map fun s => Json.string (subtypeWord s)).getD .null),
     ("arity", .string d.effectiveArity.text), ("new_type", .bool d.isNewType),
     ("external", .bool d.isExternal), ("location", .string d.location.text)]

/-- The sources and the declarations of a document. -/
def listing (doc : Document) : Json :=
  .object
    [("sources", .array (doc.sources.map fun s => .string s.path.text)),
     ("declarations", .array (doc.keys.map fun (key, id) => listed key (doc.graph.node id)))]

/-- List the declarations of a document. -/
def resolve (w : World) (path : Path) (strict pretty : Bool) : Outcome :=
  .ofExcept do
    let doc ← w.files.loadDocument ⟨strict, .all⟩ path
    return .line (if pretty then Json.pretty 0 (listing doc) else Json.compact (listing doc))

/-! ## Types -/

/-- Convert a type to a format, and write it to a file if one is named. -/
def convert (w : World) (source : TypeSource) (format : Format) (output : Option Path) :
    Outcome :=
  .ofExcept do
    let text := format.render (← w.typeOf source)
    match output with
    | none => return .line text
    | some p =>
      match w.files.write p text.toUTF8 with
      | .ok _ => return ⟨0, "", "", some (p, text)⟩
      | .error e => return .failure 3 ("Error writing to " ++ p.text ++ ": " ++ e.message)

/-- Read a text as a value, and write the value as text. -/
def parse (w : World) (source : TypeSource) (text : String) : Outcome :=
  .ofExcept do
    let type ← w.typeOf source
    match type.readText w.files w.century text with
    | .ok v => return .line (← type.writeText w.files v)
    | .error (.refused e) => throw e
    | .error .brokenOff => return .brokenOff

/-- Show the texts that a type accepts, in the order in which they are tried. -/
def regex (w : World) (source : TypeSource) : Outcome :=
  .ofExcept do
    let forms ← (← w.typeOf source).textForms
    return ⟨0, String.join (forms.map fun f => f.text ++ "\n"), "", none⟩

/-! ## Checking -/

/-- A run that could not check anything. -/
def checkFailure (json : Bool) (exit : Nat) (message : String) : Outcome :=
  if json then
    { Outcome.line (Json.compact (.object [("valid", .bool false), ("error", .string message)])) with
      exit := exit }
  else .failure exit ("Error: " ++ message)

/-- A run that found violations. -/
def checkReport (json : Bool) (violations : List JsonSchema.Violation) : Outcome :=
  if json then
    let errors := violations.map fun v =>
      Json.object [("path", .string v.pointer), ("message", .string v.message)]
    { Outcome.line (Json.compact (.object [("valid", .bool false), ("errors", .array errors)])) with
      exit := 1 }
  else
    let lines := violations.map fun v => "  " ++ v.pointer ++ ": " ++ v.message ++ "\n"
    ⟨1, "", "Validation failed:\n" ++ String.join lines, none⟩

/-- Check a JSON value against a type. -/
def validate (w : World) (payload : Path) (source : TypeSource) (json : Bool) : Outcome :=
  match w.files.loadJson payload with
  | .error e => checkFailure json e.exitCode ("loading payload: " ++ e.message)
  | .ok j =>
    match w.typeOf source with
    | .error e => checkFailure json e.exitCode ("loading type: " ++ e.message)
    | .ok type =>
      match type.checkPayload j with
      | .ok _ => .line (if json then Json.compact (.object [("valid", .bool true)]) else "Valid")
      | .error (.invalid violations) => checkReport json violations
      | .error .rejectedSchema =>
        checkFailure json PayloadError.rejectedSchema.exitCode PayloadError.rejectedSchema.message

/-! ## Linting -/

/-- A text in a colour of the terminal. -/
def coloured (colour : Nat) (text : String) : String :=
  "\x1b[" ++ Numeral.ofNat colour ++ "m" ++ text ++ "\x1b[0m"

/-- Green. -/
def green : Nat := 32

/-- Yellow. -/
def yellow : Nat := 33

/-- Red. -/
def red : Nat := 31

/-- The mark of what became of a file. -/
def mark : Option Lint.Severity → String
  | none => coloured green "✓"
  | some .warning => coloured yellow "⚠"
  | some .error => coloured red "✗"

/-- A diagnostic as a line. -/
def diagnosticLine (d : Lint.Diagnostic) : String :=
  let s := d.finding.severity
  let colour := match s with
    | .error => red
    | .warning => yellow
  "    " ++ coloured colour (s.word ++ "[" ++ d.finding.code ++ "]") ++ ": " ++ d.path ++ " - " ++
    d.finding.message ++ "\n"

/-- What is said of a file. -/
def fileLines (quiet : Bool) (r : Lint.FileReport) : String :=
  let head :=
    if quiet && r.status.isNone then "" else "  " ++ mark r.status ++ " " ++ r.file.text ++ "\n"
  let shown := r.diagnostics.filter fun d => !quiet || d.finding.severity == .error
  head ++ String.join (shown.map diagnosticLine)

/-- The files pass. -/
def isPassed (r : Lint.Report) : Bool := r.isOk && (!r.strict || r.total .warning == 0)

/-- What is said at the end. -/
def summary (r : Lint.Report) : String :=
  if isPassed r then
    coloured green ("✓ " ++ Numeral.ofNat r.files.length ++ " files checked, all passed")
  else
    coloured red
      ("✗ " ++ Numeral.ofNat r.files.length ++ " files checked: " ++ Numeral.ofNat r.passed ++
        " passed, " ++ Numeral.ofNat r.failed ++ " failed (" ++ Numeral.ofNat (r.total .error) ++
        " errors, " ++ Numeral.ofNat (r.total .warning) ++ " warnings)")

/-- A report as text. -/
def reportText (quiet : Bool) (r : Lint.Report) : String :=
  let head := if quiet then "" else "Linting " ++ r.path.text ++ " ...\n\n"
  head ++ String.join (r.files.map (fileLines quiet)) ++ "\n" ++ summary r ++ "\n"

/-- Lint a file or a directory. -/
def lint (w : World) (path : Path) (style : LintStyle) : Outcome :=
  if w.files.hasPath path then
    let r := Lint.lint w.files path style.strict
    let text :=
      if style.json then Json.pretty 0 r.toJson ++ "\n" else reportText style.quiet r
    ⟨if isPassed r then 0 else 1, text, "", none⟩
  else .failure 2 ("Error: path not found: " ++ path.text)

/-! ## Commands -/

/-- Do what a command asks for. -/
def run (w : World) : Command → Outcome
  | .resolve document strict pretty => w.resolve document strict pretty
  | .convert source format output => w.convert source format output
  | .parse source text => w.parse source text
  | .regex source => w.regex source
  | .validate payload source json => w.validate payload source json
  | .lint path style => w.lint path style

/-- How the program is used. -/
def usage : String :=
  String.join
    (["usage: [-v] COMMAND",
      "  resolve DOCUMENT [--strict] [--pretty]",
      "  convert SOURCE [-k KEY] [-f json|xml|dsl] [--output FILE]",
      "  parse SOURCE TEXT [-k KEY]",
      "  regex SOURCE [-k KEY]",
      "  validate PAYLOAD SOURCE [-k KEY] [--json]",
      "  lint PATH [--format text|json] [--strict] [-q]"].map (· ++ "\n"))

/-- The name and the version of the program. -/
def version : String := "decl-schema 0.1.0"

/-- Do what words ask for. -/
def runWords (w : World) (words : List String) : Outcome :=
  match Command.ofWords words with
  | .ok command => w.run command
  | .error .nothing => ⟨2, "", usage, none⟩
  | .error .help => ⟨0, usage, "", none⟩
  | .error .version => .line version
  | .error .misused => ⟨2, "", "error: unknown or missing arguments\n" ++ usage, none⟩

end World

end TypeSchema
