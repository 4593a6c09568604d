import TypeSchema.Arguments
import TypeSchema.Format
import TypeSchema.Path

/-!
# The command line

The commands of the program and the arguments they take.
-/

namespace TypeSchema

/-- Where a type comes from: a file with a descriptor, or a declaration of a document. -/
structure TypeSource where
  path : Path
  key : Option String
deriving DecidableEq, Repr

/-- How findings are shown. -/
structure LintStyle where
  json : Bool
  strict : Bool
  quiet : Bool
deriving DecidableEq, Repr

/-- What the program is asked to do. -/
inductive Command where
  | resolve (document : Path) (strict pretty : Bool)
  | convert (source : TypeSource) (format : Format) (output : Option Path)
  | parse (source : TypeSource) (text : String)
  | regex (source : TypeSource)
  | validate (payload : Path) (source : TypeSource) (json : Bool)
  | lint (path : Path) (style : LintStyle)
deriving DecidableEq, Repr

namespace Command

open Arguments

/-- The option that every command takes. -/
def verbose : Switch := ⟨"verbose", some 'v', false, true⟩

/-- An option without value. -/
def flag (long : String) (letter : Option Char) : Switch := ⟨long, letter, false, false⟩

/-- An option with a value. -/
def setting (long : String) (letter : Option Char) : Switch := ⟨long, letter, true, false⟩

/-- The option that names a declaration of a document. -/
def keySetting : Switch := setting "key" (some 'k')

/-- A path that an argument gives, which must not be empty. -/
def pathOf (word : String) : Except Refusal Path :=
  if word.isEmpty then .error .misused else .ok ⟨word⟩

/-- The format that an argument names, or JSON Schema if none is named. -/
def formatOf (word : Option String) : Except Refusal Format :=
  match word with
  | none => .ok .jsonSchema
  | some name =>
    match Format.ofName? name with
    | some f => .ok f
    | none => .error .misused

/-- The source of a type that arguments give. -/
def sourceOf (g : Given) (word : String) : Except Refusal TypeSource := do
  return ⟨← pathOf word, g.value? "key"⟩

/-- The command that resolves a document. -/
def readResolve (words : List String) : Except Refusal Command := do
  let g ← readExactly [verbose, flag "strict" none, flag "pretty" none] 1 words
  match g.operands with
  | [document] => return .resolve (← pathOf document) (g.has "strict") (g.has "pretty")
  | _ => throw .misused

/-- The command that converts a type. -/
def readConvert (words : List String) : Except Refusal Command := do
  let g ← readExactly [verbose, keySetting, setting "format" (some 'f'), setting "output" none] 1
    words
  match g.operands with
  | [source] =>
    return .convert (← sourceOf g source) (← formatOf (g.value? "format"))
      (← (g.value? "output").mapM pathOf)
  | _ => throw .misused

/-- The command that reads a text as a value. -/
def readParse (words : List String) : Except Refusal Command := do
  let g ← readExactly [verbose, keySetting] 2 words
  match g.operands with
  | [source, text] => return .parse (← sourceOf g source) text
  | _ => throw .misused

/-- The command that shows the texts a type accepts. -/
def readRegex (words : List String) : Except Refusal Command := do
  let g ← readExactly [verbose, keySetting] 1 words
  match g.operands with
  | [source] => return .regex (← sourceOf g source)
  | _ => throw .misused

/-- The command that checks a JSON value. -/
def readValidate (words : List String) : Except Refusal Command := do
  let g ← readExactly [verbose, keySetting, flag "json" none] 2 words
  match g.operands with
  | [payload, source] =>
    return .validate (← pathOf payload) (← sourceOf g source) (g.has "json")
  | _ => throw .misused

/-- The command that lints files. -/
def readLint (words : List String) : Except Refusal Command := do
  let g ← readExactly
    [verbose, setting "format" none, flag "strict" none, flag "quiet" (some 'q')] 1 words
  match g.operands with
  | [path] =>
    return .lint (← pathOf path)
      ⟨g.value? "format" == some "json", g.has "strict", g.has "quiet"⟩
  | _ => throw .misused

/-- The names of the commands. -/
def names : List String := ["resolve", "convert", "parse", "regex", "validate", "lint", "help"]

/-- The command of a name, from the words behind it. -/
def ofName (name : String) (words : List String) : Except Refusal Command :=
  match name with
  | "resolve" => readResolve words
  | "convert" => readConvert words
  | "parse" => readParse words
  | "regex" => readRegex words
  | "validate" => readValidate words
  | "lint" => readLint words
  | "help" => .error (if words.all (· ∈ names) then .help else .misused)
  | _ => .error .misused

/-- What a word with a dash says before the name of a command: at most, to be verbose. -/
def readLeading (word : String) : Except Refusal Unit :=
  match word.toList with
  | ['-', '-'] => .error .misused
  | '-' :: '-' :: _ =>
    match word with
    | "--verbose" => .ok ()
    | "--help" => .error .help
    | "--version" => .error .version
    | _ => .error .misused
  | _ :: letters =>
    match letters.find? (· ≠ 'v') with
    | none => .ok ()
    | some 'h' => .error .help
    | some 'V' => .error .version
    | some _ => .error .misused
  | [] => .ok ()

/-- The command that words ask for, of which there has to be at least one. -/
def ofSomeWords : List String → Except Refusal Command
  | [] => .error .misused
  | word :: rest =>
    match word.toList with
    | '-' :: _ :: _ => do
      readLeading word
      ofSomeWords rest
    | _ => ofName word rest

/-- The command that words ask for. -/
def ofWords (words : List String) : Except Refusal Command :=
  if words.isEmpty then .error .nothing else ofSomeWords words

end Command

end TypeSchema
