import TypeSchema.Text.Pieces

/-!
# Arguments

The words behind a command are operands and options.  An option has a long name behind two dashes
and may have a letter behind one dash; letters may stand together.  The value of an option follows
it, or stands in the same word, behind an equals sign after a long name.  Behind a word of two
dashes all words are operands.
-/

namespace TypeSchema.Arguments

/-- An option of a command. -/
structure Switch where
  long : String
  letter : Option Char
  takesValue : Bool
  /-- It may be given more than once. -/
  repeatable : Bool
deriving DecidableEq, Repr

/-- Why words are no arguments of a command. -/
inductive Refusal where
  /-- There are none. -/
  | nothing
  /-- They ask for help. -/
  | help
  /-- They ask which version this is. -/
  | version
  | misused
deriving DecidableEq, Repr

/-- What words say: the options with their values, and the operands. -/
structure Given where
  options : List (String × String)
  operands : List String
deriving DecidableEq, Repr

namespace Given

/-- The option is given. -/
def has (g : Given) (long : String) : Bool := g.options.any (·.1 = long)

/-- The value of an option. -/
def value? (g : Given) (long : String) : Option String :=
  (g.options.find? (·.1 = long)).map (·.2)

/-- One more option, in front. -/
def withOption (long value : String) (g : Given) : Given :=
  { g with options := (long, value) :: g.options }

/-- One more operand, in front. -/
def withOperand (word : String) (g : Given) : Given := { g with operands := word :: g.operands }

/-- No option is given twice, unless it may be. -/
def isDistinct (switches : List Switch) (g : Given) : Bool :=
  switches.all fun s => s.repeatable || g.options.countP (·.1 = s.long) ≤ 1

end Given

/-- What a word does: it is complete, or its last option needs the next word as its value. -/
inductive Effect where
  | options (given : List (String × String))
  | needsValue (given : List (String × String)) (long : String)

/-- The option of a long name, with what stands behind an equals sign. -/
def readLong (switches : List Switch) (cs : List Char) : Except Refusal Effect :=
  let name := String.ofList (cs.takeWhile (· ≠ '='))
  match cs.dropWhile (· ≠ '='), switches.find? (·.long = name) with
  | [], none => .error (if name = "help" then .help else .misused)
  | _, none => .error .misused
  | [], some s => .ok (if s.takesValue then .needsValue [] name else .options [(name, "")])
  | _ :: value, some s =>
    if s.takesValue then .ok (.options [(name, String.ofList value)]) else .error .misused

/-- The options of letters, of which the last one may have its value behind it. -/
def readLetters (switches : List Switch) (done : List (String × String)) :
    List Char → Except Refusal Effect
  | [] => .ok (.options done.reverse)
  | c :: rest =>
    match switches.find? (·.letter = some c) with
    | none => .error (if c = 'h' then .help else .misused)
    | some s =>
      if s.takesValue then
        match rest with
        | [] => .ok (.needsValue done.reverse s.long)
        | '=' :: value => .ok (.options (((s.long, String.ofList value) :: done).reverse))
        | value => .ok (.options (((s.long, String.ofList value) :: done).reverse))
      else readLetters switches ((s.long, "") :: done) rest

/-- The word can be the value of the option before it. -/
def isValue (word : String) : Bool :=
  match word.toList with
  | ['-'] => true
  | '-' :: _ => false
  | _ => true

/-- What words say about the options of a command. -/
def read (switches : List Switch) : List String → Except Refusal Given
  | [] => .ok ⟨[], []⟩
  | word :: rest =>
    match word.toList with
    | ['-', '-'] => .ok ⟨[], rest⟩
    | '-' :: '-' :: cs => do
      match ← readLong switches cs with
      | .options given => return given.foldr (fun (n, v) g => g.withOption n v) (← read switches rest)
      | .needsValue given name => continued given name rest
    | '-' :: c :: cs => do
      match ← readLetters switches [] (c :: cs) with
      | .options given => return given.foldr (fun (n, v) g => g.withOption n v) (← read switches rest)
      | .needsValue given name => continued given name rest
    | _ => return (← read switches rest).withOperand word
where
  /-- The next word is the value of an option. -/
  continued (given : List (String × String)) (name : String) :
      List String → Except Refusal Given
    | [] => .error .misused
    | value :: rest => do
      if isValue value then
        return (given ++ [(name, value)]).foldr (fun (n, v) g => g.withOption n v)
          (← read switches rest)
      throw .misused

/-- What words say, if there are as many operands as a command takes and no option is given too
often. -/
def readExactly (switches : List Switch) (operands : Nat) (words : List String) :
    Except Refusal Given := do
  let g ← read switches words
  if g.operands.length = operands ∧ g.isDistinct switches then return g
  throw .misused

end TypeSchema.Arguments
