import TypeSchema.Uri.Host

/-!
# Uris

A uri in parts: scheme, authority, path, query and fragment.  Reading puts each part into its normal
form: scheme and host in small letters, the port left out where the scheme implies it, dots in the
path resolved, and unsafe characters encoded.  Writing puts the parts together again.
-/

namespace TypeSchema

/-- What stands between the two slashes and the path. -/
structure Uri.Authority where
  user : List Char
  password : Option (List Char)
  host : List Char
  port : Option Nat
deriving DecidableEq, Repr

/-- A uri by its parts; the path is the text from after the authority to the query. -/
structure Uri where
  scheme : List Char
  authority : Option Uri.Authority
  path : List Char
  query : Option (List Char)
  fragment : Option (List Char)
deriving DecidableEq, Repr

namespace Uri

/-! ## Writing -/

/-- The text of an authority. -/
def Authority.text (a : Authority) : List Char :=
  let credentials := match a.password with
    | some p => a.user ++ ':' :: p ++ ['@']
    | none => if a.user = [] then [] else a.user ++ ['@']
  credentials ++ a.host ++ (match a.port with
    | some n => ':' :: Numeral.digits n
    | none => [])

/-- The characters of a uri.  A path that starts with two slashes and follows no authority has a
dot in front, so that it is not taken for one. -/
def toChars (u : Uri) : List Char :=
  u.scheme ++ ':' ::
  (match u.authority with
    | some a => '/' :: '/' :: a.text
    | none => if "//".toList.isPrefixOf u.path then ['/', '.'] else []) ++
  u.path ++
  (match u.query with
    | some q => '?' :: q
    | none => []) ++
  (match u.fragment with
    | some f => '#' :: f
    | none => [])

/-- The text of a uri. -/
def text (u : Uri) : String := String.ofList u.toChars

/-! ## Reading -/

/-- How a scheme is treated. -/
inductive Treatment where
  | file
  /-- A well-known scheme with an authority. -/
  | wellKnown
  | other
deriving DecidableEq

/-- The treatment of a scheme. -/
def treatment (scheme : String) : Treatment :=
  match scheme with
  | "file" => .file
  | "http" => .wellKnown
  | "https" => .wellKnown
  | "ws" => .wellKnown
  | "wss" => .wellKnown
  | "ftp" => .wellKnown
  | _ => .other

/-- A backslash counts as a slash. -/
def Treatment.foldsSlashes : Treatment → Bool
  | .other => false
  | _ => true

/-- The port that a scheme implies. -/
def defaultPort (scheme : String) : Option Nat :=
  match scheme with
  | "http" => some 80
  | "ws" => some 80
  | "https" => some 443
  | "wss" => some 443
  | "ftp" => some 21
  | _ => none

/-- A slash, or what counts as one. -/
def isSlash (t : Treatment) (c : Char) : Bool :=
  c = '/' || (c = '\\' && t.foldsSlashes)

/-- The characters that are read: none of the control characters and spaces at either end, and no
tabs and line breaks. -/
def readable (cs : List Char) : List Char :=
  let bare (cs : List Char) := cs.dropWhile fun c => c.toNat ≤ 0x20
  (bare (bare cs).reverse).reverse.filter fun c => c ≠ '\t' && c ≠ '\n' && c ≠ '\r'

/-- A scheme in small letters, and what follows its colon. -/
def readScheme (cs : List Char) : Option (List Char × List Char) :=
  match cs with
  | c :: _ =>
    if c.isAlpha then
      let (name, rest) := cs.span fun c => c.isAlphanum || c = '+' || c = '-' || c = '.'
      match rest with
      | ':' :: rest => some (name.map Char.toLower, rest)
      | _ => none
    else none
  | [] => none

/-- Characters encoded in a fragment. -/
def fragmentUnsafe : List Char := [' ', '"', '<', '>', '\x60']

/-- Characters encoded in a path. -/
def pathUnsafe : List Char := fragmentUnsafe ++ ['#', '?', '\x7b', '\x7d']

/-- Characters encoded in the name of a user and in a password. -/
def userUnsafe : List Char := pathUnsafe ++ ['/', ':', ';', '=', '@', '[', '\\', ']', '^', '|']

/-- Characters encoded in a query. -/
def queryUnsafe (t : Treatment) : List Char :=
  [' ', '"', '#', '<', '>'] ++ if t.foldsSlashes then ['\''] else []

/-- Query and fragment of what follows a path. -/
def readEnd (t : Treatment) (cs : List Char) : Option (List Char) × Option (List Char) :=
  match cs with
  | '?' :: rest =>
    let (q, rest) := rest.span (· ≠ '#')
    (some (encode (queryUnsafe t) q), match rest with
      | _ :: f => some (encode fragmentUnsafe f)
      | [] => none)
  | '#' :: f => (none, some (encode fragmentUnsafe f))
  | _ => (none, none)

/-! ### Paths -/

/-- A letter and a colon, or a bar in its place. -/
def isDriveLetter (seg : List Char) : Bool :=
  match seg with
  | [c, d] => c.isAlpha && (d = ':' || d = '|')
  | _ => false

/-- A letter and a colon. -/
def isNormalDriveLetter (seg : List Char) : Bool :=
  match seg with
  | [c, ':'] => c.isAlpha
  | _ => false

/-- A segment that stays where it is. -/
def isSingleDot (seg : List Char) : Bool :=
  String.ofList (seg.map Char.toLower) ∈ [".", "%2e"]

/-- A segment that goes up by one. -/
def isDoubleDot (seg : List Char) : Bool :=
  String.ofList (seg.map Char.toLower) ∈ ["..", "%2e%2e", "%2e.", ".%2e"]

/-- The segments, the last one first, without the last; a drive letter stays. -/
def shorten : List (List Char) → List (List Char)
  | [] => []
  | seg :: before => if isDriveLetter seg then seg :: before else before

/-- Put a segment on a path whose last segment comes first; `goesOn` says that a slash follows. -/
def placeSegment (t : Treatment) (done : List (List Char)) (seg : List Char) (goesOn : Bool) :
    List (List Char) :=
  if isDoubleDot seg then
    if goesOn then shorten done else [] :: shorten done
  else if isSingleDot seg then
    if goesOn then done else [] :: done
  else if t = .file && done = [] && isDriveLetter seg then (seg.take 1 ++ [':']) :: done
  else seg :: done

/-- The segments of a path, the last one first, from what has been read of it: `seg` is the current
segment, its last character first.  A drive letter ends where another character follows it. -/
def readSegments (t : Treatment) (done : List (List Char)) (seg : List Char) :
    List Char → List (List Char)
  | [] => placeSegment t done (encode pathUnsafe seg.reverse) false
  | c :: cs =>
    if isSlash t c then readSegments t (placeSegment t done (encode pathUnsafe seg.reverse) true) [] cs
    else if t = .file && done = [] && isNormalDriveLetter seg.reverse then
      readSegments t [seg.reverse] [c] cs
    else readSegments t done (c :: seg) cs

/-- The text of segments, the last one first, with a slash before each. -/
def segmentsText (segs : List (List Char)) : List Char :=
  segs.reverse.flatMap ('/' :: ·)

/-- The path that the characters after its first slash write. -/
def pathOf (t : Treatment) (cs : List Char) : List Char :=
  let segs := readSegments t [] [] cs
  if t = .file then
    match segs.reverse.dropWhile (· = []) with
    | [] => ['/']
    | kept => segmentsText kept.reverse
  else segmentsText segs

/-- What stands before the query or the fragment, and what follows. -/
def splitPath (cs : List Char) : List Char × List Char :=
  cs.span fun c => c ≠ '?' && c ≠ '#'

/-- The path and what follows it, after an authority.  Under the well-known schemes there is always
a path. -/
def readPath (t : Treatment) (cs : List Char) : List Char × List Char :=
  let (path, rest) := splitPath cs
  match path with
  | [] => (if t = .other then [] else ['/'], rest)
  | c :: more => (pathOf t (if isSlash t c then more else path), rest)

/-! ### Authorities -/

/-- What stands before the end of an authority, and what follows. -/
def splitAuthority (t : Treatment) (cs : List Char) : List Char × List Char :=
  cs.span fun c => !(isSlash t c || c = '?' || c = '#')

/-- What stands before the last `@` and after it, if there is one. -/
def splitCredentials (cs : List Char) : Option (List Char × List Char) :=
  if cs.contains '@' then
    let after := cs.reverse.takeWhile (· ≠ '@')
    some ((cs.reverse.drop (after.length + 1)).reverse, after.reverse)
  else none

/-- The name of a user and a password, which is left out if it is empty. -/
def readCredentials (cs : List Char) : List Char × Option (List Char) :=
  let (user, rest) := cs.span (· ≠ ':')
  (encode userUnsafe user, match rest with
    | _ :: p :: ps => some (encode userUnsafe (p :: ps))
    | _ => none)

/-- What stands before the colon of a port, which is not one between brackets, and what follows. -/
def splitHost (inBrackets : Bool) : List Char → List Char × List Char
  | [] => ([], [])
  | c :: cs =>
    if c = ':' && !inBrackets then ([], c :: cs)
    else
      let (host, rest) := splitHost (if c = '[' then true else if c = ']' then false else inBrackets) cs
      (c :: host, rest)

/-- The digits of a port; the port that the scheme implies is left out. -/
def readPort (implied : Option Nat) (ds : List Char) : Except Fault (Option Nat) :=
  match ds with
  | [] => .ok none
  | ds =>
    match Numeral.readDigits 65535 .tooLarge 0 ds with
    | .ok n => .ok (if some n = implied then none else some n)
    | .error _ => .error .port

/-- The authority that stands between the two slashes and the path, where the scheme is not that of
files; `goesOn` says that something follows it.  A backslash ends the port under any scheme; what
stands from there on belongs to the path and is given beside the authority. -/
def readAuthority (t : Treatment) (scheme : String) (cs : List Char) (goesOn : Bool) :
    Except Fault (Authority × List Char) := do
  let (user, password, rest) ← match splitCredentials cs with
    | none => pure ([], none, cs)
    | some ([], rest) => if rest = [] ∧ goesOn then throw Fault.emptyHost else pure ([], none, rest)
    | some (credentials, rest) =>
      let (user, password) := readCredentials credentials
      pure (user, password, rest)
  let (host, rest) := splitHost false rest
  if t = .wellKnown ∧ host = [] then throw Fault.emptyHost
  let host ← if t = .other then opaqueHost host else namedHost host
  if host = [] ∧ rest ≠ [] then throw Fault.emptyHost
  let (digits, rest) := (rest.drop 1).span (· ≠ '\\')
  let port ← readPort (defaultPort scheme) digits
  if host = [] ∧ (user ≠ [] ∨ password.isSome) then throw Fault.emptyHost
  return (⟨user, password, host, port⟩, rest)

/-- The uri of an authority, a path and what follows it. -/
def build (t : Treatment) (scheme : List Char) (authority : Option Authority)
    (path rest : List Char) : Uri :=
  let (query, fragment) := readEnd t rest
  ⟨scheme, authority, path, query, fragment⟩

/-- No user, no port and no host. -/
def emptyAuthority : Authority := ⟨[], none, [], none⟩

/-- A uri of the file scheme. -/
def readFile (cs : List Char) : Except Fault Uri :=
  let scheme := "file".toList
  match cs with
  | a :: b :: rest =>
    if isSlash .file a && isSlash .file b then
      let (host, after) := splitAuthority .file rest
      if isDriveLetter host then
        let (path, rest) := splitPath rest
        .ok (build .file scheme (some emptyAuthority) (pathOf .file path) rest)
      else do
        let host ← if host = [] then pure [] else namedHost host
        let host := if host = "localhost".toList then [] else host
        let (path, rest) := readPath .file after
        let host := if startsWithDrive path then [] else host
        return build .file scheme (some ⟨[], none, host, none⟩) path rest
    else hostless scheme cs
  | cs => hostless scheme cs
where
  /-- A path that starts with a drive letter. -/
  startsWithDrive (path : List Char) : Bool :=
    isNormalDriveLetter ((path.drop 1).takeWhile (· ≠ '/'))
  /-- A path without an authority before it. -/
  hostless (scheme cs : List Char) : Except Fault Uri :=
    let (path, rest) := splitPath cs
    let path := match path with
      | c :: more => if isSlash .file c then more else path
      | [] => []
    .ok (build .file scheme (some emptyAuthority) (pathOf .file path) rest)

/-- A uri with two slashes before its authority. -/
def readWithAuthority (t : Treatment) (scheme cs : List Char) : Except Fault Uri := do
  let (authority, after) := splitAuthority t cs
  let (authority, rest) ← readAuthority t (String.ofList scheme) authority (after ≠ [])
  let (path, rest) := readPath t (rest ++ after)
  return build t scheme (some authority) path rest

/-- A uri whose scheme has no rules of its own. -/
def readOther (scheme cs : List Char) : Except Fault Uri :=
  match cs with
  | '/' :: '/' :: rest => readWithAuthority .other scheme rest
  | '/' :: rest =>
    let (path, rest) := splitPath rest
    .ok (build .other scheme none (pathOf .other path) rest)
  | cs =>
    let (path, rest) := splitPath cs
    .ok (build .other scheme none (encode [] path) rest)

/-- The uri that a text stands for. -/
def ofChars (cs : List Char) : Except Fault Uri :=
  match readScheme (readable cs) with
  | none => .error .noScheme
  | some (scheme, rest) =>
    match treatment (String.ofList scheme) with
    | .file => readFile rest
    | .wellKnown =>
      readWithAuthority .wellKnown scheme (rest.dropWhile fun c => c = '/' || c = '\\')
    | .other => readOther scheme rest

end Uri

end TypeSchema
