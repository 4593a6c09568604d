import TypeSchema.ValueType.Validation

/-!
# Normal values

The value in which every path that the type expects is absolute and without dots.  The rest of the
value stays as it is.
-/

namespace TypeSchema

/-- A path in its normal form; any other value as it is. -/
def Value.normalizePath (files : FileTree) : Value → Value
  | .path p => .path (files.normalize p)
  | v => v

mutual

/-- The value with the paths of the type in their normal form. -/
def ValueType.normalize (files : FileTree) : ValueType → Value → Value
  | .mk kind arity _, v =>
    match v with
    | .null => .null
    | .list items =>
      if arity.isCollection then .list (items.map fun item => kind.normalize files item)
      else kind.normalize files (.list items)
    | v => kind.normalize files v

/-- A single value with the paths of the kind in their normal form. -/
def Kind.normalize (files : FileTree) : Kind → Value → Value
  | .filename _, v => v.normalizePath files
  | .directory _, v => v.normalizePath files
  | .object members _, v =>
    match v with
    | .object fields =>
      .object (fields.map fun (n, v) => (n, Member.normalizeField files members n v))
    | .map fields => .map (fields.map fun (n, v) => (n, Member.normalizeField files members n v))
    | v => v
  | .dict members _, v =>
    match v with
    | .object fields =>
      .object (fields.map fun (n, v) => (n, Member.normalizeField files members n v))
    | .map fields => .map (fields.map fun (n, v) => (n, Member.normalizeField files members n v))
    | v => v
  | .anyOf alternatives, v => ValueType.normalizeAny files alternatives v
  | _, v => v

/-- The value of a field, normalized by the member of its name. -/
def Member.normalizeField (files : FileTree) : List Member → String → Value → Value
  | [], _, v => v
  | .mk name type :: rest, n, v =>
    if name = n then type.normalize files v else Member.normalizeField files rest n v

/-- The value, normalized by the first alternative that accepts it. -/
def ValueType.normalizeAny (files : FileTree) : List ValueType → Value → Value
  | [], v => v
  | t :: rest, v =>
    if t.accepts files v then t.normalize files v else ValueType.normalizeAny files rest v

end

end TypeSchema
