import TypeSchema.Graph.Derivation

/-!
# The types of declarations

An object becomes a class: a compound one inherits the members of the class it refers to and adds
its own, a simple one has its attributes next to the value it is about.  Any other declaration
becomes what it derives from, under the tags and the arity along the way.  A declaration that is
part of its own type has none.
-/

namespace TypeSchema

/-- Give a member its type, in its place if there is one of the name and else at the end. -/
def Member.put (name : String) (type : ValueType) : List Member → List Member
  | [] => [.mk name type]
  | m :: ms => if m.name = name then .mk name type :: ms else m :: Member.put name type ms

/-- The members of `ms`, and those of `more` that have other names. -/
def Member.join (ms more : List Member) : List Member :=
  more.foldl (fun done m => if done.any (·.name = m.name) then done else done ++ [m]) ms

namespace Graph

open Declaration (Id)

/-- What gives the types of other declarations. -/
abbrev Typing : Type := Id → Except SchemaError ValueType

/-- The declaration is a member of the object around it. -/
def isMember (g : Graph) (id : Id) : Bool :=
  let d := g.node id
  d.role != .definition && (d.production == .object || d.production == .leaf)

/-- The tags demand that there are no fields but the members. -/
def isExact (tags : Metadata) : Bool := tags.value? "require_exact_match" == some (.bool true)

/-- The class of given members under the tags and the arity of an object. -/
def classOf (d : Declaration) (members : List Member) : Except SchemaError ValueType := do
  let type ← (ValueType.ofKind (.object members (isExact d.metadata))).mapError
    (·.placedAt d.location)
  return type.withArity d.effectiveArity

/-- The members, joined by some of the children of a declaration. -/
def addMembers (g : Graph) (typeOf : Typing) (members : List Member) (children : List Id) :
    Except SchemaError (List Member) :=
  children.foldlM
    (fun done child => return Member.put ((g.node child).name.getD "") (← typeOf child) done)
    members

/-- The type of the declaration that an object refers to. -/
def inherited (typeOf : Typing) (d : Declaration) : Except SchemaError (Option ValueType) :=
  match d.reference with
  | .declaration base => (typeOf base).map some
  | _ => .ok none

/-- The class of a compound object. -/
def compoundType (g : Graph) (typeOf : Typing) (d : Declaration) :
    Except SchemaError ValueType := do
  let base ← inherited typeOf d
  let members := match base.bind (·.kind.object?) with
    | some (members, _) => members
    | none => []
  let members ← g.addMembers typeOf members (d.children.filter g.isMember)
  classOf d members

/-- The name of the member that holds the value of a simple object. -/
def valueName (d : Declaration) : String :=
  match d.metadata.valueOrDefault "fundamental_name" d.name with
  | some (.string name) => name
  | _ => "value"

/-- The class of a simple object. -/
def simpleType (g : Graph) (typeOf : Typing) (d : Declaration) :
    Except SchemaError ValueType := do
  let own ← g.addMembers typeOf [] (d.children.filter fun child => (g.node child).role == .attr)
  match d.reference, ← inherited typeOf d with
  | .fundamental kind, _ =>
    let value ← ValueType.ofMetadata kind .empty d.location
    classOf d (own ++ [.mk (valueName d) value])
  | _, some base =>
    match base.kind.object? with
    | some (members, _) => classOf d (Member.join own members)
    | none => classOf d (own ++ [.mk (valueName d) (base.withArity .single)])
  | _, none => throw (.unsupported .baselessSimple d.location)

/-- A class under the tags of a declaration that derives from it. -/
def retagged (base : ValueType) (tags : Metadata) (place : Location) :
    Except SchemaError ValueType :=
  if (tags.find? "require_exact_match").isNone then .ok base
  else
    match base.kind.object? with
    | none => .ok base
    | some (members, _) =>
      ((ValueType.ofKind (.object members (isExact tags))).mapError (·.placedAt place)).map
        (·.withArity base.arity)

/-- The type of a declaration that is no object. -/
def derivedType (g : Graph) (typeOf : Typing) (id : Id) : Except SchemaError ValueType := do
  let r ← g.derivation id
  let tags := r.metadata g
  let place := (g.node id).location
  match r.target with
  | .fundamental kind =>
    let type ← ValueType.ofMetadata kind tags place
    return type.withArity ((r.arity? g).getD .single)
  | .declaration object =>
    tags.checkForObject
    let type ← retagged (← typeOf object) tags place
    return type.withArity ((r.arity? g).getD type.arity)

/-- The type of a declaration, from those of others. -/
def typeStep (g : Graph) (typeOf : Typing) (id : Id) : Except SchemaError ValueType :=
  let d := g.node id
  match d.subtype with
  | some .compound => g.compoundType typeOf d
  | some .simple => g.simpleType typeOf d
  | some .extension => .error (.unsupported .extensionAsType d.location)
  | some _ => g.derivedType typeOf id
  | none => .error (.unsupported .unclassified d.location)

/-- The type of a declaration, made of `free` declarations only. -/
def typeWithin (g : Graph) (free : List Id) (id : Id) : Except SchemaError ValueType :=
  if _h : id ∈ free then g.typeStep (fun other => g.typeWithin (free.erase id) other) id
  else .error (g.circular id)
termination_by free.length
decreasing_by
  rw [List.length_erase_of_mem _h]
  exact Nat.sub_lt (List.length_pos_of_mem _h) Nat.one_pos

/-- The type that a declaration describes. -/
def typeOf (g : Graph) (id : Id) : Except SchemaError ValueType := g.typeWithin g.ids id

end Graph

end TypeSchema
