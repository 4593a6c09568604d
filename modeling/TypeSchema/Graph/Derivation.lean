import TypeSchema.Graph.Walk
import TypeSchema.ValueType.Tagged

/-!
# Derivations

What a declaration that is no object derives from: the names it goes through, and the object or
fundamental kind at the end.  Of tags and arities along the way the nearest ones count.
-/

namespace TypeSchema.Graph

open Declaration (Id Target)

/-- The declarations on the way, nearest first, and what they lead to. -/
structure Derivation where
  chain : List Id
  target : Target
deriving DecidableEq, Repr

/-- The first object or fundamental kind along a walk; `lost` if there is none. -/
def deriveAlong (g : Graph) (lost : SchemaError) : List Id → Except SchemaError Derivation
  | [] => .error lost
  | id :: rest =>
    let d := g.node id
    if d.isObject then .ok ⟨[], .declaration id⟩
    else
      match d.reference with
      | .fundamental kind => .ok ⟨[id], .fundamental kind⟩
      | .placeholder text => .error (.unresolvedReference text d.location)
      | .unresolved text => .error (.unresolvedReference text d.location)
      | .none | .declaration _ =>
        (g.deriveAlong lost rest).map fun r => ⟨id :: r.chain, r.target⟩

/-- The declaration is part of what it stands for. -/
def circular (g : Graph) (id : Id) : SchemaError :=
  .circularReference (g.node id).label (g.node id).location

/-- What a declaration derives from. -/
def derivation (g : Graph) (id : Id) : Except SchemaError Derivation :=
  g.deriveAlong (g.circular id) (g.walk id)

/-- The tags along a derivation; nearer ones take the place of farther ones. -/
def Derivation.metadata (g : Graph) (r : Derivation) : Metadata :=
  r.chain.foldr (fun id tags => (g.node id).metadata.overlay tags) .empty

/-- The nearest arity along a derivation. -/
def Derivation.arity? (g : Graph) (r : Derivation) : Option Arity :=
  r.chain.findSome? fun id => (g.node id).arity

/-- The tags of a declaration suit what it derives from. -/
def checkDerived (g : Graph) (id : Id) : Except SchemaError Unit :=
  match g.derivation id with
  | .error (.unresolvedReference _ _) => .ok ()
  | .error e => .error e
  | .ok r =>
    match r.target with
    | .fundamental kind =>
      (ValueType.ofMetadata kind (r.metadata g) (g.node id).location).map fun _ => ()
    | .declaration _ => (r.metadata g).checkForObject

/-- The tags of a declaration suit what it turned out to be. -/
def checkMetadata (g : Graph) (id : Id) : Except SchemaError Unit :=
  match (g.node id).subtype with
  | none => .ok ()
  | some .extension => .ok ()
  | some .compound => (g.node id).metadata.checkForObject
  | some .simple => (g.node id).metadata.checkForObject
  | some _ => g.checkDerived id

end TypeSchema.Graph
