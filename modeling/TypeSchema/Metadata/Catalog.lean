import TypeSchema.Fundamental
import TypeSchema.Metadata.Value

/-!
# The catalog of tags

Every tag that declarations may carry: the type of its value, what it means to leave it out, which
declarations take it, and whether it turns a declaration that refers to another into a type of its
own.
-/

namespace TypeSchema

namespace Metadata

/-- What a tag means where it is left out. -/
inductive Default where
  | nothing
  | constant (v : Value)
  /-- The name of the owner with an `s` behind it. -/
  | pluralOfOwner

/-- The declarations that may carry a tag. -/
inductive Scope where
  | everywhere
  | kinds (kinds : List Fundamental)
  | objects

/-- What is known of a tag. -/
structure Spec where
  name : String
  host : Host
  default : Default
  /-- A declaration that refers to another and carries the tag is a type of its own. -/
  createsNewType : Bool
  scope : Scope

namespace Spec

/-- What the tag means where `owner` leaves it out. -/
def defaultValue (s : Spec) (owner : Option String) : Option Value :=
  match s.default with
  | .nothing => none
  | .constant v => some v
  | .pluralOfOwner => owner.map fun name => .string (name ++ "s")

/-- Declarations over the kind may carry the tag. -/
def appliesTo (s : Spec) (kind : Fundamental) : Bool :=
  match s.scope with
  | .everywhere => true
  | .kinds kinds => kind ∈ kinds
  | .objects => false

/-- Objects may carry the tag. -/
def appliesToObjects (s : Spec) : Bool :=
  match s.scope with
  | .everywhere => true
  | .kinds _ => false
  | .objects => true

end Spec

/-- All tags. -/
def catalog : List Spec :=
  [⟨"description", .string, .nothing, false, .everywhere⟩,
   ⟨"plural", .string, .pluralOfOwner, false, .everywhere⟩,
   ⟨"min", .number, .nothing, true, .kinds [.int, .number]⟩,
   ⟨"max", .number, .nothing, true, .kinds [.int, .number]⟩,
   ⟨"bytes", .integer, .nothing, true, .kinds [.int]⟩,
   ⟨"min_length", .integer, .nothing, true, .kinds [.string]⟩,
   ⟨"max_length", .integer, .nothing, true, .kinds [.string]⟩,
   ⟨"validation_expression", .string, .nothing, true, .kinds [.string]⟩,
   ⟨"values", .list, .nothing, true, .kinds [.enumeration]⟩,
   ⟨"friendly_values", .list, .nothing, true, .kinds [.enumeration]⟩,
   ⟨"ensure_exists", .bool, .constant (.bool false), true, .kinds [.filename, .directory]⟩,
   ⟨"match_any", .bool, .constant (.bool false), true, .kinds [.filename]⟩,
   ⟨"require_exact_match", .bool, .constant (.bool false), true, .objects⟩,
   ⟨"fundamental_name", .string, .constant (.string "value"), true, .objects⟩]

/-- What is known of the tag of a name. -/
def spec? (tag : String) : Option Spec := catalog.find? (·.name = tag)

end Metadata

end TypeSchema
