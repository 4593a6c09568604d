/-!
# Features

Which constructs a source may use.
-/

namespace TypeSchema

/-- The constructs that a source may use. -/
structure Features where
  objects : Bool
  attributes : Bool
  definitions : Bool
  /-- The extensions that may be used; all of them if there is no list. -/
  extensions : Option (List String)
deriving DecidableEq, Repr

namespace Features

/-- Every construct may be used. -/
def all : Features := ⟨true, true, true, none⟩

/-- The extension may be used. -/
def allowsExtension (f : Features) (name : String) : Bool :=
  f.extensions.all (name ∈ ·)

end Features

end TypeSchema
