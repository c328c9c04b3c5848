/-!
# Resources

A resource is something that the service stores under a name.  Resources of different kinds may have
the same name.
-/

namespace RestartCheck

/-- Logical name of something that the service stores. -/
structure ResourceRef where
  name : String
  kind : String := "index"
deriving DecidableEq, Repr, Inhabited

/-- The text of a reference: its kind and its name. -/
def ResourceRef.text (ref : ResourceRef) : String :=
  ref.kind ++ ":" ++ ref.name

end RestartCheck
