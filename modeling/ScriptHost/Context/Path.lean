/-!
# Property paths

The keys that lead from the global object to a value, from left to right.  A key is never split, so
one with a point in it is one key.
-/

namespace ScriptHost

/-- The keys of a path in order. -/
structure PropertyPath where
  keys : List String
  deriving DecidableEq, Repr

namespace PropertyPath

/-- The path of a single key. -/
def ofKey (key : String) : PropertyPath := ⟨[key]⟩

/-- The path has no key. -/
def isEmpty (path : PropertyPath) : Bool := path.keys.isEmpty

end PropertyPath

end ScriptHost
