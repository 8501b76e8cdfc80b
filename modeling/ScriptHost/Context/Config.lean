import ScriptHost.Value.Basic

/-!
# Settings of a context
-/

namespace ScriptHost

/-- What is fixed when a context is made. -/
structure Config where
  /-- The value put for what has no host form; the current sentinel if there is none. -/
  complexObject : Option HostValue := none
  /-- The file name of sources that come without one. -/
  defaultFilename : String := "<eval>"
  /-- How deep a value may nest in either direction. -/
  maxDepth : Nat := 512
  /-- How many elements and entries one script value may have in all. -/
  maxElements : Nat := 1048576
  deriving Inhabited

end ScriptHost
