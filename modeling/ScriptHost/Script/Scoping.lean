import ScriptHost.Script.Code

/-!
# Declared names

Which names a piece of code declares, and where they live.  Names declared by `var` belong to the
whole function, all others to the block that they stand in.

* `patternNames`: the names that a pattern binds;
* `varNames`: the names declared by `var`, however deep;
* `blockNames`: the names that a block declares for itself;
* `declaredFunctions`: the functions declared by the statements of a block.
-/

namespace ScriptHost.Script

mutual

/-- The names that a pattern binds, from left to right. -/
def patternNames : Pattern → List Units
  | .place (.name id) => [id]
  | .place _ => []
  | .array items => slotNames items
  | .object fields none => fieldNames fields
  | .object fields (some rest) => fieldNames fields ++ patternNames rest
  | .default pattern _ => patternNames pattern

/-- The names that the elements of an array pattern bind. -/
def slotNames : List Slot → List Units
  | [] => []
  | .hole :: rest => slotNames rest
  | .item pattern :: rest => patternNames pattern ++ slotNames rest
  | .rest pattern :: rest => patternNames pattern ++ slotNames rest

/-- The names that the members of an object pattern bind. -/
def fieldNames : List Field → List Units
  | [] => []
  | .mk _ pattern :: rest => patternNames pattern ++ fieldNames rest

end

mutual

/-- Matching the pattern computes expressions. -/
def Pattern.computes : Pattern → Bool
  | .place (.name _) => false
  | .place _ => true
  | .array items => slotsCompute items
  | .object fields none => fieldsCompute fields
  | .object fields (some rest) => fieldsCompute fields || rest.computes
  | .default _ _ => true

/-- Matching one of the elements computes expressions. -/
def slotsCompute : List Slot → Bool
  | [] => false
  | .hole :: rest => slotsCompute rest
  | .item pattern :: rest => pattern.computes || slotsCompute rest
  | .rest pattern :: rest => pattern.computes || slotsCompute rest

/-- Matching one of the members computes expressions. -/
def fieldsCompute : List Field → Bool
  | [] => false
  | .mk (.fixed _) pattern :: rest => pattern.computes || fieldsCompute rest
  | .mk (.computed _) _ :: _ => true

end

/-- The pattern is a name and nothing else. -/
def Pattern.isName : Pattern → Bool
  | .place (.name _) => true
  | _ => false

/-- The names that a list of bindings declares. -/
def bindingNames (bindings : List (Pattern × Option Expr)) : List Units :=
  bindings.flatMap fun binding => patternNames binding.1

mutual

/-- The names that a statement declares by `var`. -/
def stmtVars : Stmt → List Units
  | .declare .var bindings => bindingNames bindings
  | .block (.mk _ body) => listVars body
  | .branch _ yes none => stmtVars yes
  | .branch _ yes (some no) => stmtVars yes ++ stmtVars no
  | .whileLoop _ body => stmtVars body
  | .doWhile body _ => stmtVars body
  | .forLoop _ none _ _ body => stmtVars body
  | .forLoop _ (some first) _ _ body => stmtVars first ++ stmtVars body
  | .forIn (some .var) _ pattern _ body => patternNames pattern ++ stmtVars body
  | .forIn _ _ _ _ body => stmtVars body
  | .forOf (some .var) _ pattern _ body => patternNames pattern ++ stmtVars body
  | .forOf _ _ _ _ body => stmtVars body
  | .guarded (.mk _ body) handler finalizer =>
    listVars body ++ handlerVars handler ++ finalizerVars finalizer
  | .select _ _ cases => caseVars cases
  | .labelled _ body => stmtVars body
  | _ => []

/-- The names that a list of statements declares by `var`. -/
def listVars : List Stmt → List Units
  | [] => []
  | stmt :: rest => stmtVars stmt ++ listVars rest

/-- The names that a handler declares by `var`. -/
def handlerVars : Option Handler → List Units
  | none => []
  | some (.mk _ _ (.mk _ body)) => listVars body

/-- The names that a finalizer declares by `var`. -/
def finalizerVars : Option Block → List Units
  | none => []
  | some (.mk _ body) => listVars body

/-- The names that the cases of a selection declare by `var`. -/
def caseVars : List Case → List Units
  | [] => []
  | .mk _ body :: rest => listVars body ++ caseVars rest

end

/-- A statement behind its labels. -/
def Stmt.unlabelled : Stmt → Stmt
  | .labelled _ body => body.unlabelled
  | stmt => stmt

/-- A function behind at least one label. -/
def Stmt.isLabelledFunction : Stmt → Bool
  | .labelled _ body => match body.unlabelled with
    | .function _ => true
    | _ => false
  | _ => false

/-- The functions declared by the statements of a block. -/
def declaredFunctions (body : List Stmt) : List FunctionCode :=
  body.filterMap fun stmt => match stmt.unlabelled with
    | .function code => some code
    | _ => none

/-- The names of the functions declared by the statements of a block. -/
def functionNames (body : List Stmt) : List Units := (declaredFunctions body).map (·.info.name)

/-- The names that a function body declares by `var` or as functions. -/
def varNames (body : List Stmt) : List Units :=
  (body.flatMap fun stmt => match stmt.unlabelled with
    | .function code => [code.info.name]
    | stmt => stmtVars stmt).eraseDups

/-- The names that one statement declares for the block around it, functions left aside; whether
they are constant. -/
def Stmt.blockNames : Stmt → List (Units × Bool)
  | .declare .mutable bindings => (bindingNames bindings).map (·, false)
  | .declare .constant bindings => (bindingNames bindings).map (·, true)
  | .classOf name _ => [(name, false)]
  | _ => []

/-- The names that a block declares for itself, functions left aside; whether they are constant. -/
def blockNames (body : List Stmt) : List (Units × Bool) := body.flatMap Stmt.blockNames

/-- The names that a block declares for itself in order, each with whether it is a function's. -/
def ownNames (body : List Stmt) : List (Units × Bool) :=
  body.flatMap fun stmt => match stmt.unlabelled with
    | .function code => [(code.info.name, true)]
    | stmt => stmt.blockNames.map fun entry => (entry.1, false)

/-- A name is declared twice by a block.  Outside strict code, functions may share a name. -/
def clashes (strict : Bool) : List (Units × Bool) → Bool
  | [] => false
  | (name, isFunction) :: rest =>
    rest.any (fun other => other.1 = name && (strict || !isFunction || !other.2)) ||
      clashes strict rest

/-- A name that occurs twice. -/
def repeatedName? : List Units → Option Units
  | [] => none
  | name :: rest => if rest.contains name then some name else repeatedName? rest

end ScriptHost.Script
