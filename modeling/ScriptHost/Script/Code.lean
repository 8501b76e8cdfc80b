import ScriptHost.Machine.Value

/-!
# Code

What a script says once it has been read: expressions, statements, functions and classes.  Positions
are kept only where running the code makes them visible, in the traces of errors.

* `Declared`: a name that a piece of code declares, and where its value is kept;
* `Place`: what can be read, assigned to, deleted, or called with a receiver;
* `Pattern`: the left-hand side of a binding;
* `FunctionCode`, `ClassCode`: code that runs when it is called.
-/

namespace ScriptHost.Script

/-- A line and a column of the source, counted from one. -/
structure Position where
  line : Nat
  column : Nat
  deriving DecidableEq, Repr, Inhabited

/-- A value that stands in the source as it is. -/
inductive Literal
  | null
  | boolean (b : Bool)
  | number (x : Float)
  | string (text : Units)
  | bigint (n : Int)

/-- Operators on one operand whose value is taken first. -/
inductive UnaryOp
  | plus
  | minus
  | not
  | complement
  | discard
  | typeName
  deriving DecidableEq, Repr

/-- Operators on two operands that are both taken first. -/
inductive BinaryOp
  | add
  | subtract
  | multiply
  | divide
  | remainder
  | power
  | shiftLeft
  | shiftRight
  | shiftRightUnsigned
  | bitAnd
  | bitOr
  | bitXor
  | less
  | lessEqual
  | greater
  | greaterEqual
  | equal
  | notEqual
  | same
  | notSame
  | isInstance
  | isMember
  deriving DecidableEq, Repr

/-- Operators that may leave out their second operand. -/
inductive LogicalOp
  | both
  | either
  | default
  deriving DecidableEq, Repr

/-- How names are declared. -/
inductive DeclarationKind
  | var
  | mutable
  | constant
  deriving DecidableEq, Repr

/-- What a function may be used for. -/
inductive FunctionKind
  | normal
  /-- Takes receiver, arguments and target from the function around it. -/
  | arrow
  /-- Cannot be constructed. -/
  | method
  /-- The constructor of a class without a superclass. -/
  | baseConstructor
  /-- The constructor of a class with a superclass. -/
  | derivedConstructor
  /-- Its body would be run piecemeal. -/
  | suspended
  deriving DecidableEq, Repr

/-- A name that a piece of code declares. -/
structure Declared where
  name : Units
  constant : Bool
  /-- It lives in a scope that other functions can see, and not in a slot of its
  function's frame. -/
  shared : Bool
  deriving DecidableEq, Repr

/-- What is known of a function without looking into its body. -/
structure FunctionInfo where
  /-- Its name in traces. -/
  name : Units
  kind : FunctionKind
  strict : Bool
  /-- The body can refer to the function by its name. -/
  bindsItself : Bool
  /-- The number of parameters before the first one that may be left out. -/
  length : Nat
  /-- The names of the parameters, if the values of some of them have to be
  computed before the body starts. -/
  computed : Option (List Declared)
  /-- The names declared by `var` anywhere in the body. -/
  vars : List Declared
  /-- The names that the body declares for itself, functions left aside. -/
  names : List Declared
  /-- The function's own piece of the source, if it is shown. -/
  source : Option Units
  /-- The body can refer to the list of arguments. -/
  usesArguments : Bool
  /-- The slots that its frame has besides those for the arguments. -/
  slots : Nat

/-- The three ways in which a method may be defined. -/
inductive MethodKind
  | value
  | getter
  | setter
  deriving DecidableEq, Repr

mutual

inductive Expr
  | literal (value : Literal)
  | regexp (body flags : Units)
  /-- Text pieces with expressions between them. -/
  | template (head : Units) (rest : List (Expr × Units))
  | this
  | newTarget
  | read (place : Place)
  /-- An array; `isSealed` says that a comma follows a last item that is spread. -/
  | array (items : List Item) (isSealed : Bool)
  | object (members : List Member)
  | function (code : FunctionCode)
  | classOf (code : ClassCode)
  /-- A call with the receiver that the place gives; `optional` calls nothing if
  there is nothing. -/
  | call (pos : Position) (place : Place) (optional : Bool) (args : List Item)
  /-- A call without a receiver. -/
  | apply (pos : Position) (callee : Expr) (optional : Bool) (args : List Item)
  | superCall (pos : Option Position) (args : List Item)
  | construct (pos : Position) (callee : Expr) (args : List Item)
  /-- A call with the pieces of a template, each with its raw text. -/
  | tagged (pos : Position) (tag : Expr) (pieces : List (Option Units × Units)) (values : List Expr)
  | unary (op : UnaryOp) (operand : Expr)
  /-- The type of a name, which need not be declared. -/
  | typeOfName (name : Units)
  | delete (place : Place)
  | update (delta : Int) (answersNew : Bool) (place : Place)
  | binary (op : BinaryOp) (left right : Expr)
  | logical (op : LogicalOp) (left right : Expr)
  | conditional (test yes no : Expr)
  | assign (pos : Position) (place : Place) (value : Expr)
  | assignPattern (pattern : Pattern) (value : Expr)
  | compound (op : BinaryOp) (place : Place) (value : Expr)
  | compoundLogical (op : LogicalOp) (place : Place) (value : Expr)
  | sequence (first second : Expr)
  /-- An expression in parentheses. -/
  | group (e : Expr)
  /-- A chain that is left with the missing value at any `link` in it that finds nothing. -/
  | chain (whole : Expr)
  | link (base : Expr)

/-- What can be read, assigned to, deleted, or called with a receiver. -/
inductive Place
  | name (id : Units)
  | property (pos : Position) (base : Expr) (field : Units)
  | element (pos : Position) (base : Expr) (key : Expr)
  | superProperty (pos : Position) (field : Units)
  | superElement (pos : Position) (key : Expr)

/-- An element of an array literal, or an argument. -/
inductive Item
  | hole
  | value (e : Expr)
  | spread (e : Expr)

/-- The key of a member, fixed or computed. -/
inductive MemberName
  | fixed (key : Units)
  | computed (key : Expr)

/-- A member of an object literal. -/
inductive Member
  | value (name : MemberName) (e : Expr)
  | method (kind : MethodKind) (name : MemberName) (code : FunctionCode)
  | spread (e : Expr)
  /-- Sets the prototype. -/
  | prototype (e : Expr)
  /-- A name with a value that stands in for a missing one, which only patterns have. -/
  | cover (name : Units) (e : Expr)

inductive FunctionCode
  | mk (info : FunctionInfo) (params : List Pattern) (rest : Option Pattern) (body : List Stmt)

/-- A class; `own` is the name by which its code refers to it. -/
inductive ClassCode
  | mk (name : Units) (own : Option Declared) (heritage : Option Expr) (constructor : FunctionCode)
      (members : List ClassMember)

inductive ClassMember
  | method (isStatic : Bool) (kind : MethodKind) (name : MemberName) (code : FunctionCode)
  /-- A field with the function that computes its first value. -/
  | field (isStatic : Bool) (name : MemberName) (value : FunctionCode)
  /-- Code that runs once, when the class is made. -/
  | block (code : FunctionCode)

/-- The left-hand side of a binding. -/
inductive Pattern
  | place (place : Place)
  | array (items : List Slot)
  | object (fields : List Field) (rest : Option Pattern)
  /-- The value of `e` stands in for a missing one. -/
  | default (pattern : Pattern) (e : Expr)

/-- An element of an array pattern. -/
inductive Slot
  | hole
  | item (pattern : Pattern)
  | rest (pattern : Pattern)

/-- A member of an object pattern. -/
inductive Field
  | mk (name : MemberName) (pattern : Pattern)

inductive Stmt
  | empty
  | expression (e : Expr)
  | declare (kind : DeclarationKind) (bindings : List (Pattern × Option Expr))
  | function (code : FunctionCode)
  | classOf (name : Units) (code : ClassCode)
  | block (body : Block)
  | branch (test : Expr) (yes : Stmt) (no : Option Stmt)
  | whileLoop (test : Expr) (body : Stmt)
  | doWhile (body : Stmt) (test : Expr)
  /-- A loop with a counter; `names` are those that its first part declares for each round. -/
  | forLoop (names : List Declared) (first : Option Stmt) (test step : Option Expr) (body : Stmt)
  /-- The keys of an object; without a kind the pattern is assigned to. -/
  | forIn (kind : Option DeclarationKind) (names : List Declared) (pattern : Pattern)
      (e : Expr) (body : Stmt)
  | forOf (kind : Option DeclarationKind) (names : List Declared) (pattern : Pattern)
      (e : Expr) (body : Stmt)
  | answer (e : Option Expr)
  | leave (label : Option Units)
  | next (label : Option Units)
  | raise (pos : Position) (e : Expr)
  | guarded (body : Block) (handler : Option Handler) (finalizer : Option Block)
  | select (e : Expr) (names : List Declared) (cases : List Case)
  | labelled (label : Units) (body : Stmt)

/-- Statements with the names that they declare for themselves, functions left aside. -/
inductive Block
  | mk (names : List Declared) (body : List Stmt)

/-- What is done about a thrown value. -/
inductive Handler
  | mk (pattern : Option Pattern) (names : List Declared) (body : Block)

/-- A case of a selection; the default case has no test. -/
inductive Case
  | mk (test : Option Expr) (body : List Stmt)

end

namespace MemberName

/-- The text of a member name, none of a computed one. -/
def units : MemberName → Units
  | fixed key => key
  | computed _ => []

/-- The member has this fixed name. -/
def isFixed (name : String) : MemberName → Bool
  | fixed key => key = Text.units name
  | computed _ => false

end MemberName

/-- The place is a name. -/
def Place.isName : Place → Bool
  | .name _ => true
  | _ => false

namespace FunctionCode

def info : FunctionCode → FunctionInfo
  | mk info _ _ _ => info

def params : FunctionCode → List Pattern
  | mk _ params _ _ => params

def rest : FunctionCode → Option Pattern
  | mk _ _ rest _ => rest

def body : FunctionCode → List Stmt
  | mk _ _ _ body => body

/-- The function under another name. -/
def named (name : Units) : FunctionCode → FunctionCode
  | mk info params rest body => mk { info with name := name } params rest body

end FunctionCode

namespace Block

def names : Block → List Declared
  | mk names _ => names

def body : Block → List Stmt
  | mk _ body => body

end Block

namespace Expr

/-- The expression, named if it is a function or class without a name. -/
def named (name : Units) : Expr → Expr
  | function code => if code.info.name.isEmpty then function (code.named name) else function code
  | classOf (.mk own self heritage constructor members) =>
    if own.isEmpty then classOf (.mk name self heritage (constructor.named name) members)
    else classOf (.mk own self heritage constructor members)
  | group e => group (e.named name)
  | e => e

/-- A function or class without a name. -/
def isUnnamed : Expr → Bool
  | function code => code.info.name.isEmpty
  | classOf (.mk own _ _ _ _) => own.isEmpty
  | group e => e.isUnnamed
  | _ => false

/-- The expression without the parentheses around it. -/
def bare : Expr → Expr
  | group e => e.bare
  | e => e

end Expr

mutual

/-- Where an expression is said to start, given where its first token stands: if it begins with a
call, that is at the arguments of the call. -/
def Expr.origin (first : Position) : Expr → Position
  | .call pos _ _ _ | .apply pos _ _ _ => pos
  | .read place => place.origin first
  | .tagged _ tag _ _ => tag.origin first
  | .binary _ left _ | .logical _ left _ => left.origin first
  | .conditional test _ _ => test.origin first
  | .assign _ place _ | .compound _ place _ | .compoundLogical _ place _ => place.origin first
  | .update _ false place => place.origin first
  | .sequence left _ => left.origin first
  | _ => first

/-- Where a place is said to start, given where its first token stands. -/
def Place.origin (first : Position) : Place → Position
  | .property _ base _ | .element _ base _ => base.origin first
  | _ => first

end

end ScriptHost.Script
