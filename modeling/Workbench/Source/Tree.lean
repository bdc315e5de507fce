import Workbench.Text.Basic

/-!
# Syntax trees

The tree of a Python program.
-/

namespace Workbench.Source

/-- What a literal stands for. -/
inductive Literal where
  | none
  | true
  | false
  | ellipsis
  | number (imaginary : Bool)
  | bytes
  | str (s : String)
deriving DecidableEq, Repr, Inhabited

/-- The kinds of parts of a program. -/
inductive Kind where
  | module
  | function (async : Bool) (name : String)
  | classDef (name : String)
  | ret
  | delete
  | assign
  | augAssign
  | annAssign
  | forLoop (async : Bool)
  | whileLoop
  | ifStmt
  | withStmt (async : Bool)
  | matchStmt
  | raise
  | tryStmt
  | assert
  | import
  | importFrom (module : Option String)
  | globals
  | exprStmt
  | simple
  | boolOp
  | namedExpr
  | binOp
  | unaryOp
  | lambda
  | ifExp
  | dict
  | set
  | listComp
  | setComp
  | dictComp
  | generator
  | await
  | yield
  | compare (ops : List String)
  | call
  | formatted
  | joined
  | literal (v : Literal)
  | member (name : String)
  | subscript
  | starred
  | name (id : String)
  | list
  | tuple
  | slice
  | comprehension
  | handler
  | arguments
  | arg (name : String)
  | keyword (name : Option String)
  | alias (name : String)
  | withItem
  | matchCase
  | pattern
deriving DecidableEq, Repr, Inhabited

/-- The tree of a program. -/
inductive Tree where
  | node (role : String) (kind : Kind) (line endLine : Nat) (children : List Tree)
deriving Repr

namespace Tree

instance : Inhabited Tree := ⟨.node "" .module 0 0 []⟩

def role : Tree → String
  | node r _ _ _ _ => r

def kind : Tree → Kind
  | node _ k _ _ _ => k

def line : Tree → Nat
  | node _ _ l _ _ => l

def endLine : Tree → Nat
  | node _ _ _ e _ => e

def children : Tree → List Tree
  | node _ _ _ _ cs => cs

def as (r : String) : Tree → Tree
  | node _ k l e cs => node r k l e cs

def those (t : Tree) (r : String) : List Tree := t.children.filter (·.role == r)

def child? (t : Tree) (r : String) : Option Tree := t.children.find? (·.role == r)

mutual

def size : Tree → Nat
  | node _ _ _ _ cs => 1 + sizes cs
termination_by structural t => t

def sizes : List Tree → Nat
  | [] => 0
  | t :: ts => size t + sizes ts
termination_by structural ts => ts

end

def visit : (fuel : Nat) → (queue : List Tree) → List Tree
  | 0, _ => []
  | _, [] => []
  | fuel + 1, t :: queue => t :: visit fuel (queue ++ t.children)

def walk (t : Tree) : List Tree := visit t.size [t]

end Tree

end Workbench.Source
