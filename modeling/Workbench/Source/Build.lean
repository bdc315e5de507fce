import Workbench.Source.Text

/-!
# Making trees

The actions of the rules for programs: what tree an alternative makes, and which programs it
refuses.
-/

namespace Workbench.Source

open Text

/-! ### Shapes of actions -/

def alt (text : String) (action : Action) : Alternative := ⟨items text, action⟩

def passed (vs : List Val) : Val :=
  match vs with
  | [v] => v
  | _ => .list vs

def plain (text : String) : Alternative := alt text fun _ vs => .ok (some (passed vs))

def pick (i : Nat) (text : String) : Alternative := alt text fun _ vs => .ok (some (nth vs i))

def gather (is : List Nat) (text : String) : Alternative :=
  alt text fun _ vs => .ok (some (.list (is.map (nth vs))))

def child (vs : List Val) (i : Nat) (role : String) : List Tree := (nth vs i).trees.map (·.as role)

def node (kind : List Val → Kind) (roles : List (Nat × String)) (text : String) : Alternative :=
  alt text fun s vs => .ok (some (.tree
    (.node "" (kind vs) s.line s.endLine (roles.flatMap fun (i, r) => child vs i r))))

def fixed (kind : Kind) (roles : List (Nat × String)) (text : String) : Alternative :=
  node (fun _ => kind) roles text

def named (i : Nat) (kind : String → Kind) (roles : List (Nat × String)) (text : String) :
    Alternative :=
  node (fun vs => kind (nth vs i).text) roles text

/-! ### Shapes of refusals -/

def refuse {α : Type} (line : Nat) (message : String) : Except Refusal α := .error { message, line }

def refuseLast (message text : String) : Alternative :=
  alt text fun s _ => refuse s.lastLine message

def refuseAt (i : Nat) (message text : String) : Alternative :=
  alt text fun s vs => refuse ((nth vs i).line s.line) message

def refuseBlock (i : Nat) (what text : String) : Alternative :=
  alt text fun s vs =>
    refuse s.lastLine s!"expected an indented block after {what} on line {(nth vs i).line s.line}"

def nameOf (t : Tree) : String :=
  match t.kind with
  | .member _ => "attribute"
  | .subscript => "subscript"
  | .starred => "starred"
  | .name _ => "name"
  | .list => "list"
  | .tuple => "tuple"
  | .lambda => "lambda"
  | .call => "function call"
  | .boolOp | .binOp | .unaryOp => "expression"
  | .generator => "generator expression"
  | .yield => "yield expression"
  | .await => "await expression"
  | .listComp => "list comprehension"
  | .setComp => "set comprehension"
  | .dictComp => "dict comprehension"
  | .dict => "dict literal"
  | .set => "set display"
  | .joined | .formatted => "f-string expression"
  | .literal .none => "None"
  | .literal .true => "True"
  | .literal .false => "False"
  | .literal .ellipsis => "ellipsis"
  | .literal _ => "literal"
  | .compare _ => "comparison"
  | .ifExp => "conditional expression"
  | .namedExpr => "named expression"
  | _ => "expression"

def refuseNamed (i : Nat) (before after text : String) : Alternative :=
  alt text fun s vs => match (nth vs i).tree? with
    | some t => refuse t.line (before ++ nameOf t ++ after)
    | none => refuse s.lastLine (before ++ after)

/-- What a target is for. -/
inductive Purpose where
  | assign
  | delete
  | loop
deriving DecidableEq, Repr

mutual

def badTarget? (p : Purpose) : Tree → Option Tree
  | .node r k l e cs =>
    match k with
    | .list | .tuple => badAmong? p cs
    | .starred => if p == .delete then some (.node r k l e cs) else badAmong? p cs
    | .compare ops =>
      if p == .loop then (if ops.head? == some "in" then badFirst? p cs else none)
      else some (.node r k l e cs)
    | .name _ | .subscript | .member _ => none
    | _ => some (.node r k l e cs)
termination_by structural t => t

def badAmong? (p : Purpose) : List Tree → Option Tree
  | [] => none
  | t :: ts => (badTarget? p t).or (badAmong? p ts)
termination_by structural ts => ts

def badFirst? (p : Purpose) : List Tree → Option Tree
  | [] => none
  | t :: _ => badTarget? p t
termination_by structural ts => ts

end

def refuseTarget (i : Nat) (p : Purpose) (text : String) : Alternative :=
  alt text fun _ vs => match (nth vs i).tree?.bind (badTarget? p) with
    | some t =>
      refuse t.line ((if p == .delete then "cannot delete " else "cannot assign to ") ++ nameOf t)
    | none => .ok none

def isLegacy (t : Tree) : Bool := t.kind == .name "print" || t.kind == .name "exec"

def refuseComma (text : String) : Alternative :=
  alt text fun s vs => match (nth vs 0).tree? with
    | some t =>
      if isLegacy t || s.level == 0 then .ok none
      else refuse t.line "invalid syntax. Perhaps you forgot a comma?"
    | none => .ok none

def refuseLegacy (text : String) : Alternative :=
  alt text fun _ vs =>
    let name := (nth vs 0).text
    let line := (nth vs 0).line 0
    if name == "print" || name == "exec" then
      refuse line s!"Missing parentheses in call to '{name}'. Did you mean {name}(...)?"
    else .ok none

/-! ### Expressions -/

def operands (kind : List Val → Kind) (roles : String × String) (text : String) : Alternative :=
  alt text fun s vs => .ok (some (.tree
    (.node "" (kind vs) s.line s.endLine (child vs 0 roles.1 ++ child vs 1 roles.2))))

def comparisonWords (v : Val) : List String :=
  v.parts.map fun pair => join " " ((nth pair.parts 0).tokens.map Token.text)

def number (text : String) : Alternative :=
  node (fun vs => .literal (.number (endsWith (replace (nth vs 0).text "J" "j") "j"))) [] text

def strings (text : String) : Alternative :=
  alt text fun s vs => do return some (.tree (← joinStrings s (nth vs 0).tokens))

def callNode (s : Scene) (func : List Tree) (args : List Tree) : Tree :=
  let isKeyword := fun (t : Tree) => match t.kind with
    | .keyword _ => true
    | _ => false
  .node "" .call s.line s.endLine (func.map (·.as "func")
    ++ (args.filter fun t => !isKeyword t).map (·.as "args") ++
      (args.filter isKeyword).map (·.as "keywords"))

def call (func args : Nat) (text : String) : Alternative :=
  alt text fun s vs => .ok (some (.tree (callNode s (nth vs func).trees
    ((nth vs args).trees.flatMap Tree.children))))

def argumentList (is : List Nat) (text : String) : Alternative :=
  alt text fun s vs => .ok (some (.tree (callNode s [] (is.flatMap fun i => (nth vs i).trees))))

def refuseGenerator (text : String) : Alternative :=
  alt text fun _ vs =>
    let args := (nth vs 0).trees.flatMap fun t => t.those "args"
    match args.getLast? with
    | some t =>
      if args.length ≤ 1 then .ok none
      else refuse t.line "Generator expression must be parenthesized"
    | none => .ok none

def refusePositional (text : String) : Alternative :=
  alt text fun s vs =>
    let unpacked :=
      (nth vs 0).trees.any fun t => (t.those "keywords").any fun k => k.kind == .keyword none
    refuse s.lastLine (if unpacked then "positional argument follows keyword argument unpacking"
      else "positional argument follows keyword argument")

def callGenerator (text : String) : Alternative :=
  alt text fun s vs => .ok (some (.tree (callNode s (nth vs 0).trees (nth vs 1).trees)))

def tupleOf (is : List Nat) (text : String) : Alternative :=
  fixed .tuple (is.map fun i => (i, "elts")) text

def dictionary (text : String) : Alternative :=
  alt text fun s vs =>
    let pairs := (nth vs 1).parts
    let keys := pairs.flatMap fun p => (nth p.parts 0).trees.map (·.as "keys")
    let values := pairs.flatMap fun p => (nth p.parts 1).trees.map (·.as "values")
    .ok (some (.tree (.node "" .dict s.line s.endLine (keys ++ values))))

/-! ### Parameters -/

def defaultOf (t : Tree) : List Tree := t.those "default"

def bare : Tree → Tree
  | .node r k l e cs => .node r k l e (cs.filter fun c => c.role != "default")

def param (is : List (Nat × String)) (text : String) : Alternative :=
  alt text fun s vs => match (nth vs 0) with
    | .token t => .ok (some (.tree (.node "args" (.arg t.text) s.line s.endLine
        (is.flatMap fun (i, r) => child vs i r))))
    | v => match v.tree? with
      | some (.node r k l e cs) =>
        .ok (some (.tree (.node r k l e (cs ++ is.flatMap fun (i, r) => child vs i r))))
      | none => .ok none

def inRole (is : List Nat) (role text : String) : Alternative :=
  alt text fun _ vs => .ok (some (.list ((is.flatMap fun i => child vs i role).map .tree)))

def afterStar (rest keyword others : List Nat) (text : String) : Alternative :=
  alt text fun _ vs => .ok (some (.list
    (((rest.flatMap fun i => child vs i "vararg")
      ++ (keyword.flatMap fun i => child vs i "kwonlyargs")
      ++ (others.flatMap fun i => (nth vs i).trees)).map .tree)))

def argumentsNode (s : Scene) (ps : List Tree) : Tree :=
  let those := fun (r : String) => ps.filter (·.role == r)
  let bareOf := fun (r : String) => (those r).map bare
  .node "" .arguments s.line s.endLine
    (bareOf "posonlyargs" ++ bareOf "args" ++ bareOf "vararg" ++ bareOf "kwonlyargs"
      ++ ((those "kwonlyargs").flatMap defaultOf).map (·.as "kw_defaults") ++ bareOf "kwarg"
      ++ ((those "posonlyargs" ++ those "args").flatMap defaultOf).map (·.as "defaults"))

def arguments (is : List Nat) (text : String) : Alternative :=
  alt text fun s vs => .ok (some (.tree (argumentsNode s (is.flatMap fun i => (nth vs i).trees))))

def paramsOr (s : Scene) (v : Val) : Tree := (v.tree?.getD (argumentsNode s [])).as "args"

/-! ### Statements -/

def function (async : Bool) (name params body returns : Nat) (text : String) : Alternative :=
  alt text fun s vs =>
    .ok (some (.tree (.node "" (.function async (nth vs name).text) s.line s.endLine
      (paramsOr s (nth vs params) :: child vs body "body" ++ child vs returns "returns"))))

def decorated (text : String) : Alternative :=
  alt text fun _ vs => match (nth vs 1).tree? with
    | some (.node r k l e cs) =>
      let decorators := child vs 0 "decorator_list"
      let (before, after) := cs.partition fun c => c.role != "returns"
      .ok (some (.tree (.node r k l e (before ++ decorators ++ after))))
    | none => .ok none

def classDef (text : String) : Alternative :=
  alt text fun s vs =>
    let args := (nth vs 2).trees.flatMap Tree.children
    let rename := fun (t : Tree) => if t.role == "args" then t.as "bases" else t
    .ok (some (.tree (.node "" (.classDef (nth vs 1).text) s.line s.endLine
      (args.map rename ++ child vs 4 "body"))))

def dotted (v : Val) : String := String.join (v.tokens.map Token.text)

def importFrom (module : Option Nat) (names : Nat) (text : String) : Alternative :=
  node (fun vs => .importFrom (module.map fun i => dotted (nth vs i))) [(names, "names")] text

def aliasOf (text : String) : Alternative := node (fun vs => .alias (dotted (nth vs 0))) [] text

def lambdaOf (text : String) : Alternative :=
  alt text fun s vs => .ok (some (.tree
    (.node "" .lambda s.line s.endLine (paramsOr s (nth vs 1) :: child vs 3 "body"))))

def complexPart (imaginary : Bool) (text : String) : Alternative :=
  alt text fun s vs =>
    let isImaginary := endsWith (replace (nth vs 0).text "J" "j") "j"
    if isImaginary == imaginary then
      .ok (some (.tree (.node "" (.literal (.number imaginary)) s.line s.endLine [])))
    else refuse s.line (if imaginary then "imaginary number required in complex literal"
      else "real number required in complex literal")

end Workbench.Source
