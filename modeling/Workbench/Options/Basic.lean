import Workbench.World.Basic

/-!
# Command lines

A `Form` says which switches and operands a command takes.
-/

namespace Workbench.Options

open Text

/-- What a value is read as. -/
inductive Kind where
  | text
  | whole
  | real
deriving DecidableEq, Repr

def Kind.name : Kind → String
  | .text => "str"
  | .whole => "int"
  | .real => "float"

/-- What a switch does. -/
inductive Effect where
  /-- Takes a value. -/
  | store
  /-- Is on when given. -/
  | turnOn
  /-- Prints the help and ends. -/
  | help
deriving DecidableEq, Repr

/-- A switch of a command line. -/
structure Switch where
  names : List String
  dest : String
  effect : Effect := .store
  kind : Kind := .text
  choices : List String := []
  required : Bool := false
  default : Value := .null

/-- How many words an operand takes. -/
inductive Arity where
  | one
  | optional
  /-- The name of a command and all words after it. -/
  | command
deriving DecidableEq, Repr

/-- An operand of a command line. -/
structure Operand where
  dest : String
  arity : Arity := .one
  kind : Kind := .text
  choices : List String := []

/-- What a command line may hold. -/
structure Form where
  switches : List Switch := []
  operands : List Operand := []
  /-- Switches of which exactly one is given. -/
  exclusive : List String := []

/-- Why a command line is not carried out. -/
inductive Stop where
  | help
  | refused (text : String)
deriving DecidableEq, Repr

def helpSwitch : Switch := { names := ["-h", "--help"], dest := "help", effect := .help }

def Form.all (f : Form) : List Switch := helpSwitch :: f.switches

def Form.switch? (f : Form) (name : String) : Option Switch :=
  f.all.find? fun s => s.names.contains name

/-- A switch as it stands in the line: the switch, unless it is unknown, the name, the value
attached, and whether it is attached by `=`. -/
structure Use where
  switch : Option Switch
  name : String
  attached : Option String := none
  byEquals : Bool := false

/-- What a word is. -/
inductive Mark where
  | operand
  | switch (u : Use)
  | dashes

def isNegative (w : Chars) : Bool :=
  match w with
  | '-' :: s =>
    let body := s.takeWhile isDecimal
    let rest := s.drop body.length
    (!body.isEmpty && (rest == [] || rest == ['\n'])) ||
      (match rest with
        | '.' :: t =>
          let frac := t.takeWhile isDecimal
          !frac.isEmpty && (t.drop frac.length == [] || t.drop frac.length == ['\n'])
        | _ => false)
  | _ => false

def splitValue (w : String) : String × Option String :=
  match splitAtMost w "=" 1 with
  | [a, b] => (a, some b)
  | _ => (w, none)

/-- The switches that a word may mean when it is cut short or holds several one-letter switches. -/
def Form.candidates (f : Form) (w : String) : List Use :=
  let named := f.all.flatMap fun s => s.names.map fun n => (s, n)
  if startsWith w "--" then
    let (front, value) := splitValue w
    (named.filter fun (_, n) => startsWith n front).map fun (s, n) => ⟨some s, n, value, true⟩
  else
    named.filterMap fun (s, n) =>
      if n == take w 2 then some { switch := some s, name := n, attached := some (drop w 2) }
      else if startsWith n w then some { switch := some s, name := n }
      else none

def Form.mark (f : Form) (w : String) : Except Stop Mark :=
  if !startsWith w "-" then .ok .operand
  else if let some s := f.switch? w then .ok (.switch { switch := some s, name := w })
  else if w.length == 1 then .ok .operand
  else
    let (front, value) := splitValue w
    match value, f.switch? front with
    | some v, some s => .ok (.switch ⟨some s, front, some v, true⟩)
    | _, _ =>
      match f.candidates w with
      | [u] => .ok (.switch u)
      | _ :: _ :: _ => .error (.refused (s!"ambiguous option: {w} could match "
          ++ join ", " ((f.candidates w).map (·.name))))
      | [] =>
        if isNegative w.toList then .ok .operand
        else if contains w " " then .ok .operand
        else .ok (.switch { switch := none, name := w })

def Form.marks (f : Form) : List String → Except Stop (List (Mark × String))
  | [] => .ok []
  | w :: ws =>
    if w == "--" then .ok ((.dashes, w) :: ws.map fun v => (.operand, v))
    else do
      let m ← f.mark w
      return (m, w) :: (← f.marks ws)

/-! ### Giving words to operands -/

def isOperand (m : Mark × String) : Bool := match m.1 with
  | .operand => true
  | _ => false

def isDashes (m : Mark × String) : Bool := match m.1 with
  | .dashes => true
  | _ => false

def downFrom (n : Nat) : List Nat := (List.range (n + 1)).reverse

def Operand.counts (o : Operand) (ms : List (Mark × String)) : List Nat :=
  let lead := (ms.takeWhile isDashes).length
  let rest := ms.drop lead
  let one := match rest with
    | m :: more => if isOperand m then
        (downFrom (more.takeWhile isDashes).length).map (lead + 1 + ·)
      else []
    | [] => []
  match o.arity with
  | .one => one
  | .optional => one ++ downFrom lead
  | .command => if one.isEmpty then [] else [ms.length]

def giveAll : List Operand → List (Mark × String) → Option (List Nat)
  | [], _ => some []
  | o :: os, ms => (o.counts ms).findSome? fun n => (giveAll os (ms.drop n)).map (n :: ·)

def give (os : List Operand) (ms : List (Mark × String)) : List Nat :=
  ((downFrom os.length).findSome? fun k => giveAll (os.take k) ms).getD []

/-! ### Values -/

/-- The values read so far: the values by name, the switches and operands seen, and the words left
over. -/
structure State where
  values : List (String × Value) := []
  seen : List String := []
  /-- Switches of the exclusive group that were given. -/
  given : List String := []
  extras : List String := []
  /-- The words of a command. -/
  command : List String := []

def refuse {α : Type} (name reason : String) : Except Stop α :=
  .error (.refused s!"argument {name}: {reason}")

def Switch.label (s : Switch) : String := join "/" s.names

def readWord (label : String) (k : Kind) (choices : List String) (w : String) :
    Except Stop Value := do
  let v ← match k with
    | .text => .ok (Value.str w)
    | .whole => match Decimal.readInt w with
      | .ok n => .ok n
      | .error _ => refuse label s!"invalid int value: {quoted w}"
    | .real => match Decimal.readFloat? w with
      | some x => .ok (.float x)
      | none => refuse label s!"invalid float value: {quoted w}"
  if choices.isEmpty || choices.contains w then return v
  refuse label (s!"invalid choice: {quoted w} (choose from " ++
    join ", " (choices.map quoted) ++ ")")

def State.bind (st : State) (dest : String) (v : Value) : State :=
  { st with values := (dest, v) :: st.values.filter (·.1 != dest), seen := dest :: st.seen }

def Form.applySwitch (f : Form) (st : State) (s : Switch) (value : String) : Except Stop State := do
  let v ← match s.effect with
    | .store => readWord s.label s.kind s.choices value
    | _ => .ok true
  if s.effect == .help then throw .help
  let st := st.bind s.dest v
  if f.exclusive.contains s.dest then
    match f.exclusive.find? fun d => d != s.dest && st.given.contains d with
    | some d =>
      let other := (f.switches.find? (·.dest == d)).map Switch.label
      refuse s.label s!"not allowed with argument {other.getD d}"
    | none => return { st with given := s.dest :: st.given }
  else return st

/-- What one word with switches says: the switches that are turned on, the last switch with the
value attached to it, and what is left over. -/
structure Joined where
  on : List Switch := []
  last : Option (Switch × Option String) := none
  extra : Option String := none

/-- Reads what is attached to a switch: its value, or more one-letter switches as in `-ab`. -/
def Form.joined (f : Form) (s : Switch) (name : String) (byEquals : Bool) :
    Chars → Except Stop Joined
  | [] =>
    if s.effect == .store then .ok { last := some (s, some "") }
    else refuse s.label ("ignored explicit argument " ++ quoted "")
  | c :: cs =>
    let attached := .ofList (c :: cs)
    let next := s!"-{String.ofList [c]}"
    if s.effect == .store then .ok { last := some (s, some attached) }
    else if startsWith name "--" || byEquals || c == '-' then
      refuse s.label s!"ignored explicit argument {quoted attached}"
    else
      match f.switch? next with
      | none => .ok { on := [s], extra := some s!"-{attached}" }
      | some t => do
        let j ← match cs with
          | [] => .ok { last := some (t, none) }
          | '=' :: more => f.joined t next true more
          | d :: more => f.joined t next false (d :: more)
        return { j with on := s :: j.on }

def Form.usage (f : Form) (s : Switch) (u : Use) : Except Stop Joined :=
  match u.attached with
  | some v => f.joined s u.name u.byEquals v.toList
  | none => .ok { last := some (s, none) }

def Form.applyJoined (f : Form) (st : State) (j : Joined) (value : String) : Except Stop State := do
  let st ← j.on.foldlM (fun st s => f.applySwitch st s "") st
  match j.last with
  | some (t, _) => f.applySwitch st t value
  | none => return { st with extras := st.extras ++ j.extra.toList }

def applyOperand (st : State) (o : Operand) (words : List String) : Except Stop State := do
  match o.arity with
  | .command =>
    let _ ← readWord o.dest .text o.choices (words.headD "")
    return { st.bind o.dest (.str (words.headD "")) with command := words }
  | _ =>
    match words.erase "--" with
    | w :: _ => return st.bind o.dest (← readWord o.dest o.kind o.choices w)
    | [] => return { st with seen := o.dest :: st.seen }

def applyOperands (st : State) : List Operand → List Nat → List (Mark × String) → Except Stop State
  | o :: os, n :: ns, ms => do
    let st ← applyOperand st o ((ms.take n).map (·.2))
    applyOperands st os ns (ms.drop n)
  | _, _, _ => .ok st

/-! ### Reading a line -/

def isSwitch (m : Mark × String) : Bool := match m.1 with
  | .switch _ => true
  | _ => false

def Form.loop (f : Form) : (fuel : Nat) → State → List Operand → List (Mark × String) →
    Except Stop (State × List Operand)
  | 0, st, os, _ => .ok (st, os)
  | fuel + 1, st, os, ms => do
    if !ms.any isSwitch then
      let ns := give os ms
      let st ← applyOperands st os ns ms
      return ({ st with extras := st.extras ++ (ms.drop ns.sum).map (·.2) }, os.drop ns.length)
    match ms with
    | [] => return (st, os)
    | (.switch u, w) :: rest =>
      match u.switch with
      | none => f.loop fuel { st with extras := st.extras ++ [w] } os rest
      | some s =>
        let j ← f.usage s u
        match j.last with
        | some (t, none) =>
          if t.effect == .store then
            match rest with
            | (.operand, v) :: rest => f.loop fuel (← f.applyJoined st j v) os rest
            | _ => refuse t.label "expected one argument"
          else f.loop fuel (← f.applyJoined st j "") os rest
        | some (_, some v) => f.loop fuel (← f.applyJoined st j v) os rest
        | none => f.loop fuel (← f.applyJoined st j "") os rest
    | _ =>
      let ns := give os ms
      let st ← applyOperands st os ns ms
      let os := os.drop ns.length
      if 0 < ns.sum then f.loop fuel st os (ms.drop ns.sum)
      else
        let skipped := ms.takeWhile fun m => !isSwitch m
        f.loop fuel { st with extras := st.extras ++ skipped.map (·.2) } os (ms.drop skipped.length)

def Form.missing (f : Form) (st : State) : List String :=
  let operands :=
    (f.operands.filter fun o => o.arity == .one && !st.seen.contains o.dest).map (·.dest)
  let switches :=
    (f.switches.filter fun s => s.required && !st.seen.contains s.dest).map Switch.label
  operands ++ switches

def Form.complete (f : Form) (st : State) : List (String × Value) :=
  let defaults :=
    f.switches.map fun s => (s.dest, if s.effect == .turnOn then Value.bool false else s.default)
  let all := defaults ++ f.operands.map fun o => (o.dest, Value.null)
  all.map fun (d, v) => (d, (st.values.lookup d).getD v)

/-- What was read: the values by name, the words left over, the words of a command. -/
structure Known where
  values : List (String × Value)
  extras : List String
  command : List String

def Form.readKnown (f : Form) (words : List String) : Except Stop Known := do
  let ms ← f.marks words
  let (st, _) ← f.loop (2 * ms.length + 2) {} f.operands ms
  let missing := f.missing st
  if !missing.isEmpty then
    throw (.refused ("the following arguments are required: " ++ join ", " missing))
  if !f.exclusive.isEmpty && st.given.isEmpty then
    let names := f.exclusive.filterMap fun d => (f.switches.find? (·.dest == d)).map Switch.label
    throw (.refused ("one of the arguments " ++ join " " names ++ " is required"))
  return ⟨f.complete st, st.extras, st.command⟩

/-- A command line with commands of their own. -/
structure Commands where
  top : Form := {}
  forms : List (String × Form)

/-- The values that were given. -/
structure Args where
  values : List (String × Value)

def noExtras (extras : List String) : Except Stop Unit :=
  if extras.isEmpty then .ok ()
  else .error (.refused ("unrecognized arguments: " ++ join " " extras))

def Form.read (f : Form) (words : List String) : Except Stop Args := do
  let k ← f.readKnown words
  noExtras k.extras
  return ⟨k.values⟩

def Commands.operand (c : Commands) : Operand :=
  { dest := "command", arity := .command, choices := c.forms.map (·.1) }

def Commands.read (c : Commands) (words : List String) : Except Stop Args := do
  let k ← Form.readKnown { c.top with operands := c.top.operands ++ [c.operand] } words
  match k.command with
  | [] =>
    noExtras k.extras
    return ⟨k.values⟩
  | name :: rest =>
    match c.forms.lookup name with
    | none =>
      noExtras k.extras
      return ⟨k.values⟩
    | some f =>
      let sub ← f.readKnown rest
      noExtras (k.extras ++ sub.extras)
      return ⟨sub.values ++ k.values⟩

/-! ### Using the values -/

namespace Args

def value (a : Args) (dest : String) : Value := (a.values.lookup dest).getD .null

def text? (a : Args) (dest : String) : Option String := (a.value dest).str?

def text (a : Args) (dest : String) : String := (a.text? dest).getD ""

def flag (a : Args) (dest : String) : Bool := (a.value dest).truthy

def whole? (a : Args) (dest : String) : Option Int := (a.value dest).whole?

def whole (a : Args) (dest : String) : Int := (a.whole? dest).getD 0

def command? (a : Args) : Option String := a.text? "command"

end Args

def valued (dest : String) (names : List String) : Switch := { names, dest }

def flagged (dest : String) (names : List String) : Switch := { names, dest, effect := .turnOn }

def sayHelp : Tool Unit := Tool.say "<help>"

def settle (r : Except Stop Args) : Tool Args :=
  match r with
  | .ok a => return a
  | .error .help => do
    sayHelp
    Tool.exit 0
  | .error (.refused t) => throw (.usage t)

end Workbench.Options
