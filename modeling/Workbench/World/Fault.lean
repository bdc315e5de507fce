import Workbench.Calendar.Iso
import Workbench.Json.Printer
import Workbench.World.Files

/-!
# Faults

What can end a tool before it is done.  A fault is a cause; `Fault.message` is its wording.
-/

namespace Workbench

/-- The part of YAML processing that refuses a document. -/
inductive YamlStage where
  | reader
  | scanner
  | parser
  | composer
  | constructor
deriving DecidableEq, Repr

/-- Why a service failed. -/
inductive ServiceCause where
  | connection
  | auth
  | notFound
  | query
  | write
  | duplicate
deriving DecidableEq, Repr

/-- Why a tool stops. -/
inductive Fault where
  /-- A value of a kind that the operation does not take. -/
  | kind (text : String)
  /-- An operation that the kind of value does not have. -/
  | attribute (text : String)
  /-- An index beyond the end. -/
  | index (text : String)
  /-- Nesting beyond the limit. -/
  | depth
  /-- A key that a map does not have. -/
  | key (k : Value)
  /-- A value that is refused, with the reason. -/
  | invalid (text : String)
  /-- A division by zero, of whole numbers or with a real one. -/
  | divisionByZero (real : Bool)
  | overflow (text : String)
  | json (e : Json.Error)
  | encoding (e : Utf8.Error)
  | yaml (stage : YamlStage) (text : String)
  | pattern (text : String)
  /-- A file operation on a path, as the path was given. -/
  | file (e : FileError) (path : String)
  /-- A file that a tool needs, reported in the tool's own words. -/
  | noFile (text : String)
  | endOfInput
  /-- A child process that ended with a non-zero code. -/
  | failed (argv : List String) (code : Int) (out err : String)
  | timeout (argv : List String) (seconds : String)
  /-- A request that got an error status. -/
  | status (code : Nat) (reason : String)
  /-- A request that got no answer. -/
  | unreachable (reason : String)
  | service (cause : ServiceCause) (text : String)
  | exit (code : Int)
  | usage (text : String)
deriving Inhabited

abbrev Result := Except Fault

/-- What is said of a fault. -/
def Fault.message : Fault → String
  | .kind t => t
  | .attribute t => t
  | .index t => t
  | .depth => "maximum recursion depth exceeded"
  | .key k => k.literal
  | .invalid t => t
  | .divisionByZero real => if real then "float division by zero" else "division by zero"
  | .overflow t => t
  | .json e => e.message
  | .encoding e => e.message
  | .yaml _ t => t
  | .pattern t => t
  | .file e p => s!"[Errno {e.number}] {e.text}: {Text.quoted p}"
  | .noFile t => t
  | .endOfInput => "EOF when reading a line"
  | .failed argv code _ _ =>
    s!"Command '{(Value.strings argv).literal}' returned non-zero exit status {code}."
  | .timeout argv seconds =>
    s!"Command '{(Value.strings argv).literal}' timed out after {seconds} seconds"
  | .status code reason => s!"HTTP Error {code}: {reason}"
  | .unreachable reason => s!"<urlopen error {reason}>"
  | .service _ t => t
  | .exit code => toString code
  | .usage t => t

def Fault.isExit : Fault → Bool
  | .exit _ => true
  | .usage _ => true
  | _ => false

def Fault.isInvalid : Fault → Bool
  | .invalid _ => true
  | .json e => match e.cause with
    | .tooDeep _ => false
    | _ => true
  | .encoding _ => true
  | _ => false

def Fault.isSystem : Fault → Bool
  | .file _ _ => true
  | .noFile _ => true
  | .status _ _ => true
  | .unreachable _ => true
  | _ => false

def Fault.isMissing : Fault → Bool
  | .file .missing _ => true
  | .noFile _ => true
  | _ => false

def Fault.isFailed : Fault → Bool
  | .failed _ _ _ _ => true
  | _ => false

def Fault.isJson : Fault → Bool
  | .json e => match e.cause with
    | .tooManyDigits _ | .tooDeep _ => false
    | _ => true
  | _ => false

def Fault.notNumber (s : String) : Fault :=
  .invalid s!"invalid literal for int() with base 10: {Text.quoted s}"

def Fault.tooLong (digits : Nat) : Fault :=
  .invalid (s!"Exceeds the limit (4300 digits) for integer string conversion: value has {digits}"
    ++ " digits; use sys.set_int_max_str_digits() to increase the limit")

/-- The integer that a text stands for. -/
def wholeOf (s : String) : Result Int :=
  match Decimal.readInt s with
  | .ok n => .ok n
  | .error (.tooLong n) => .error (Fault.tooLong n)
  | .error .notANumber => .error (Fault.notNumber s)

def timeOf (s : String) : Result Calendar.DateTime :=
  match Calendar.DateTime.ofIso s with
  | .ok t => .ok t
  | .error e => .error (.invalid (e.message s))

end Workbench
