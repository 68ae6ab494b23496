import PromptLang.Entries
import PromptLang.Number.Layout
import PromptLang.Syntax.Stmt
import PromptLang.Value.Kind

/-! Runtime values. Reading is tolerant: a missing member, a wrong index or a wrong kind of container gives null. -/

namespace PromptLang

inductive Value where
  | str (s : String)
  | num (x : Float)
  | bool (b : Bool)
  | null
  | array (items : List Value)
  /-- Members in insertion order, with distinct keys. -/
  | object (members : List (String × Value))
  | function (hook : Hook)
deriving Inhabited

namespace Value

def kind : Value → ValueKind
  | str _ => .string
  | num _ => .number
  | bool _ => .boolean
  | null => .null
  | array _ => .array
  | object _ => .object
  | function _ => .function

/-- Null, `false`, zero, NaN and the empty text count as false. -/
def isTruthy : Value → Bool
  | null => false
  | bool b => b
  | num x => x != 0 && !x.isNaN
  | str s => s != ""
  | array _ | object _ | function _ => true

def isNull : Value → Bool
  | null => true
  | _ => false

def string? : Value → Option String
  | str s => some s
  | _ => none

def number? : Value → Option Float
  | num x => some x
  | _ => none

def array? : Value → Option (List Value)
  | array items => some items
  | _ => none

def object? : Value → Option (Entries Value)
  | object members => some members
  | _ => none

def member (v : Value) (name : String) : Value :=
  match v with
  | object members => (Entries.get? name members).getD null
  | _ => null

/-- The position that a number names in an array: a whole number that is not negative. -/
def position? (x : Float) : Option Nat :=
  match Number.toInt? x with
  | some (.ofNat n) => some n
  | _ => none

/-- Computed access, `v[key]`: arrays by position, objects by text or by the text of a number. -/
def index (v key : Value) : Value :=
  match v, key with
  | array items, num x => ((position? x).bind fun i => items[i]?).getD null
  | object members, str name => (Entries.get? name members).getD null
  | object members, num x => (Entries.get? (Number.text x) members).getD null
  | _, _ => null

/-- No object in the value repeats a key. -/
inductive WellFormed : Value → Prop where
  | str (s : String) : WellFormed (str s)
  | num (x : Float) : WellFormed (num x)
  | bool (b : Bool) : WellFormed (bool b)
  | null : WellFormed null
  | array (items : List Value) (h : ∀ v ∈ items, WellFormed v) : WellFormed (array items)
  | object (members : List (String × Value)) (distinct : (Entries.keys members).Nodup)
      (h : ∀ kv ∈ members, WellFormed kv.2) : WellFormed (object members)
  | function (hook : Hook) : WellFormed (function hook)

end Value

end PromptLang
