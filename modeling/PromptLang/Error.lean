import PromptLang.Syntax.Outline
import PromptLang.Syntax.Prompt
import PromptLang.Value.Kind

/-! Why an execution fails. Every failure ends the prompt that is being executed. The constructors hold the causes; their
wording is `Error.message`, and hosts tell the classes apart by `Error.code`. -/

namespace PromptLang

/-- An operand, argument or setting of the wrong kind. -/
inductive Mismatch where
  | operands (op : BinaryOp) (left right : ValueKind)
  | negation (found : ValueKind)
  | outOfBounds (index length : Nat)
  | noStep (step : Step) (found : ValueKind)
  | noIndex (found : ValueKind)
  | loop (binding : String) (found : ValueKind)
  | parameter (name : String) (expected : ParamType) (found : ValueKind)
  | preProcess (found : ValueKind)
  | count (technique field found : String)
  | library (technique field : String) (found : ValueKind)
  | average (position : Nat) (found : String)
  | score (function reply : String)

namespace Mismatch

def context : Mismatch → String
  | operands op _ _ => "operator '" ++ op.symbol ++ "'"
  | negation _ => "operator '-'"
  | outOfBounds .. | noStep .. | noIndex _ => "assignment"
  | loop binding _ => "for loop over '" ++ binding ++ "'"
  | parameter name _ _ => "parameter '" ++ name ++ "'"
  | preProcess _ => "preProcess hook"
  | count technique field _ | library technique field _ => technique ++ " field '" ++ field ++ "'"
  | average .. => "selfConsistency average"
  | score function _ => "ape score function '" ++ function ++ "'"

def detail : Mismatch → String
  | operands _ left right => "unsupported operands: " ++ left.name ++ " and " ++ right.name
  | negation found => "cannot negate a " ++ found.name
  | outOfBounds index length =>
    "index " ++ toString index ++ " out of bounds for array of " ++ toString length
  | noStep step found => "cannot assign " ++ step.text ++ " on a " ++ found.name
  | noIndex found => "cannot index with a " ++ found.name
  | loop _ found => "expected array, found " ++ found.name
  | parameter _ expected found => "expected " ++ expected.text ++ ", found " ++ found.name
  | preProcess found => "must return an object, returned " ++ found.name
  | count _ _ found => "expected an integer >= 1, found " ++ found
  | library _ _ found => "expected object, found " ++ found.name
  | average position found => "result " ++ toString position ++ " is not numeric: " ++ found
  | score _ reply => "expected a numeric score, got " ++ Text.quoted reply

end Mismatch

/-- A JSON value in a place where it is not expected. -/
inductive Unexpected where
  | integer (n : Int)
  | float (x : Float)
  | boolean (b : Bool)
  | string (s : String)
  | null
  | sequence
  | map

def Unexpected.text : Unexpected → String
  | integer n => "integer `" ++ toString n ++ "`"
  | float x => "floating point `" ++ Number.Layout.json.write x ++ "`"
  | boolean b => "boolean `" ++ toString b ++ "`"
  | string s => "string " ++ Text.quoted s
  | null => "null"
  | sequence => "sequence"
  | map => "map"

/-- What a generation setting takes. -/
inductive SettingType where
  | count | number | string | record

def SettingType.text : SettingType → String
  | count => "u32"
  | number => "f64"
  | string => "a string"
  | record => "struct Constraints"

inductive Invalid where
  | target (e : Expr)
  | hookArity (hook : String) (count : Nat)
  | notInHook (stmt : Stmt) (hook : String)
  | returnOutsideHook
  | noPrompts
  | nothingToRegister
  | missingField (technique field : String)
  | aboveLimit (technique field : String) (count limit : Nat)
  | treeTooLarge (breadth depth limit : Nat)
  | reservedBuffer (name : String)
  | noTask (category : String)
  | noResults (strategy : String)
  | noThoughts
  | unknownTechnique
  | blockTechnique (kind : String)
  | settingType (found : Unexpected) (expected : SettingType)
  | settingValue (found : Unexpected) (expected : SettingType)
  | tooManySettings (count : Nat)

def Invalid.text : Invalid → String
  | target e => "invalid assignment target: " ++ e.outline
  | hookArity hook count => "hook '" ++ hook ++ "' takes one argument, got " ++ toString count
  | notInHook stmt hook => stmt.describe ++ " is not allowed inside hook '" ++ hook ++ "'"
  | returnOutsideHook => "return statement is only allowed inside hooks"
  | noPrompts => "program contains no prompts"
  | nothingToRegister => "cannot register an empty program"
  | missingField technique field => technique ++ " technique requires field '" ++ field ++ "'"
  | aboveLimit technique field count limit =>
    technique ++ " field '" ++ field ++ "' is " ++ Number.text (Number.ofInt count)
      ++ ", above the limit of " ++ toString limit
  | treeTooLarge breadth depth limit =>
    "treeOfThoughts with breadth " ++ toString breadth ++ " and depth " ++ toString depth
      ++ " needs more than " ++ toString limit ++ " provider calls"
  | reservedBuffer name => "reflection memoryBuffer '" ++ name ++ "' is a reserved slot"
  | noTask category => "art taskLibrary has no '" ++ category ++ "' entry and no 'default' entry"
  | noResults strategy => strategy ++ " needs at least one result"
  | noThoughts => "no thoughts to evaluate"
  | unknownTechnique => "Matching variant not found"
  | blockTechnique kind => "technique '" ++ kind ++ "' is block-structured and takes no fields"
  | settingType found expected => "invalid type: " ++ found.text ++ ", expected " ++ expected.text
  | settingValue found expected => "invalid value: " ++ found.text ++ ", expected " ++ expected.text
  | tooManySettings count =>
    "invalid length " ++ toString count ++ ", expected fewer elements in array"

/-- What went deeper, or on longer, than its limit. -/
inductive Excess where
  | hookCalls (hook : String)
  | uses (prompt : String)
  | rounds

def Excess.text : Excess → String
  | hookCalls hook => "hook '" ++ hook ++ "' call depth"
  | uses prompt => "use of prompt '" ++ prompt ++ "'"
  | rounds => "reAct iterations"

inductive Error where
  | invalid (cause : Invalid)
  | missingParameter (name : String)
  | mismatch (cause : Mismatch)
  | divisionByZero (op : BinaryOp)
  | unresolvedPrompt (name : String)
  | unresolvedIdentifier (name : String)
  | notCallable (name : String) (found : ValueKind)
  | unknownStrategy (purpose strategy : String)
  | depthExceeded (what : Excess) (limit : Nat)
  | providerFailed (cause : String)
  | outputFormat

namespace Error

/-- A stable name for the class of a failure. -/
def code : Error → String
  | invalid _ => "validation"
  | missingParameter _ => "missing_parameter"
  | mismatch _ => "type_mismatch"
  | divisionByZero _ => "arithmetic"
  | unresolvedPrompt _ => "unresolved_prompt_reference"
  | unresolvedIdentifier _ => "unresolved_identifier"
  | notCallable .. => "not_callable"
  | unknownStrategy .. => "unknown_strategy"
  | depthExceeded .. => "depth_exceeded"
  | providerFailed _ => "provider_failed"
  | outputFormat => "output_format"

def message : Error → String
  | invalid cause => "validation error: " ++ cause.text
  | missingParameter name => "missing required parameter: " ++ name
  | mismatch cause => "type mismatch in " ++ cause.context ++ ": " ++ cause.detail
  | divisionByZero op => "arithmetic error in '" ++ op.symbol ++ "': division by zero"
  | unresolvedPrompt name => "unresolved prompt reference: " ++ name
  | unresolvedIdentifier name => "unresolved identifier: " ++ name
  | notCallable name found => "value is not callable: " ++ name ++ " is a " ++ found.name
  | unknownStrategy purpose strategy => "unknown " ++ purpose ++ " strategy: " ++ strategy
  | depthExceeded what limit => what.text ++ " exceeded the limit of " ++ toString limit
  | providerFailed cause => "provider call failed: " ++ cause
  | outputFormat => "output format error"

end Error

end PromptLang
