import PromptLang.Number.Binary
import PromptLang.Text.Basic

/-! Numbers out of text: an optional sign, then digits around an optional point with an optional exponent, or one of
the words for infinity and NaN in any case. The nearest float is taken. -/

namespace PromptLang.Number

def digitsValue (ds : List Char) : Nat :=
  ds.foldl (fun n c => 10 * n + (c.toNat - '0'.toNat)) 0

/-- The float nearest to `m · 10^e`. -/
def ofDecimal (m : Nat) (e : Int) : Float :=
  if e = 0 then ofInt m else .ofModel (.ofScientific m e)

def applySign (negative : Bool) (x : Float) : Float := if negative then -x else x

def splitSign : List Char → Bool × List Char
  | '-' :: cs => (true, cs)
  | '+' :: cs => (false, cs)
  | cs => (false, cs)

/-- An exponent part that reaches to the end of the text; an absent one is zero. -/
def exponentPart? : List Char → Option Int
  | [] => some 0
  | c :: cs =>
    if c = 'e' ∨ c = 'E' then
      let (negative, digits) := splitSign cs
      if digits ≠ [] ∧ digits.all Char.isDigit then
        some (if negative then -(digitsValue digits : Int) else digitsValue digits)
      else none
    else none

/-- An unsigned decimal: digits before and after the point, at least one in all. -/
def unsigned? (cs : List Char) : Option Float :=
  let whole := cs.takeWhile Char.isDigit
  let (fraction, tail) :=
    match cs.dropWhile Char.isDigit with
    | '.' :: rest => (rest.takeWhile Char.isDigit, rest.dropWhile Char.isDigit)
    | rest => ([], rest)
  if whole = [] ∧ fraction = [] then none
  else
    (exponentPart? tail).map fun e => ofDecimal (digitsValue (whole ++ fraction)) (e - fraction.length)

def word? (cs : List Char) : Option Float :=
  let small := String.ofList (cs.map Char.toLower)
  if small = "inf" ∨ small = "infinity" then some infinity
  else if small = "nan" then some nan
  else none

def readChars? (cs : List Char) : Option Float :=
  let (negative, rest) := splitSign cs
  ((word? rest).or (unsigned? rest)).map (applySign negative)

def read? (s : String) : Option Float := readChars? s.toList

def readTrimmed? (s : String) : Option Float := readChars? (Text.trimChars s.toList)

end PromptLang.Number
