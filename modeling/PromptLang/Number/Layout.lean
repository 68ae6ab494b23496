import PromptLang.Number.Binary
import PromptLang.Number.Shortest

/-! How numbers are written. All layouts share the shortest digits; each fixes where positional notation ends and
how an exponent looks. Whole numbers of magnitude below `10^15` are written as integers wherever values become text. -/

namespace PromptLang.Number

structure Layout where
  /-- Scientific exponents that are written positionally; `none` is no bound. -/
  least : Option Int
  most : Option Int
  /-- A whole number in positional notation ends in `.0`. -/
  pointZero : Bool
  /-- A positive exponent has a sign. -/
  plusSign : Bool
  tie : Tie

/-- Never an exponent, and no point in a whole number. -/
def Layout.plain : Layout := ⟨none, none, false, false, .up⟩

/-- Positional from `0.00001` to below `10^16`, and every exponent has a sign. -/
def Layout.json : Layout := ⟨some (-5), some 15, true, true, .even⟩

/-- Positional from `0.0001` to below `10^16`. -/
def Layout.source : Layout := ⟨some (-4), some 15, true, false, .up⟩

def Layout.isPositional (l : Layout) (exponent : Int) : Bool :=
  l.least.all (· ≤ exponent) && l.most.all (exponent ≤ ·)

def Layout.positional (l : Layout) (digits : List Char) (exponent : Int) : List Char :=
  let whole := if l.pointZero then ['.', '0'] else []
  if 0 ≤ exponent then digits ++ List.replicate exponent.toNat '0' ++ whole
  else
    let point := (digits.length + exponent).toNat
    if 0 < digits.length + exponent then digits.take point ++ ['.'] ++ digits.drop point
    else ['0', '.'] ++ List.replicate (-(digits.length + exponent)).toNat '0' ++ digits

def Layout.scientific (l : Layout) (digits : List Char) (exponent : Int) : List Char :=
  let fraction := if digits.length ≤ 1 then [] else '.' :: digits.drop 1
  let sign := if exponent < 0 then ['-'] else if l.plusSign then ['+'] else []
  digits.take 1 ++ fraction ++ ['e'] ++ sign ++ Nat.toDigits 10 exponent.natAbs

def Layout.decimal (l : Layout) (d : Decimal) : List Char :=
  let digits := Nat.toDigits 10 d.coefficient
  let exponent := digits.length - 1 + d.exponent
  if l.isPositional exponent then l.positional digits d.exponent else l.scientific digits exponent

open Float.Model.UnpackedFloat in
def signText : Sign → String
  | .negative => "-"
  | .positive => ""

def Layout.write (l : Layout) (x : Float) : String :=
  match x.toModel.unpack with
  | .notANumber => "NaN"
  | .infinity s => signText s ++ "inf"
  | .zero s => signText s ++ if l.pointZero then "0.0" else "0"
  | .finite s m e _ => signText s ++ String.ofList (l.decimal (shortest l.tie m e))

/-- Whole numbers below this magnitude are written as integers. -/
def integerBound : Nat := 1000000000000000

def smallInt? (x : Float) : Option Int :=
  (toInt? x).filter fun n => n.natAbs < integerBound

def text (x : Float) : String :=
  match smallInt? x with
  | some n => toString n
  | none => Layout.plain.write x

def jsonText (x : Float) : String :=
  match smallInt? x with
  | some n => toString n
  | none => Layout.json.write x

end PromptLang.Number
