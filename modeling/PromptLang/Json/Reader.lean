import PromptLang.Json.Basic
import PromptLang.Number.Reader

/-! Reading JSON text, strictly by the grammar: four blanks, no trailing commas, no lone surrogates, no number outside the
range of floats. A repeated member keeps its first place and its last value, and containers nest only to a given
depth. -/

namespace PromptLang.Json

def isBlank (c : Char) : Bool := c = ' ' || c = '\t' || c = '\n' || c = '\r'

def skipBlank (cs : List Char) : List Char := cs.dropWhile isBlank

def hexValue? (c : Char) : Option Nat :=
  if '0' ≤ c ∧ c ≤ '9' then some (c.toNat - '0'.toNat)
  else if 'a' ≤ c ∧ c ≤ 'f' then some (c.toNat - 'a'.toNat + 10)
  else if 'A' ≤ c ∧ c ≤ 'F' then some (c.toNat - 'A'.toNat + 10)
  else none

def unit? (a b c d : Char) : Option Nat := do
  return (((← hexValue? a) * 16 + (← hexValue? b)) * 16 + (← hexValue? c)) * 16 + (← hexValue? d)

def isHighSurrogate (u : Nat) : Bool := 0xd800 ≤ u && u < 0xdc00

def isLowSurrogate (u : Nat) : Bool := 0xdc00 ≤ u && u < 0xe000

def joinSurrogates (high low : Nat) : Char :=
  Char.ofNat (0x10000 + (high - 0xd800) * 0x400 + (low - 0xdc00))

/-- The character that a one-letter escape stands for. -/
def shortEscape? (c : Char) : Option Char :=
  if c = '"' ∨ c = '\\' ∨ c = '/' then some c
  else if c = 'b' then some (Char.ofNat 8)
  else if c = 'f' then some (Char.ofNat 12)
  else if c = 'n' then some '\n'
  else if c = 'r' then some '\r'
  else if c = 't' then some '\t'
  else none

def consChar (c : Char) (r : Option (List Char × List Char)) : Option (List Char × List Char) :=
  r.map fun (s, rest) => (c :: s, rest)

/-- The characters of a string up to its closing quote, and what follows. -/
def stringBody? : List Char → Option (List Char × List Char)
  | [] => none
  | c :: rest =>
    if c = '"' then some ([], rest)
    else if c = '\\' then
      match rest with
      | [] => none
      | kind :: rest =>
        if kind = 'u' then
          match rest with
          | a :: b :: c :: d :: rest =>
            match unit? a b c d with
            | none => none
            | some u =>
              if isHighSurrogate u then
                match rest with
                | slash :: letter :: a :: b :: c :: d :: rest =>
                  match unit? a b c d with
                  | none => none
                  | some v =>
                    if slash = '\\' ∧ letter = 'u' ∧ isLowSurrogate v then
                      consChar (joinSurrogates u v) (stringBody? rest)
                    else none
                | _ => none
              else if isLowSurrogate u then none
              else consChar (Char.ofNat u) (stringBody? rest)
          | _ => none
        else
          match shortEscape? kind with
          | none => none
          | some e => consChar e (stringBody? rest)
    else if c.toNat < 32 then none
    else consChar c (stringBody? rest)
termination_by structural cs => cs

def fraction? : List Char → Option (List Char × List Char)
  | '.' :: cs =>
    let digits := cs.takeWhile Char.isDigit
    if digits = [] then none else some (digits, cs.dropWhile Char.isDigit)
  | cs => some ([], cs)

def exponent? : List Char → Option (Int × List Char)
  | [] => some (0, [])
  | c :: cs =>
    if c = 'e' ∨ c = 'E' then
      let (negative, cs) := Number.splitSign cs
      let digits := cs.takeWhile Char.isDigit
      let size : Int := Number.digitsValue digits
      if digits = [] then none else some (if negative then -size else size, cs.dropWhile Char.isDigit)
    else some (0, c :: cs)

def splitMinus : List Char → Bool × List Char
  | '-' :: cs => (true, cs)
  | cs => (false, cs)

def number? (cs : List Char) : Option (Float × List Char) := do
  let (negative, cs) := splitMinus cs
  let whole := cs.takeWhile Char.isDigit
  guard (whole ≠ [] ∧ (whole.head? = some '0' → whole.length = 1))
  let (fraction, cs) ← fraction? (cs.dropWhile Char.isDigit)
  let (exponent, cs) ← exponent? cs
  let x := Number.ofDecimal (Number.digitsValue (whole ++ fraction)) (exponent - fraction.length)
  guard x.isFinite
  return (Number.applySign negative x, cs)

def word? (word : List Char) (value : Json) (cs : List Char) : Option (Json × List Char) :=
  if word.isPrefixOf cs then some (value, cs.drop word.length) else none

mutual

/-- One value and what follows it. The first argument bounds the steps, the second the nesting. -/
def readValue? : Nat → Nat → List Char → Option (Json × List Char)
  | 0, _, _ => none
  | fuel + 1, depth, cs =>
    match skipBlank cs with
    | [] => none
    | c :: rest =>
      if c = '"' then (stringBody? rest).map fun (s, rest) => (.string (String.ofList s), rest)
      else if c = '[' then
        match depth, skipBlank rest with
        | 0, _ => none
        | _ + 1, ']' :: rest => some (.array [], rest)
        | depth + 1, rest => (readItems? fuel depth rest).map fun (js, rest) => (.array js, rest)
      else if c = '\x7b' then
        match depth, skipBlank rest with
        | 0, _ => none
        | _ + 1, '\x7d' :: rest => some (.object [], rest)
        | depth + 1, rest =>
          (readMembers? fuel depth rest).map fun (ms, rest) => (.object (Entries.ofList ms), rest)
      else if c = 't' then word? ['r', 'u', 'e'] (.bool true) rest
      else if c = 'f' then word? ['a', 'l', 's', 'e'] (.bool false) rest
      else if c = 'n' then word? ['u', 'l', 'l'] .null rest
      else (number? (c :: rest)).map fun (x, rest) => (.number x, rest)
termination_by structural fuel => fuel

def readItems? : Nat → Nat → List Char → Option (List Json × List Char)
  | 0, _, _ => none
  | fuel + 1, depth, cs =>
    match readValue? fuel depth cs with
    | none => none
    | some (j, rest) =>
      match skipBlank rest with
      | ',' :: rest => (readItems? fuel depth rest).map fun (js, rest) => (j :: js, rest)
      | ']' :: rest => some ([j], rest)
      | _ => none
termination_by structural fuel => fuel

def readMembers? : Nat → Nat → List Char → Option (List (String × Json) × List Char)
  | 0, _, _ => none
  | fuel + 1, depth, cs =>
    match skipBlank cs with
    | '"' :: rest =>
      match stringBody? rest with
      | none => none
      | some (name, rest) =>
        match skipBlank rest with
        | ':' :: rest =>
          match readValue? fuel depth rest with
          | none => none
          | some (j, rest) =>
            match skipBlank rest with
            | ',' :: rest =>
              (readMembers? fuel depth rest).map fun (ms, rest) => ((String.ofList name, j) :: ms, rest)
            | '\x7d' :: rest => some ([(String.ofList name, j)], rest)
            | _ => none
        | _ => none
    | _ => none
termination_by structural fuel => fuel

end

/-- The value that a text spells, with containers nested at most `depth` deep. -/
def read? (depth : Nat) (s : String) : Option Json :=
  match readValue? (2 * s.length + 2) depth s.toList with
  | some (j, rest) => if skipBlank rest = [] then some j else none
  | none => none

end PromptLang.Json
