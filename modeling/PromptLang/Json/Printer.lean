import PromptLang.Json.Basic
import PromptLang.Number.Layout
import PromptLang.Text.Quoted

/-! JSON text in two forms: compact, without any blank, and indented by two blanks a level. Only the quote, the
backslash and the controls below the blank are escaped. -/

namespace PromptLang.Json

def hexPair (n : Nat) : List Char :=
  (if n < 16 then ['0'] else []) ++ Text.hexDigits n

def escapedChar (c : Char) : List Char :=
  if c = '"' then ['\\', '"']
  else if c = '\\' then ['\\', '\\']
  else if c = '\n' then ['\\', 'n']
  else if c = '\r' then ['\\', 'r']
  else if c = '\t' then ['\\', 't']
  else if c.toNat = 8 then ['\\', 'b']
  else if c.toNat = 12 then ['\\', 'f']
  else if c.toNat < 32 then ['\\', 'u', '0', '0'] ++ hexPair c.toNat
  else [c]

def stringChars (s : String) : List Char := '"' :: s.toList.flatMap escapedChar ++ ['"']

def scalarChars : Json → List Char
  | .bool true => ['t', 'r', 'u', 'e']
  | .bool false => ['f', 'a', 'l', 's', 'e']
  | .number x => (Number.jsonText x).toList
  | .string s => stringChars s
  | _ => ['n', 'u', 'l', 'l']

mutual

def compactChars : Json → List Char
  | .array items => '[' :: compactItems items ++ [']']
  | .object members => '\x7b' :: compactMembers members ++ ['\x7d']
  | scalar => scalarChars scalar
termination_by structural j => j

def compactItems : List Json → List Char
  | [] => []
  | item :: rest => compactChars item ++ compactItemsTail rest
termination_by structural js => js

def compactItemsTail : List Json → List Char
  | [] => []
  | item :: rest => ',' :: compactChars item ++ compactItemsTail rest
termination_by structural js => js

def compactMembers : List (String × Json) → List Char
  | [] => []
  | (name, value) :: rest => stringChars name ++ ':' :: compactChars value ++ compactMembersTail rest
termination_by structural ms => ms

def compactMembersTail : List (String × Json) → List Char
  | [] => []
  | (name, value) :: rest =>
    ',' :: stringChars name ++ ':' :: compactChars value ++ compactMembersTail rest
termination_by structural ms => ms

end

def compact (j : Json) : String := String.ofList (compactChars j)

def newline (level : Nat) : List Char := '\n' :: List.replicate (2 * level) ' '

mutual

def indentedChars (level : Nat) : Json → List Char
  | .array [] => ['[', ']']
  | .array items => '[' :: indentedItems (level + 1) items ++ newline level ++ [']']
  | .object [] => ['\x7b', '\x7d']
  | .object members => '\x7b' :: indentedMembers (level + 1) members ++ newline level ++ ['\x7d']
  | scalar => scalarChars scalar
termination_by structural j => j

def indentedItems (level : Nat) : List Json → List Char
  | [] => []
  | item :: rest =>
    newline level ++ indentedChars level item
      ++ (if rest.isEmpty then [] else ',' :: indentedItems level rest)
termination_by structural js => js

def indentedMembers (level : Nat) : List (String × Json) → List Char
  | [] => []
  | (name, value) :: rest =>
    newline level ++ stringChars name ++ [':', ' '] ++ indentedChars level value
      ++ (if rest.isEmpty then [] else ',' :: indentedMembers level rest)
termination_by structural ms => ms

end

def indented (j : Json) : String := String.ofList (indentedChars 0 j)

end PromptLang.Json
