import PromptLang.Json.Basic

/-! Taking JSON trees apart for decoding. Every part comes with the fact that it is smaller than the whole, so that a decoder
may recurse into it. A record is an object with named parts or an array with exactly those parts in order; a tagged value is
an object with one member or a bare tag. -/

namespace PromptLang.Json

/-- A tree smaller than `j`. -/
abbrev Part (j : Json) := { v : Json // sizeOf v < sizeOf j }

def memberPart? (name : String) : (ms : List (String × Json)) → Option { v : Json // sizeOf v < sizeOf ms }
  | [] => none
  | (k, v) :: rest =>
    if k = name then some ⟨v, by simp; omega⟩
    else (memberPart? name rest).map fun ⟨v, h⟩ => ⟨v, by simp; omega⟩

def itemParts : (items : List Json) → List { v : Json // sizeOf v < sizeOf items }
  | [] => []
  | item :: rest => ⟨item, by simp; omega⟩ :: (itemParts rest).map fun ⟨v, h⟩ => ⟨v, by simp; omega⟩

def items? : (j : Json) → Option (List j.Part)
  | .array items => some ((itemParts items).map fun ⟨v, h⟩ => ⟨v, by simp; omega⟩)
  | _ => none

/-- The parts of a record with the given field names, absent ones as `none`. -/
def parts? (names : List String) : (j : Json) → Option (List (Option j.Part))
  | .object ms =>
    some (names.map fun name => (memberPart? name ms).map fun ⟨v, h⟩ => ⟨v, by simp; omega⟩)
  | .array items =>
    if items.length = names.length then
      some ((itemParts items).map fun ⟨v, h⟩ => some ⟨v, by simp; omega⟩)
    else none
  | _ => none

/-- The tag of a tagged value, and its content if it has one. -/
def tagged? : (j : Json) → Option (String × Option j.Part)
  | .string tag => some (tag, none)
  | .object [(tag, v)] => some (tag, some ⟨v, by simp; omega⟩)
  | _ => none

/-- A tag that takes no content. A null in its place is no content. -/
def bareTag? (j : Json) : Option String :=
  match j.tagged? with
  | some (tag, none) => some tag
  | some (tag, some ⟨.null, _⟩) => some tag
  | _ => none

end PromptLang.Json
