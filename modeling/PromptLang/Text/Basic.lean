/-! Texts as lists of characters: sets of characters, white space and trimming, cutting into pieces and searching. A set of characters is
given by ascending ranges of code points. Membership stops at the first range that starts above the character, so a table must
be sorted. -/

namespace PromptLang.Text

/-- Inclusive ranges of code points in ascending order. -/
abbrev Ranges := List (Nat × Nat)

def Ranges.has : Ranges → Nat → Bool
  | [], _ => false
  | (first, last) :: rest, n => if n < first then false else n ≤ last || Ranges.has rest n

/-- The characters with the property White_Space. -/
def whitespaceRanges : Ranges := [
  (0x9, 0xd), (0x20, 0x20), (0x85, 0x85), (0xa0, 0xa0), (0x1680, 0x1680), (0x2000, 0x200a),
  (0x2028, 0x2029), (0x202f, 0x202f), (0x205f, 0x205f), (0x3000, 0x3000)]

def isSpace (c : Char) : Bool := whitespaceRanges.has c.toNat

/-- The text without white space at either end. -/
def trimChars (cs : List Char) : List Char :=
  ((cs.dropWhile isSpace).reverse.dropWhile isSpace).reverse

def trim (s : String) : String := String.ofList (trimChars s.toList)

def consFirst (c : Char) : List (List Char) → List (List Char)
  | [] => [[c]]
  | piece :: rest => (c :: piece) :: rest

theorem consFirst_append (c : Char) {pieces : List (List Char)} (h : pieces ≠ []) (more : List (List Char)) :
    consFirst c (pieces ++ more) = consFirst c pieces ++ more := by
  cases pieces with
  | nil => exact absurd rfl h
  | cons piece rest => rfl

/-- The pieces between the characters that satisfy `sep`, empty ones included. -/
def pieces (sep : Char → Bool) : List Char → List (List Char)
  | [] => [[]]
  | c :: cs => if sep c then [] :: pieces sep cs else consFirst c (pieces sep cs)

/-- The non-empty pieces. -/
def words (sep : Char → Bool) (cs : List Char) : List (List Char) :=
  (pieces sep cs).filter (· ≠ [])

def tokens (s : String) : List String := (words isSpace s.toList).map String.ofList

def contains (part : List Char) : List Char → Bool
  | [] => part.isEmpty
  | c :: cs => part.isPrefixOf (c :: cs) || contains part cs

theorem contains_iff_infix (part cs : List Char) : contains part cs = true ↔ part <:+: cs := by
  induction cs with
  | nil => simp [contains]
  | cons c cs ih => simp [contains, ih, List.infix_cons_iff]

def mentions (s part : String) : Bool := contains part.toList s.toList

end PromptLang.Text
