import PromptLang.Error
import PromptLang.Value.Basic

/-! Writing and reading at a path inside a value. A write creates the objects that are missing on its way, and may add one item
at the end of an array. A write that fails leaves behind what it had created until then. -/

namespace PromptLang.Value

/-- What a write leaves, and why it failed if it did. -/
structure Written where
  value : Value
  error? : Option Error

/-- What stands where a path goes on into a missing key. -/
def fresh (rest : List Step) : Value := if rest.isEmpty then null else object []

def setPath (new : Value) : List Step → Value → Written
  | [], _ => ⟨new, none⟩
  | .key key :: rest, .object members =>
    let inner := setPath new rest ((Entries.get? key members).getD (fresh rest))
    ⟨.object (Entries.insert key inner.value members), inner.error?⟩
  | .index i :: rest, .array items =>
    match items[i]? with
    | some item =>
      let inner := setPath new rest item
      ⟨.array (items.set i inner.value), inner.error?⟩
    | none =>
      if i = items.length then
        let inner := setPath new rest null
        ⟨.array (items ++ [inner.value]), inner.error?⟩
      else ⟨.array items, some (.mismatch (.outOfBounds i items.length))⟩
  | step :: _, v => ⟨v, some (.mismatch (.noStep step v.kind))⟩

def atStep (v : Value) : Step → Value
  | .key name => v.member name
  | .index i =>
    match v with
    | .array items => (items[i]?).getD null
    | _ => null

def getPath (v : Value) (path : List Step) : Value := path.foldl atStep v

end PromptLang.Value
