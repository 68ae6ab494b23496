import PromptLang.Value.Equality
import PromptLang.Value.Json

/-! The state of one prompt execution: named slots and a stack of local frames, innermost first. A child has a fresh innermost
frame; going back to the parent drops that frame and keeps what was written to outer ones and to slots. -/

namespace PromptLang

/-! The slots that the interpreter itself uses. -/
namespace Slot

def params : String := "params"
def metadata : String := "meta"
def context : String := "context"
def constraints : String := "constraints"
def output : String := "output"
def hooks : String := "hooks"
def techniques : String := "techniques"
def examples : String := "examples"
def instruction : String := "instruction"
def chainOfThought : String := "chainOfThought"

/-- Names that a program may not take for a buffer of its own. -/
def reserved : List String :=
  [params, metadata, context, constraints, output, hooks, techniques, examples, instruction, chainOfThought]

def isReserved (name : String) : Bool := reserved.contains name

end Slot

/-- A place in which an identifier is looked up. -/
inductive Scope where
  | locals | slots | params | context | metadata
deriving DecidableEq, Repr

def Scope.defaultOrder : List Scope := [locals, params, slots, context, metadata]

structure Env where
  slots : Entries Value
  frames : List (Entries Value)

namespace Env

def empty : Env where
  slots := [
    (Slot.params, .object []), (Slot.metadata, .object []), (Slot.context, .object []),
    (Slot.constraints, .object []), (Slot.output, .object []), (Slot.hooks, .object []),
    (Slot.techniques, .array [])]
  frames := []

def slot? (env : Env) (name : String) : Option Value := env.slots.get? name

def slotObject? (env : Env) (name : String) : Option (Entries Value) := (env.slot? name).bind Value.object?

def slotMember? (env : Env) (slot name : String) : Option Value :=
  (env.slotObject? slot).bind fun members => members.get? name

def setSlot (env : Env) (name : String) (value : Value) : Env :=
  { env with slots := env.slots.insert name value }

/-- Writes a member of a slot; a slot that is no object is replaced by one. -/
def setSlotField (env : Env) (slot name : String) (value : Value) : Env :=
  env.setSlot slot (.object (((env.slotObject? slot).getD []).insert name value))

/-- Adds an item to a slot; a slot that is no array is replaced by one. -/
def pushSlotItem (env : Env) (slot : String) (value : Value) : Env :=
  env.setSlot slot (.array (((env.slot? slot).bind Value.array?).getD [] ++ [value]))

def params (env : Env) : Entries Value := (env.slotObject? Slot.params).getD []

def withParams (params : Entries Value) : Env := empty.setSlot Slot.params (.object params)

def child (env : Env) : Env := { env with frames := [] :: env.frames }

/-- Binds in the innermost frame, hiding outer bindings. -/
def bind (env : Env) (name : String) (value : Value) : Env :=
  match env.frames with
  | [] => { env with frames := [Entries.insert name value []] }
  | frame :: outer => { env with frames := frame.insert name value :: outer }

def extend (env : Env) (name : String) (value : Value) : Env := env.child.bind name value

def parent (env : Env) : Env := { env with frames := env.frames.tail }

def local? (env : Env) (name : String) : Option Value := env.frames.findSome? fun frame => frame.get? name

/-- Writes a name in the innermost frame that has it. -/
def updateFrames (name : String) (value : Value) : List (Entries Value) → Option (List (Entries Value))
  | [] => none
  | frame :: outer =>
    if frame.has name then some (frame.insert name value :: outer)
    else (updateFrames name value outer).map (frame :: ·)

/-- Assignment to a name: its nearest local binding, else the slot of that name, else a new binding in the innermost frame. -/
def assign (env : Env) (name : String) (value : Value) : Env :=
  match updateFrames name value env.frames with
  | some frames => { env with frames := frames }
  | none => if env.slots.has name then env.setSlot name value else env.bind name value

/-- The value that an assignment to a name starts from: a local binding, else a slot. -/
def current? (env : Env) (name : String) : Option Value := (env.local? name).or (env.slot? name)

def lookIn (env : Env) (name : String) : Scope → Option Value
  | .locals => env.local? name
  | .slots => env.slot? name
  | .params => env.slotMember? Slot.params name
  | .context => env.slotMember? Slot.context name
  | .metadata => env.slotMember? Slot.metadata name

def resolve? (env : Env) (name : String) (order : List Scope) : Option Value :=
  order.findSome? (env.lookIn name)

/-- Every slot, with local bindings on top and inner ones over outer ones. -/
def flatten (env : Env) : Entries Value := env.frames.foldr (fun frame acc => acc.insertAll frame) env.slots

def toJson (env : Env) : Json := .object (Value.toJsonMembers env.flatten)

/-- Equal slots and equal frames. -/
def same (a b : Env) : Bool :=
  Value.same (.object a.slots) (.object b.slots)
    && Value.sameList (a.frames.map .object) (b.frames.map .object)

theorem slot?_setSlot_self (env : Env) (name : String) (value : Value) : (env.setSlot name value).slot? name = some value :=
  Entries.get?_insert_self name value env.slots

theorem slot?_setSlot_of_ne {name other : String} (h : other ≠ name) (env : Env) (value : Value) :
    (env.setSlot name value).slot? other = env.slot? other :=
  Entries.get?_insert_of_ne h value env.slots

end Env

end PromptLang
