import PromptLang.Proofs.Assignment
import PromptLang.Proofs.BlockScoping
import PromptLang.Proofs.FirstOccurrences
import PromptLang.Proofs.OutputText

/-! The environment as JSON. Writing the frames over the slots from the outermost one inwards leaves under each name the value that a search
from the innermost frame outwards finds first. The names of the slots come first, then the local names that are no slots, where
they are first met on the way inwards. Both rest on frames that repeat no name, as every operation on environments leaves them. -/

namespace PromptLang

namespace Entries

variable {α β : Type}

theorem get?_map (f : α → β) (key : String) (es : Entries α) :
    get? key (es.map fun kv => (kv.1, f kv.2)) = (es.get? key).map f := by
  induction es with
  | nil => rfl
  | cons kv rest ih =>
    obtain ⟨k, v⟩ := kv
    by_cases hk : k = key <;> simp [get?, hk, ih]

theorem mem_keys_iff {key : String} {es : Entries α} : key ∈ es.keys ↔ ∃ value, es.get? key = some value := by
  rw [← has_iff_mem_keys, has, Option.isSome_iff_exists]

theorem nodup_keys_insert {es : Entries α} (distinct : es.keys.Nodup) (key : String) (value : α) :
    (es.insert key value).keys.Nodup := by
  rw [keys_insert]
  split
  · exact distinct
  · next hnew => exact List.nodup_append_comm.2 (List.nodup_cons.2 ⟨hnew, distinct⟩)

theorem get?_insertAll {new : Entries α} (distinct : new.keys.Nodup) (es : Entries α) (key : String) :
    (es.insertAll new).get? key = (new.get? key).or (es.get? key) := by
  induction new generalizing es with
  | nil => rfl
  | cons kv rest ih =>
    obtain ⟨k, v⟩ := kv
    obtain ⟨hk, hrest⟩ := List.nodup_cons.1 distinct
    have hstep : es.insertAll ((k, v) :: rest) = (es.insert k v).insertAll rest := rfl
    rw [hstep, ih hrest]
    by_cases heq : k = key
    · subst heq
      have hnone : get? k rest = none := get?_eq_none hk
      rw [hnone, get?_insert_self, get?, if_pos rfl]
      rfl
    · rw [get?_insert_of_ne (Ne.symm heq), get?, if_neg heq]

theorem keys_insertAll {es : Entries α} {seen : List String} (h : es.keys = seen.eraseDups) (new : Entries α) :
    (es.insertAll new).keys = (seen ++ new.keys).eraseDups := by
  induction new generalizing es seen with
  | nil => simpa [insertAll, keys] using h
  | cons kv rest ih =>
    have hstep : es.insertAll (kv :: rest) = (es.insert kv.1 kv.2).insertAll rest := rfl
    rw [hstep, ih (keys_insert_of_eraseDups h kv.1 kv.2), List.append_assoc]
    rfl

end Entries

namespace Env

/-- No name stands twice among the slots or in one frame. -/
structure Distinct (env : Env) : Prop where
  slots : env.slots.keys.Nodup
  frames : ∀ names ∈ env.frameNames, names.Nodup

/-- The environments that operations lead to. The operations not listed, such as a write to a member of a slot, are made of these. -/
inductive Built : Env → Prop where
  | empty : Built empty
  | setSlot {env : Env} (h : Built env) (name : String) (value : Value) : Built (env.setSlot name value)
  | child {env : Env} (h : Built env) : Built env.child
  | bind {env : Env} (h : Built env) (name : String) (value : Value) : Built (env.bind name value)
  | assign {env : Env} (h : Built env) (name : String) (value : Value) : Built (env.assign name value)
  | parent {env : Env} (h : Built env) : Built env.parent

namespace Distinct

variable {env env' : Env}

theorem of_sameNames (h : env.Distinct) (hnames : env.SameNames env') : env'.Distinct :=
  ⟨hnames.slots ▸ h.slots, hnames.frames ▸ h.frames⟩

theorem setSlot (h : env.Distinct) (name : String) (value : Value) : (env.setSlot name value).Distinct :=
  ⟨Entries.nodup_keys_insert h.slots name value, h.frames⟩

theorem bind (h : env.Distinct) (name : String) (value : Value) : (env.bind name value).Distinct := by
  obtain ⟨slots, frames⟩ := env
  cases frames with
  | nil => exact ⟨h.slots, List.forall_mem_singleton.2 (List.nodup_singleton name)⟩
  | cons frame outer =>
    obtain ⟨hframe, houter⟩ := List.forall_mem_cons.1 h.frames
    exact ⟨h.slots, List.forall_mem_cons.2 ⟨Entries.nodup_keys_insert hframe name value, houter⟩⟩

theorem assign (h : env.Distinct) (name : String) (value : Value) : (env.assign name value).Distinct := by
  unfold Env.assign
  split
  · next frames hupdate => exact h.of_sameNames ⟨rfl, updateFrames_names hupdate⟩
  · split
    · exact h.setSlot name value
    · exact h.bind name value

end Distinct

theorem Built.distinct {env : Env} (h : env.Built) : env.Distinct := by
  induction h with
  | empty => exact ⟨by decide, List.forall_mem_nil _⟩
  | setSlot _ name value ih => exact ih.setSlot name value
  | child _ ih => exact ⟨ih.slots, List.forall_mem_cons.2 ⟨List.nodup_nil, ih.frames⟩⟩
  | bind _ name value ih => exact ih.bind name value
  | assign _ name value ih => exact ih.assign name value
  | parent _ ih =>
    refine ⟨ih.slots, fun names hnames => ih.frames names ?_⟩
    rw [frameNames, Env.parent, List.map_tail] at hnames
    exact List.mem_of_mem_tail hnames

/-- What a name stands for: the value in the innermost frame that has the name or, if there is none, the slot. -/
inductive Sees (env : Env) (name : String) (value : Value) : Prop where
  | bound (inner : List (Entries Value)) (frame : Entries Value) (outer : List (Entries Value))
      (frames : env.frames = inner ++ frame :: outer) (hidden : ∀ f ∈ inner, name ∉ Entries.keys f) (found : (name, value) ∈ frame)
  | slot (unbound : ∀ frame ∈ env.frames, name ∉ Entries.keys frame) (found : (name, value) ∈ env.slots)

theorem Distinct.frame {env : Env} (h : env.Distinct) {frame : Entries Value} (hframe : frame ∈ env.frames) : frame.keys.Nodup :=
  h.frames _ (List.mem_map_of_mem hframe)

theorem current?_eq_some_iff {env : Env} (h : env.Distinct) {name : String} {value : Value} :
    env.current? name = some value ↔ env.Sees name value := by
  rw [current?, Option.or_eq_some_iff]
  constructor
  · rintro (hlocal | ⟨hunbound, hslot⟩)
    · obtain ⟨inner, frame, outer, hframes, hget, hinner⟩ := List.findSome?_eq_some_iff.1 hlocal
      exact .bound inner frame outer hframes (fun f hf => Entries.notMem_keys_of_get? (hinner f hf)) (Entries.mem_of_get? hget)
    · exact .slot (local?_eq_none_iff.1 hunbound) (Entries.mem_of_get? hslot)
  · rintro (⟨inner, frame, outer, hframes, hhidden, hfound⟩ | ⟨hunbound, hfound⟩)
    · have hdistinct : frame.keys.Nodup := h.frame (by simp [hframes])
      exact .inl (List.findSome?_eq_some_iff.2 ⟨inner, frame, outer, hframes, Entries.get?_of_mem hdistinct hfound,
        fun f hf => Entries.get?_eq_none (hhidden f hf)⟩)
    · exact .inr ⟨local?_eq_none_iff.2 hunbound, Entries.get?_of_mem h.slots hfound⟩

/-- Overwriting on the way inwards finds the same as stopping on the way outwards. The induction is on the frames, innermost first: the
frame that is searched first is the one that is written last. -/
theorem get?_flatten {env : Env} (h : ∀ frame ∈ env.frames, (Entries.keys frame).Nodup) (name : String) :
    env.flatten.get? name = env.current? name := by
  obtain ⟨slots, frames⟩ := env
  induction frames with
  | nil => rfl
  | cons frame outer ih =>
    obtain ⟨hframe, houter⟩ := List.forall_mem_cons.1 h
    have hwritten : flatten ⟨slots, frame :: outer⟩ = (flatten ⟨slots, outer⟩).insertAll frame := rfl
    rw [hwritten, Entries.get?_insertAll hframe, ih houter, current?, current?, local?, local?, List.findSome?_cons]
    cases Entries.get? name frame <;> rfl

theorem keys_flatten {env : Env} (h : env.slots.keys.Nodup) :
    env.flatten.keys = (env.slots.keys ++ env.frameNames.reverse.flatten).eraseDups := by
  obtain ⟨slots, frames⟩ := env
  induction frames with
  | nil =>
    have hslots : slots.keys.eraseDups = slots.keys := eraseDups_of_nodup h
    simp [flatten, frameNames, hslots]
  | cons frame outer ih =>
    have hwritten : flatten ⟨slots, frame :: outer⟩ = (flatten ⟨slots, outer⟩).insertAll frame := rfl
    rw [hwritten, Entries.keys_insertAll (ih h)]
    simp [frameNames]

theorem toJson_eq (env : Env) : env.toJson = .object (env.flatten.map fun kv => (kv.1, kv.2.toJson)) := by
  rw [toJson, Value.toJsonMembers_eq_map]

/-- The serialized environment has the names that have a value, each with the value that a look-up finds: the one in the innermost frame or
else the slot. First come the slots, then the local names that are no slots, from the outermost frame inwards, each where it is
first met. -/
theorem serialized_environment_shows_lookups (env : Env) (h : env.Distinct) :
    ∃ members : Entries Json, env.toJson = .object members ∧
      (∀ name, name ∈ members.keys ↔ ∃ value, env.current? name = some value) ∧
      (∀ name value, env.current? name = some value → members.get? name = some value.toJson) ∧
      (∀ name value, env.current? name = some value ↔ env.Sees name value) ∧
      (∀ name, env.resolve? name [.locals, .slots] = env.current? name) ∧
      members.keys = env.slots.keys ++ (env.frameNames.reverse.flatten.removeAll env.slots.keys).eraseDups ∧
      members.keys.Nodup := by
  have hkeys : Entries.keys (env.flatten.map fun kv => (kv.1, kv.2.toJson)) = env.flatten.keys := by
    simp [Entries.keys]
  have hget (name : String) : Entries.get? name (env.flatten.map fun kv => (kv.1, kv.2.toJson)) =
      (env.current? name).map Value.toJson := by
    rw [Entries.get?_map, get?_flatten fun _ => h.frame]
  refine ⟨_, env.toJson_eq, fun name => ?_, fun name value hvalue => ?_, fun _ _ => current?_eq_some_iff h, fun name => ?_, ?_, ?_⟩
  · rw [hkeys, Entries.mem_keys_iff, get?_flatten fun _ => h.frame]
  · rw [hget, hvalue]
    rfl
  · rw [resolve?_cons, resolve?_cons, lookIn, lookIn, current?]
    simp [resolve?]
  · rw [hkeys, keys_flatten h.slots, List.eraseDups_append, eraseDups_of_nodup h.slots]
  · rw [hkeys, keys_flatten h.slots]
    exact nodup_eraseDups _

/-- A slot that an outer frame hides, and a loop variable that hides the one of an outer loop. -/
def layered : Env :=
  (((Env.empty.setSlot "draft" (.str "slot")).extend "item" (.str "outer")).bind "draft" (.str "outer")).extend "item" (.str "inner")

theorem layered_shows_innermost : layered.Distinct ∧ ∃ members : Entries Json, layered.toJson = .object members ∧
    members.keys = Env.empty.slots.keys ++ ["draft", "item"] ∧
    members.get? "item" = some (.string "inner") ∧ members.get? "draft" = some (.string "outer") ∧
    layered.resolve? "draft" [.locals, .slots] = layered.current? "draft" ∧ "other" ∉ members.keys := by
  have hbuilt : layered.Built := ((((Built.empty.setSlot _ _).child.bind _ _).bind _ _).child.bind _ _)
  obtain ⟨members, hjson, hpresent, hvalue, -, hresolve, hkeys, -⟩ := serialized_environment_shows_lookups layered hbuilt.distinct
  refine ⟨hbuilt.distinct, members, hjson, ?_, hvalue "item" (.str "inner") rfl,
    hvalue "draft" (.str "outer") rfl, hresolve _, ?_⟩
  · rw [hkeys]
    decide
  · rw [hpresent]
    rintro ⟨value, hother⟩
    cases hother

end Env

end PromptLang
