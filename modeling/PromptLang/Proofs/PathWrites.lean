import PromptLang.Value.Path

/-! Writing at a path inside a value. A write that succeeds is an update: the path then reads what was written, a second write at the
same path replaces the first, every path that leaves the written one reads as before, and the containers on the way keep their keys
in order. A write that fails destroys nothing: it leaves the value as it was or with one entry more, a chain of empty objects or a
null, and what it leaves does not depend on what was to be written. -/

namespace PromptLang.Value

/-- A write can take the step: to any key of an object, to an item of an array, and to the place after the last item. -/
inductive Admits : Value → Step → Prop where
  | key (members : Entries Value) (key : String) : Admits (.object members) (.key key)
  | item (items : List Value) (i : Nat) (h : i < items.length) : Admits (.array items) (.index i)
  | append (items : List Value) : Admits (.array items) (.index items.length)

/-- What a write with the path `rest` ahead of it finds behind a step. -/
def found (v : Value) (step : Step) (rest : List Step) : Value :=
  match v, step with
  | .object members, .key key => (Entries.get? key members).getD (fresh rest)
  | .array items, .index i => (items[i]?).getD null
  | _, _ => null

/-- The value with `new` behind a step. -/
def place (v : Value) (step : Step) (new : Value) : Value :=
  match v, step with
  | .object members, .key key => .object (Entries.insert key new members)
  | .array items, .index i => .array (if i < items.length then items.set i new else items ++ [new])
  | v, _ => v

/-! One step of a write. -/

theorem setPath_of_admits {v : Value} {step : Step} (h : v.Admits step) (new : Value) (rest : List Step) :
    setPath new (step :: rest) v =
      ⟨v.place step (setPath new rest (v.found step rest)).value, (setPath new rest (v.found step rest)).error?⟩ := by
  cases h with
  | key => rfl
  | item items i hi => simp [setPath, found, place, hi]
  | append items => simp [setPath, found, place]

theorem setPath_of_not_admits {v : Value} {step : Step} (h : ¬ v.Admits step) (rest : List Step) :
    ∃ e, ∀ new, setPath new (step :: rest) v = ⟨v, some e⟩ := by
  cases v with
  | object members =>
    cases step with
    | key key => exact absurd (.key members key) h
    | index i => exact ⟨_, fun new => rfl⟩
  | array items =>
    cases step with
    | key key => exact ⟨_, fun new => rfl⟩
    | index i =>
      have hlt : ¬ i < items.length := fun hi => h (.item items i hi)
      have hne : i ≠ items.length := fun hi => h (hi ▸ .append items)
      exact ⟨.mismatch (.outOfBounds i items.length), fun new => by simp [setPath, hlt, hne]⟩
  | _ => cases step <;> exact ⟨_, fun new => rfl⟩

/-- A successful write could take its first step, and went on behind it. -/
theorem setPath_cons_succeeds {new v : Value} {step : Step} {rest : List Step}
    (h : (setPath new (step :: rest) v).error? = none) :
    v.Admits step ∧ (setPath new rest (v.found step rest)).error? = none := by
  by_cases hstep : v.Admits step
  · rw [setPath_of_admits hstep] at h
    exact ⟨hstep, h⟩
  · obtain ⟨e, he⟩ := setPath_of_not_admits hstep rest
    rw [he] at h
    cases h

namespace Admits

variable {v : Value} {step : Step}

theorem atStep_place (h : v.Admits step) (new : Value) : (v.place step new).atStep step = new := by
  cases h with
  | key members key => simp [place, atStep, member, Entries.get?_insert_self]
  | item items i hi => simp [place, atStep, hi]
  | append items => simp [place, atStep]

theorem atStep_place_of_ne (h : v.Admits step) {other : Step} (hne : other ≠ step) (new : Value) :
    (v.place step new).atStep other = v.atStep other := by
  cases h with
  | key members key =>
    cases other with
    | index j => rfl
    | key name =>
      have hname : name ≠ key := fun heq => hne (heq ▸ rfl)
      simp [place, atStep, member, Entries.get?_insert_of_ne hname]
  | item items i hi =>
    cases other with
    | key name => rfl
    | index j =>
      have hj : i ≠ j := fun heq => hne (heq ▸ rfl)
      simp [place, atStep, hi, List.getElem?_set_ne hj]
  | append items =>
    cases other with
    | key name => rfl
    | index j =>
      have hj : j ≠ items.length := fun heq => hne (heq ▸ rfl)
      rcases Nat.lt_or_gt_of_ne hj with hlt | hgt
      · simp [place, atStep, List.getElem?_append_left hlt]
      · have hitems : items[j]? = none := List.getElem?_eq_none (Nat.le_of_lt hgt)
        have hlonger : (items ++ [new])[j]? = none := List.getElem?_eq_none (by rw [List.length_append, List.length_singleton]; omega)
        simp [place, atStep, hitems, hlonger]

theorem place (h : v.Admits step) (new : Value) : (v.place step new).Admits step := by
  cases h with
  | key members key => exact .key _ key
  | item items i hi =>
    simp only [Value.place, if_pos hi]
    exact .item _ i (by simpa using hi)
  | append items =>
    simp only [Value.place, if_neg (Nat.lt_irrefl _)]
    exact .item _ _ (by simp)

theorem found_place (h : v.Admits step) (new : Value) (rest : List Step) : (v.place step new).found step rest = new := by
  cases h with
  | key members key => simp [Value.place, found, Entries.get?_insert_self]
  | item items i hi => simp [Value.place, found, hi]
  | append items => simp [Value.place, found]

theorem place_place (h : v.Admits step) (first second : Value) :
    (v.place step first).place step second = v.place step second := by
  cases h with
  | key members key => simp [Value.place, Entries.insert_insert]
  | item items i hi => simp [Value.place, hi]
  | append items => simp [Value.place]

end Admits

/-! Reading paths. -/

@[simp] theorem getPath_nil (v : Value) : v.getPath [] = v := rfl

@[simp] theorem getPath_cons (v : Value) (step : Step) (rest : List Step) :
    v.getPath (step :: rest) = (v.atStep step).getPath rest := rfl

@[simp] theorem getPath_null (path : List Step) : null.getPath path = null := by
  induction path with
  | nil => rfl
  | cons step rest ih => cases step <;> exact ih

/-- What a write finds behind a step is what a read finds there, unless nothing is there. -/
theorem found_eq_atStep (v : Value) (step : Step) (rest : List Step) :
    v.found step rest = v.atStep step ∨ v.atStep step = null ∧ (v.found step rest = null ∨ v.found step rest = .object []) := by
  cases v <;> cases step <;> try exact .inl rfl
  next members key =>
    cases hget : Entries.get? key members with
    | some child => exact .inl (by simp [found, atStep, member, hget])
    | none =>
      refine .inr ⟨by simp [atStep, member, hget], ?_⟩
      cases rest <;> simp [found, fresh, hget]

/-- Below a step that leads nowhere, a new object reads like nothing. -/
theorem getPath_found (v : Value) (step : Step) (rest : List Step) {path : List Step} (hpath : path ≠ []) :
    (v.found step rest).getPath path = (v.atStep step).getPath path := by
  rcases found_eq_atStep v step rest with heq | ⟨hnull, hbelow | hbelow⟩
  · rw [heq]
  · rw [hbelow, hnull]
  · obtain ⟨s, path, rfl⟩ := List.exists_cons_of_ne_nil hpath
    rw [hbelow, hnull, getPath_null]
    cases s <;> exact getPath_null path

/-! Successful writes. -/

theorem getPath_setPath {new v : Value} {path : List Step} (h : (setPath new path v).error? = none) :
    (setPath new path v).value.getPath path = new := by
  induction path generalizing v with
  | nil => rfl
  | cons step rest ih =>
    obtain ⟨hstep, hrest⟩ := setPath_cons_succeeds h
    rw [setPath_of_admits hstep, getPath_cons, hstep.atStep_place]
    exact ih hrest

/-- A write that fails would fail alike and leave the same with anything else to write. -/
theorem setPath_fails_alike {new v : Value} {path : List Step} (h : (setPath new path v).error? ≠ none) (other : Value) :
    setPath other path v = setPath new path v := by
  induction path generalizing v with
  | nil => exact absurd rfl h
  | cons step rest ih =>
    by_cases hstep : v.Admits step
    · rw [setPath_of_admits hstep] at h
      rw [setPath_of_admits hstep, setPath_of_admits hstep, ih h]
    · obtain ⟨e, he⟩ := setPath_of_not_admits hstep rest
      rw [he, he]

theorem setPath_error? (new other : Value) (path : List Step) (v : Value) :
    (setPath new path v).error? = (setPath other path v).error? := by
  by_cases h : (setPath new path v).error? = none
  · by_cases hother : (setPath other path v).error? = none
    · rw [h, hother]
    · rw [setPath_fails_alike hother new]
  · rw [setPath_fails_alike h other]

theorem setPath_setPath {first v : Value} {path : List Step} (h : (setPath first path v).error? = none) (second : Value) :
    setPath second path (setPath first path v).value = setPath second path v := by
  induction path generalizing v with
  | nil => rfl
  | cons step rest ih =>
    obtain ⟨hstep, hrest⟩ := setPath_cons_succeeds h
    rw [setPath_of_admits hstep first, setPath_of_admits (hstep.place _), setPath_of_admits hstep second,
      hstep.found_place, ih hrest, hstep.place_place]

/-- A path that leaves the written one at some step reads as before. -/
theorem getPath_setPath_of_leaves {new v : Value} {path other : List Step} (h : (setPath new path v).error? = none)
    (habove : ¬ other <+: path) (hbelow : ¬ path <+: other) :
    (setPath new path v).value.getPath other = v.getPath other := by
  induction path generalizing v other with
  | nil => exact absurd List.nil_prefix hbelow
  | cons step rest ih =>
    obtain ⟨hstep, hrest⟩ := setPath_cons_succeeds h
    cases other with
    | nil => exact absurd List.nil_prefix habove
    | cons s others =>
      rw [setPath_of_admits hstep, getPath_cons, getPath_cons]
      by_cases hs : s = step
      · subst hs
        rw [List.prefix_cons_inj] at habove hbelow
        have hothers : others ≠ [] := fun hnil => habove (hnil ▸ List.nil_prefix)
        rw [hstep.atStep_place, ih hrest habove hbelow, getPath_found v s rest hothers]
      · rw [hstep.atStep_place_of_ne hs]

theorem member_setPath_of_ne {new v : Value} {key name : String} {rest : List Step}
    (h : (setPath new (.key key :: rest) v).error? = none) (hname : name ≠ key) :
    (setPath new (.key key :: rest) v).value.member name = v.member name := by
  have hstep : Step.key name ≠ .key key := fun heq => hname (Step.key.inj heq)
  have habove : ¬ [Step.key name] <+: .key key :: rest := fun hpre => hstep (List.cons_prefix_cons.1 hpre).1
  have hbelow : ¬ Step.key key :: rest <+: [.key name] := fun hpre => hstep (List.cons_prefix_cons.1 hpre).1.symm
  exact getPath_setPath_of_leaves h habove hbelow

/-- An object keeps its keys in order and has at most one more, which comes last; an array has at most one item more. -/
def Widens : Value → Value → Prop
  | .object members, v' => ∃ members', v' = .object members' ∧
      (Entries.keys members' = Entries.keys members ∨
        ∃ key, key ∉ Entries.keys members ∧ Entries.keys members' = Entries.keys members ++ [key])
  | .array items, v' => ∃ items', v' = .array items' ∧
      (items'.length = items.length ∨ items'.length = items.length + 1)
  | _, _ => True

theorem Admits.widens {v : Value} {step : Step} (h : v.Admits step) (new : Value) : v.Widens (v.place step new) := by
  cases h with
  | key members key =>
    refine ⟨_, rfl, ?_⟩
    rw [Entries.keys_insert]
    by_cases hkey : key ∈ Entries.keys members
    · exact .inl (if_pos hkey)
    · exact .inr ⟨key, hkey, if_neg hkey⟩
  | item items i hi => exact ⟨_, rfl, .inl (by simp [hi])⟩
  | append items => exact ⟨_, rfl, .inr (by simp)⟩

theorem widens_setPath {new v : Value} {path above : List Step} (h : (setPath new path v).error? = none)
    (habove : above <+: path) (hne : above ≠ path) :
    (v.getPath above).Widens ((setPath new path v).value.getPath above) := by
  induction path generalizing v above with
  | nil => exact absurd (List.prefix_nil.1 habove) hne
  | cons step rest ih =>
    obtain ⟨hstep, hrest⟩ := setPath_cons_succeeds h
    rw [setPath_of_admits hstep]
    cases above with
    | nil => exact hstep.widens _
    | cons s above =>
      obtain ⟨rfl, hinner⟩ := List.cons_prefix_cons.1 habove
      rw [getPath_cons, getPath_cons, hstep.atStep_place]
      have hwidens := ih hrest hinner fun heq => hne (heq ▸ rfl)
      -- where a read finds nothing there is no container that the value had
      rcases found_eq_atStep v s rest with heq | ⟨hnull, -⟩
      · rw [← heq]
        exact hwidens
      · rw [hnull, getPath_null]
        trivial

/-- A successful write is an update of the value at its path. -/
theorem write_is_update (v new other : Value) (path : List Step) (h : (setPath new path v).error? = none) :
    (setPath new path v).value.getPath path = new ∧
    ((setPath other path (setPath new path v).value).error? = none ∧
      (setPath other path (setPath new path v).value).value = (setPath other path v).value ∧
      (setPath other path v).error? = none) ∧
    (∀ q, ¬ q <+: path → ¬ path <+: q → (setPath new path v).value.getPath q = v.getPath q) ∧
    ∀ q, q <+: path → q ≠ path → (v.getPath q).Widens ((setPath new path v).value.getPath q) := by
  have hother : (setPath other path v).error? = none := (setPath_error? other new path v).trans h
  refine ⟨getPath_setPath h, ⟨?_, ?_, hother⟩, ?_, ?_⟩
  · rw [setPath_setPath h, hother]
  · rw [setPath_setPath h]
  · intro q habove hbelow
    exact getPath_setPath_of_leaves h habove hbelow
  · intro q habove hne
    exact widens_setPath h habove hne

def order : Value := .object [("items", .array [.str "pen"]), ("buyer", .object [])]

/-- A second item is added at the end of the array and a street below a new object; nothing else changes. -/
theorem order_updated :
    ((setPath (.str "ink") [.key "items", .index 1] order).error? = none ∧
      (setPath (.str "ink") [.key "items", .index 1] order).value.getPath [.key "items", .index 1] = .str "ink" ∧
      (setPath (.str "ink") [.key "items", .index 1] order).value.getPath [.key "items", .index 0] = .str "pen" ∧
      (order.getPath [.key "items"]).Widens
        ((setPath (.str "ink") [.key "items", .index 1] order).value.getPath [.key "items"])) ∧
    (setPath (.str "Elm") [.key "buyer", .key "address", .key "street"] order).error? = none ∧
      (setPath (.str "Oak") [.key "buyer", .key "address", .key "street"]
        (setPath (.str "Elm") [.key "buyer", .key "address", .key "street"] order).value).value =
          .object [("items", .array [.str "pen"]), ("buyer", .object [("address", .object [("street", .str "Oak")])])] := by
  constructor
  · obtain ⟨hread, -, hframe, hwidens⟩ := write_is_update order (.str "ink") .null [.key "items", .index 1] rfl
    exact ⟨rfl, hread, hframe [.key "items", .index 0] (by decide) (by decide), hwidens [.key "items"] (by decide) (by decide)⟩
  · obtain ⟨-, ⟨-, hvalue, -⟩, -⟩ :=
      write_is_update order (.str "Elm") (.str "Oak") [.key "buyer", .key "address", .key "street"] rfl
    exact ⟨rfl, hvalue.trans rfl⟩

/-! Failed writes. -/

/-- Objects of one key each, one inside the other, and an empty object in the last. -/
def nest : List String → Value
  | [] => .object []
  | key :: keys => .object [(key, nest keys)]

/-- One entry more: one object of the value has a new last key that holds nested empty objects, or one array has a null after its
last item. Everything else is the same, in the same order. -/
inductive Gains : Value → Value → Prop where
  | key (members : Entries Value) (key : String) (hnew : key ∉ members.keys) (inner : List String) :
      Gains (.object members) (.object (members ++ [(key, nest inner)]))
  | item (items : List Value) : Gains (.array items) (.array (items ++ [.null]))
  | inMember (before after : Entries Value) (key : String) {v v' : Value} (h : Gains v v') :
      Gains (.object (before ++ (key, v) :: after)) (.object (before ++ (key, v') :: after))
  | inItem (before after : List Value) {v v' : Value} (h : Gains v v') :
      Gains (.array (before ++ v :: after)) (.array (before ++ v' :: after))

/-- As it was, or with one entry more. -/
def Kept (v v' : Value) : Prop := v' = v ∨ Gains v v'

theorem Kept.member {members : Entries Value} {key : String} {v v' : Value} (h : Kept v v')
    (hget : members.get? key = some v) : Kept (.object members) (.object (members.insert key v')) := by
  obtain ⟨before, after, rfl, hinsert⟩ := Entries.split_of_get? hget
  rw [hinsert]
  rcases h with rfl | h
  · exact .inl rfl
  · exact .inr (.inMember before after key h)

theorem Kept.item {items : List Value} {i : Nat} (hi : i < items.length) {v' : Value} (h : Kept items[i] v') :
    Kept (.array items) (.array (items.set i v')) := by
  rcases h with rfl | h
  · exact .inl (by rw [List.set_getElem_self])
  · have hsplit : items = items.take i ++ items[i] :: items.drop (i + 1) := by simp
    have hset : items.set i v' = items.take i ++ v' :: items.drop (i + 1) := by
      rw [List.set_eq_take_append_cons_drop, if_pos hi]
    have hgains := Gains.inItem (items.take i) (items.drop (i + 1)) h
    rw [← hsplit, ← hset] at hgains
    exact .inr hgains

/-- A write that starts in an empty object leaves nested objects up to the step that it could not take. -/
theorem setPath_empty_fails {new : Value} {path : List Step} (h : (setPath new path (.object [])).error? ≠ none) :
    ∃ keys, (setPath new path (.object [])).value = nest keys := by
  induction path with
  | nil => exact absurd rfl h
  | cons step rest ih =>
    cases step with
    | index i => exact ⟨[], rfl⟩
    | key key =>
      cases rest with
      | nil => exact absurd rfl h
      | cons next rest =>
        obtain ⟨keys, hkeys⟩ := ih h
        exact ⟨key :: keys, congrArg (fun v => Value.object [(key, v)]) hkeys⟩

theorem gains_of_missing_key {new : Value} {members : Entries Value} {key : String} {rest : List Step}
    (hget : members.get? key = none) (h : (setPath new rest (fresh rest)).error? ≠ none) :
    Gains (.object members) (.object (members.insert key (setPath new rest (fresh rest)).value)) := by
  have hnew := Entries.notMem_keys_of_get? hget
  cases rest with
  | nil => exact absurd rfl h
  | cons next rest =>
    obtain ⟨keys, hkeys⟩ := setPath_empty_fails h
    have hvalue : (setPath new (next :: rest) (fresh (next :: rest))).value = nest keys := hkeys
    rw [hvalue, Entries.insert_of_notMem hnew]
    exact .key members key hnew keys

theorem kept_of_setPath_fails {new v : Value} {path : List Step} (h : (setPath new path v).error? ≠ none) :
    Kept v (setPath new path v).value := by
  induction path generalizing v with
  | nil => exact absurd rfl h
  | cons step rest ih =>
    by_cases hstep : v.Admits step
    · rw [setPath_of_admits hstep] at h ⊢
      have hinner := ih h
      cases hstep with
      | key members key =>
        cases hget : members.get? key with
        | some child =>
          simp only [found, hget, Option.getD_some] at hinner ⊢
          exact hinner.member hget
        | none =>
          simp only [found, hget, Option.getD_none] at h ⊢
          exact .inr (gains_of_missing_key hget h)
      | item items i hi =>
        simp only [found, List.getElem?_eq_getElem hi, Option.getD_some] at hinner ⊢
        simpa only [place, if_pos hi] using hinner.item hi
      | append items =>
        cases rest with
        | nil => exact absurd rfl h
        | cons next rest =>
          have hnull : (setPath new (next :: rest) null).value = null := by cases next <;> rfl
          simp only [found, place, List.getElem?_eq_none (Nat.le_refl _), Option.getD_none, hnull, if_neg (Nat.lt_irrefl _)]
          exact .inr (.item items)
    · obtain ⟨e, he⟩ := setPath_of_not_admits hstep rest
      exact .inl (by rw [he])

/-- A failed write leaves the value as it was or with one entry more, whatever was to be written. -/
theorem failed_write_destroys_nothing (v new : Value) (path : List Step) (h : (setPath new path v).error? ≠ none) :
    ((setPath new path v).value = v ∨ Gains v (setPath new path v).value) ∧
    ∀ other, (setPath other path v).value = (setPath new path v).value ∧
      (setPath other path v).error? = (setPath new path v).error? := by
  refine ⟨kept_of_setPath_fails h, fun other => ?_⟩
  rw [setPath_fails_alike h other]
  exact ⟨rfl, rfl⟩

/-- The first line of a missing address leaves two objects behind, a name below the place after the last item leaves a null, and a
name below a text leaves nothing. -/
theorem order_destroys_nothing :
    ((setPath (.str "Elm") [.key "buyer", .key "address", .key "lines", .index 0] order).error? ≠ none ∧
      Gains order
        (.object [("items", .array [.str "pen"]), ("buyer", .object [("address", .object [("lines", .object [])])])])) ∧
    ((setPath (.str "ink") [.key "items", .index 1, .key "name"] order).error? ≠ none ∧
      Gains order (.object [("items", .array [.str "pen", .null]), ("buyer", .object [])])) ∧
    (setPath (.str "ink") [.key "items", .index 0, .key "name"] order).error? ≠ none ∧
      (setPath (.str "ink") [.key "items", .index 0, .key "name"] order).value = order := by
  refine ⟨⟨Option.some_ne_none _, ?_⟩, ⟨Option.some_ne_none _, ?_⟩, Option.some_ne_none _, rfl⟩
  · have hkept := (failed_write_destroys_nothing order (.str "Elm")
      [.key "buyer", .key "address", .key "lines", .index 0] (Option.some_ne_none _)).1
    exact hkept.resolve_left fun h => absurd (congrArg (fun v => (v.getPath [.key "buyer", .key "address"]).kind) h) (by decide)
  · have hkept := (failed_write_destroys_nothing order (.str "ink")
      [.key "items", .index 1, .key "name"] (Option.some_ne_none _)).1
    exact hkept.resolve_left fun h =>
      absurd (congrArg (fun v => (v.getPath [.key "items"]).array?.map List.length) h) (by decide)

end PromptLang.Value
