import PromptLang.Output
import PromptLang.Proofs.JsonText
import PromptLang.Value.Equality
import PromptLang.Value.Text

/-! Values that survive being spliced into a prompt as text: an output section with the format `json` turns the text back into an
equal value, whose objects have their keys in the same order. -/

namespace PromptLang.Value

/-- Values without functions whose numbers are whole and of magnitude below `10^15`, whose objects repeat no key, and whose containers
nest at most so deep. -/
inductive Plain : Nat → Value → Prop where
  | str (depth : Nat) (s : String) : Plain depth (.str s)
  | num (depth : Nat) {x : Float} {n : Int} (h : Number.toInt? x = some n) (hbound : n.natAbs < 10 ^ 15) :
      Plain depth (.num x)
  | bool (depth : Nat) (b : Bool) : Plain depth (.bool b)
  | null (depth : Nat) : Plain depth .null
  | array {depth : Nat} {items : List Value} (h : ∀ v ∈ items, Plain depth v) : Plain (depth + 1) (.array items)
  | object {depth : Nat} {members : List (String × Value)} (distinct : (Entries.keys members).Nodup)
      (h : ∀ kv ∈ members, Plain depth kv.2) : Plain (depth + 1) (.object members)

mutual

/-- The containers of a value with their keys, everything else left out. -/
def skeleton : Value → Value
  | .array items => .array (skeletonList items)
  | .object members => .object (skeletonMembers members)
  | _ => .null
termination_by structural v => v

def skeletonList : List Value → List Value
  | [] => []
  | v :: vs => skeleton v :: skeletonList vs
termination_by structural vs => vs

def skeletonMembers : List (String × Value) → List (String × Value)
  | [] => []
  | (key, v) :: rest => (key, skeleton v) :: skeletonMembers rest
termination_by structural ms => ms

end

theorem toJsonList_eq_map (vs : List Value) : toJsonList vs = vs.map toJson := by
  induction vs with
  | nil => rfl
  | cons v vs ih => rw [toJsonList, ih, List.map_cons]

theorem toJsonMembers_eq_map (ms : List (String × Value)) :
    toJsonMembers ms = ms.map fun kv => (kv.1, kv.2.toJson) := by
  induction ms with
  | nil => rfl
  | cons kv ms ih => rw [toJsonMembers, ih, List.map_cons]

theorem ofJsonList_eq_map (js : List Json) : ofJsonList js = js.map ofJson := by
  induction js with
  | nil => rfl
  | cons j js ih => rw [ofJsonList, ih, List.map_cons]

theorem ofJsonMembers_eq_map (ms : List (String × Json)) :
    ofJsonMembers ms = ms.map fun kv => (kv.1, ofJson kv.2) := by
  induction ms with
  | nil => rfl
  | cons kv ms ih => rw [ofJsonMembers, ih, List.map_cons]

theorem jsonNumber_whole {x : Float} {n : Int} (h : Number.toInt? x = some n) (hbound : n.natAbs < 10 ^ 15) :
    ∃ y, jsonNumber x = .number y ∧ Number.toInt? y = some n ∧ (n = 0 → y = 0) ∧ (y == x) = true := by
  have hsmall : n.natAbs < 2 ^ 52 := by omega
  by_cases hzero : n = 0
  · have hx : (x == 0) = true := (Number.beq_zero_iff h hsmall).2 hzero
    exact ⟨0, by rw [jsonNumber, if_pos hx], by rw [hzero]; rfl, fun _ => rfl, Number.beq_symm hx⟩
  · have hx : ¬ (x == 0) = true := fun hx => hzero ((Number.beq_zero_iff h hsmall).1 hx)
    refine ⟨x, ?_, h, fun hn => absurd hn hzero, Number.beq_self h⟩
    rw [jsonNumber, if_neg hx, Json.ofFloat, if_pos (Number.isFinite_of_toInt? h)]

theorem Plain.readable {depth : Nat} {v : Value} (h : Plain depth v) : Json.Readable depth v.toJson := by
  induction h with
  | str depth s => exact .string depth s
  | num depth h hbound =>
    obtain ⟨y, hy, hint, hzero, _⟩ := jsonNumber_whole h hbound
    rw [toJson, hy]
    exact .number depth hint hzero hbound
  | bool depth b => exact .bool depth b
  | null depth => exact .null depth
  | array h ih =>
    rw [toJson, toJsonList_eq_map]
    refine .array fun j hj => ?_
    obtain ⟨v, hv, rfl⟩ := List.mem_map.1 hj
    exact ih v hv
  | object distinct h ih =>
    rw [toJson, toJsonMembers_eq_map]
    refine .object (by simpa [Entries.keys, Function.comp_def] using distinct) fun kv hkv => ?_
    obtain ⟨member, hmember, rfl⟩ := List.mem_map.1 hkv
    exact ih member hmember

/-- The value that comes back from JSON. -/
def rebuilt (v : Value) : Value := ofJson v.toJson

theorem rebuilt_array (items : List Value) : rebuilt (.array items) = .array (items.map rebuilt) := by
  rw [rebuilt, toJson, ofJson, toJsonList_eq_map, ofJsonList_eq_map, List.map_map]
  rfl

theorem rebuilt_object (members : List (String × Value)) :
    rebuilt (.object members) = .object (members.map fun kv => (kv.1, kv.2.rebuilt)) := by
  rw [rebuilt, toJson, ofJson, toJsonMembers_eq_map, ofJsonMembers_eq_map, List.map_map]
  rfl

mutual

theorem skeleton_rebuilt : ∀ v : Value, v.rebuilt.skeleton = v.skeleton
  | .str _ => rfl
  | .num x => by
    rw [rebuilt, toJson, jsonNumber]
    split
    · rfl
    · rw [Json.ofFloat]
      split <;> rfl
  | .bool _ => rfl
  | .null => rfl
  | .array items => by rw [rebuilt_array, skeleton, skeleton, skeletonList_rebuilt items]
  | .object members => by rw [rebuilt_object, skeleton, skeleton, skeletonMembers_rebuilt members]
  | .function _ => rfl
termination_by structural v => v

theorem skeletonList_rebuilt : ∀ vs : List Value, skeletonList (vs.map rebuilt) = skeletonList vs
  | [] => rfl
  | v :: vs => by rw [List.map_cons, skeletonList, skeletonList, skeleton_rebuilt v, skeletonList_rebuilt vs]
termination_by structural vs => vs

theorem skeletonMembers_rebuilt : ∀ ms : List (String × Value),
    skeletonMembers (ms.map fun kv => (kv.1, kv.2.rebuilt)) = skeletonMembers ms
  | [] => rfl
  | (key, v) :: ms => by
    rw [List.map_cons, skeletonMembers, skeletonMembers, skeleton_rebuilt v, skeletonMembers_rebuilt ms]
termination_by structural ms => ms

end

theorem sameList_rebuilt {vs : List Value} (h : ∀ v ∈ vs, v.rebuilt.same v = true) :
    sameList (vs.map rebuilt) vs = true := by
  induction vs with
  | nil => rfl
  | cons v vs ih =>
    rw [List.map_cons, sameList, h v List.mem_cons_self, ih fun w hw => h w (List.mem_cons_of_mem v hw)]
    rfl

theorem sameMembers_rebuilt {ms : List (String × Value)} {all : Entries Value}
    (hall : ∀ kv ∈ ms, all.get? kv.1 = some kv.2) (h : ∀ kv ∈ ms, kv.2.rebuilt.same kv.2 = true) :
    sameMembers (ms.map fun kv => (kv.1, kv.2.rebuilt)) all = true := by
  induction ms with
  | nil => rfl
  | cons kv ms ih =>
    rw [List.map_cons, sameMembers, hall kv List.mem_cons_self]
    simp only [h kv List.mem_cons_self, Bool.true_and]
    exact ih (fun other hother => hall other (List.mem_cons_of_mem kv hother))
      fun other hother => h other (List.mem_cons_of_mem kv hother)

theorem Plain.same_rebuilt {depth : Nat} {v : Value} (h : Plain depth v) : v.rebuilt.same v = true := by
  induction h with
  | str depth s => exact beq_self_eq_true s
  | num depth h hbound =>
    obtain ⟨y, hy, _, _, hbeq⟩ := jsonNumber_whole h hbound
    rw [rebuilt, toJson, hy]
    exact hbeq
  | bool depth b => exact beq_self_eq_true b
  | null depth => rfl
  | array h ih =>
    rw [rebuilt_array, same]
    exact sameList_rebuilt ih
  | object distinct h ih =>
    rw [rebuilt_object, same, List.length_map, beq_self_eq_true, Bool.true_and]
    exact sameMembers_rebuilt (fun kv hkv => Entries.get?_of_mem distinct hkv) ih

theorem text_container {v : Value} (h : v.kind = .array ∨ v.kind = .object) : v.text = v.toJson.compact := by
  cases v <;> simp [kind] at h <;> rfl

/-- A plain container comes back from its text when the output is asked for as JSON, with its keys in their order. -/
theorem container_text_comes_back {v : Value} (hkind : v.kind = .array ∨ v.kind = .object) (hplain : Plain 127 v) :
    ∃ v', formatOutput (.str v.text) (some (.object [("format", .str "json")])) = .ok v' ∧
      v'.same v = true ∧ v'.skeleton = v.skeleton := by
  refine ⟨v.rebuilt, ?_, hplain.same_rebuilt, skeleton_rebuilt v⟩
  have hwants : wantsJson (some (.object [("format", .str "json")])) = true := by decide
  have hread : Json.read? outputDepth v.text = some v.toJson := by
    rw [text_container hkind]
    exact Json.read?_compact hplain.readable
  rw [formatOutput, if_pos hwants]
  simp only [hread]
  rfl

/-- Members out of order, a signed zero, a negative number, and texts with every kind of escape. -/
def shipment : Value :=
  .object [("weights", .array [.num (-0.0), .num (-250), .array []]), ("label", .str "\"\\\n\x01é"), ("a", .null)]

theorem shipment_plain : Plain 127 shipment := by
  have hzero : Number.toInt? (-0.0) = some 0 := by decide
  have hweight : Number.toInt? (-250) = some (-250) := by decide
  refine .object (by decide) fun kv hkv => ?_
  simp only [List.mem_cons, List.not_mem_nil, or_false] at hkv
  rcases hkv with rfl | rfl | rfl
  · refine .array fun w hw => ?_
    simp only [List.mem_cons, List.not_mem_nil, or_false] at hw
    rcases hw with rfl | rfl | rfl
    · exact .num _ hzero (by decide)
    · exact .num _ hweight (by decide)
    · exact .array fun _ h => absurd h List.not_mem_nil
  · exact .str _ _
  · exact .null _

theorem shipment_comes_back : Plain 127 shipment ∧ shipment.kind = .object ∧
    ∃ v', formatOutput (.str shipment.text) (some (.object [("format", .str "json")])) = .ok v' ∧
      v'.same shipment = true ∧ v'.skeleton = shipment.skeleton :=
  ⟨shipment_plain, rfl, container_text_comes_back (.inr rfl) shipment_plain⟩

end PromptLang.Value
