import PromptLang.Proofs.OutputText
import PromptLang.Proofs.ValueEquality

/-! Values through JSON. What comes back is written as the same JSON again, so the conversion normalizes once. It comes back equal, and
with all keys in their order, exactly if the value holds no function and no number that JSON lacks. -/

namespace PromptLang

namespace Number

open Float.Model Float.Model.UnpackedFloat

theorem ofInt_eq {n : Int} (hpos : 0 < n.natAbs) (hbound : n.natAbs < 2 ^ 53) :
    ofInt n = .ofModel (.pack (.finite (signOf n) (fullMantissa n.natAbs) (n.natAbs.log2 - 52) (fullMantissa_pos hpos))) := by
  have hround : UnpackedFloat.normalize .binary64 n 0 .positive = UnpackedFloat.round .binary64 (signOf n) n.natAbs 0 := by
    rw [UnpackedFloat.normalize, signOf]
    by_cases hsign : n < 0
    · have hcompare : compare n 0 = .lt := Int.compare_eq_lt.2 hsign
      have habs : (-n).toNat = n.natAbs := by omega
      rw [hcompare, if_pos hsign]
      exact congrArg (UnpackedFloat.round .binary64 .negative · 0) habs
    · have hcompare : compare n 0 = .gt := Int.compare_eq_gt.2 (by omega)
      have habs : n.toNat = n.natAbs := by omega
      rw [hcompare, if_neg hsign]
      exact congrArg (UnpackedFloat.round .binary64 .positive · 0) habs
  show Float.ofModel (.pack (UnpackedFloat.normalize .binary64 n 0 .positive)) = _
  rw [hround, round_whole hpos hbound]

/-- A whole number below `10^15` comes back from its integer, save that a zero has no sign. -/
theorem ofInt_of_smallInt? {x : Float} {n : Int} (h : smallInt? x = some n) : ofInt n = unsigned x := by
  obtain ⟨hint, hbound⟩ := Option.filter_eq_some_iff.1 h
  have hsmall : n.natAbs < 2 ^ 52 := Nat.lt_trans (of_decide_eq_true hbound) (by decide)
  rcases unpack_of_toInt? hint hsmall with ⟨rfl, -⟩ | ⟨hpos, hunpack⟩
  · rw [unsigned, if_pos ((beq_zero_iff hint hsmall).2 rfl)]
    rfl
  · have hx : ¬ (x == 0) = true := fun hx => by
      have hzero := (beq_zero_iff hint hsmall).1 hx
      omega
    rw [unsigned, if_neg hx, ofInt_eq hpos (by omega), ← hunpack, pack_unpack]

theorem isFinite_of_smallInt? {x : Float} {n : Int} (h : smallInt? x = some n) : x.isFinite = true :=
  isFinite_of_toInt? (Option.filter_eq_some_iff.1 h).1

theorem smallInt?_of_zero {x : Float} (h : (x == 0) = true) : smallInt? x = some 0 := by
  rcases beq_zero_iff_eq.1 h with rfl | rfl <;> decide

theorem isFinite_unsigned (x : Float) : (unsigned x).isFinite = x.isFinite := apply_unsigned Float.isFinite (by decide) x

theorem unsigned_unsigned (x : Float) : unsigned (unsigned x) = unsigned x := apply_unsigned unsigned (by decide) x

theorem isNaN_of_isFinite {x : Float} (h : x.isFinite = true) : x.isNaN = false := by
  rw [Float.isNaN_eq_decide_eq_nan, decide_eq_false_iff_not]
  rintro rfl
  cases h

end Number

namespace Value

theorem jsonNumber_eq (x : Float) : jsonNumber x = Json.ofFloat (Number.unsigned x) := by
  by_cases hx : (x == 0) = true
  · rw [jsonNumber, Number.unsigned, if_pos hx, if_pos hx]
    rfl
  · rw [jsonNumber, Number.unsigned, if_neg hx, if_neg hx]

/-- Numbers take two routes: a whole number below `10^15` goes as its integer, and any other as it is, or as null if JSON lacks it. -/
theorem toJson_num (x : Float) :
    (num x).toJson = (Number.smallInt? x).elim (Json.ofFloat x) fun n => .number (Number.ofInt n) := by
  rw [toJson, jsonNumber_eq]
  cases hint : Number.smallInt? x with
  | some n =>
    rw [Json.ofFloat, Number.isFinite_unsigned, if_pos (Number.isFinite_of_smallInt? hint), Option.elim_some, Number.ofInt_of_smallInt? hint]
  | none =>
    have hx : ¬ (x == 0) = true := fun hx => by
      rw [Number.smallInt?_of_zero hx] at hint
      cases hint
    rw [Number.unsigned, if_neg hx, Option.elim_none]

theorem rebuilt_num (x : Float) : (num x).rebuilt = if x.isFinite then .num (Number.unsigned x) else .null := by
  rw [rebuilt, toJson, jsonNumber_eq, Json.ofFloat, Number.isFinite_unsigned]
  split <;> rfl

mutual

/-- What comes back from JSON is written as the same JSON. -/
theorem toJson_rebuilt : ∀ v : Value, v.rebuilt.toJson = v.toJson
  | .str _ => rfl
  | .num x => by
    rw [rebuilt_num, toJson, jsonNumber_eq, Json.ofFloat, Number.isFinite_unsigned]
    split
    · next hfinite => rw [toJson, jsonNumber_eq, Number.unsigned_unsigned, Json.ofFloat, Number.isFinite_unsigned, if_pos hfinite]
    · rfl
  | .bool _ => rfl
  | .null => rfl
  | .array items => by rw [rebuilt_array, toJson, toJson, toJsonList_rebuilt items]
  | .object members => by rw [rebuilt_object, toJson, toJson, toJsonMembers_rebuilt members]
  | .function _ => rfl
termination_by structural v => v

theorem toJsonList_rebuilt : ∀ vs : List Value, toJsonList (vs.map rebuilt) = toJsonList vs
  | [] => rfl
  | v :: vs => by rw [List.map_cons, toJsonList, toJsonList, toJson_rebuilt v, toJsonList_rebuilt vs]
termination_by structural vs => vs

theorem toJsonMembers_rebuilt : ∀ ms : List (String × Value),
    toJsonMembers (ms.map fun kv => (kv.1, kv.2.rebuilt)) = toJsonMembers ms
  | [] => rfl
  | (key, v) :: ms => by rw [List.map_cons, toJsonMembers, toJsonMembers, toJson_rebuilt v, toJsonMembers_rebuilt ms]
termination_by structural ms => ms

end

/-- Values that hold no function, and no number that JSON lacks. -/
structure Lossless (v : Value) : Prop where
  noFunction (hook : Hook) : .function hook ∉ v.parts
  finite (x : Float) : .num x ∈ v.parts → x.isFinite = true

theorem lossless_of_parts {v : Value} (inner : List Value) (hparts : v.parts = v :: inner.flatMap parts)
    (hfunction : ∀ hook, v ≠ .function hook) (hnumber : ∀ x, v ≠ .num x) : v.Lossless ↔ ∀ w ∈ inner, w.Lossless := by
  constructor
  · intro h w hw
    have hmem : ∀ u ∈ w.parts, u ∈ v.parts := fun u hu => by
      rw [hparts]
      exact List.mem_cons_of_mem v (List.mem_flatMap.2 ⟨w, hw, hu⟩)
    exact ⟨fun hook hu => h.noFunction hook (hmem _ hu), fun x hu => h.finite x (hmem _ hu)⟩
  · intro h
    have hmem : ∀ u ∈ v.parts, u ≠ v → ∃ w ∈ inner, u ∈ w.parts := fun u hu hne => by
      rw [hparts] at hu
      exact List.mem_flatMap.1 ((List.mem_cons.1 hu).resolve_left hne)
    refine ⟨fun hook hu => ?_, fun x hu => ?_⟩
    · obtain ⟨w, hw, hu⟩ := hmem _ hu (hfunction hook).symm
      exact (h w hw).noFunction hook hu
    · obtain ⟨w, hw, hu⟩ := hmem _ hu (hnumber x).symm
      exact (h w hw).finite x hu

theorem lossless_array {items : List Value} : (array items).Lossless ↔ ∀ v ∈ items, v.Lossless :=
  lossless_of_parts items (parts_array items) (by simp) (by simp)

theorem lossless_object {members : List (String × Value)} : (object members).Lossless ↔ ∀ kv ∈ members, kv.2.Lossless := by
  rw [lossless_of_parts (members.map Prod.snd) (by rw [parts_object, List.flatMap_map]) (by simp) (by simp),
    List.forall_mem_map]

theorem lossless_of_leaf {v : Value} (hparts : v.parts = [v]) (hfunction : ∀ hook, v ≠ .function hook) (hnumber : ∀ x, v ≠ .num x) :
    v.Lossless :=
  (lossless_of_parts [] hparts hfunction hnumber).2 (List.forall_mem_nil _)

theorem lossless_num {x : Float} : (num x).Lossless ↔ x.isFinite = true := by
  constructor
  · intro h
    exact h.finite x List.mem_cons_self
  · intro h
    refine ⟨fun hook hu => (nomatch List.mem_singleton.1 hu), fun y hu => ?_⟩
    obtain rfl := num.inj (List.mem_singleton.1 hu)
    exact h

theorem sameList_rebuilt_iff {vs : List Value} :
    sameList (vs.map rebuilt) vs = true ↔ ∀ v ∈ vs, v.rebuilt.same v = true := by
  induction vs with
  | nil => simp [sameList]
  | cons v vs ih => simp [sameList, ih]

theorem sameMembers_rebuilt_iff {ms : List (String × Value)} (distinct : (Entries.keys ms).Nodup) :
    sameMembers (ms.map fun kv => (kv.1, kv.2.rebuilt)) ms = true ↔ ∀ kv ∈ ms, kv.2.rebuilt.same kv.2 = true := by
  rw [sameMembers_iff_forall, List.forall_mem_map]
  refine forall₂_congr fun kv hkv => ?_
  simp [Entries.get?_of_mem distinct hkv]

theorem same_rebuilt_num (x : Float) : (num x).rebuilt.same (.num x) = true ↔ x.isFinite = true := by
  rw [rebuilt_num]
  split
  · next hfinite =>
    refine iff_of_true ?_ hfinite
    rw [same, Number.beq_iff_unsigned, Number.unsigned_unsigned, Number.isNaN_unsigned]
    exact ⟨rfl, Number.isNaN_of_isFinite hfinite⟩
  · next hfinite => exact iff_of_false Bool.noConfusion hfinite

/-- Exactly the lossless values come back equal. -/
theorem same_rebuilt_iff {v : Value} (hv : v.WellFormed) : v.rebuilt.same v = true ↔ v.Lossless := by
  induction hv with
  | str s => exact iff_of_true (beq_self_eq_true s) (lossless_of_leaf rfl (by simp) (by simp))
  | num x => rw [same_rebuilt_num, lossless_num]
  | bool b => exact iff_of_true (beq_self_eq_true b) (lossless_of_leaf rfl (by simp) (by simp))
  | null => exact iff_of_true rfl (lossless_of_leaf rfl (by simp) (by simp))
  | array items h ih =>
    rw [rebuilt_array, same, sameList_rebuilt_iff, lossless_array]
    exact forall₂_congr ih
  | object members distinct h ih =>
    rw [rebuilt_object, same, List.length_map, beq_self_eq_true, Bool.true_and, sameMembers_rebuilt_iff distinct, lossless_object]
    exact forall₂_congr ih
  | function hook => exact iff_of_false Bool.noConfusion fun h => h.noFunction hook List.mem_cons_self

/-- Numbers go to JSON by their two routes, what comes back is written as the same JSON, and it equals the value exactly if nothing in it
was a function or a number that JSON lacks. The keys of objects then come back in their order. -/
theorem json_normalizes_once (v : Value) :
    (∀ x, (num x).toJson = (Number.smallInt? x).elim (Json.ofFloat x) fun n => .number (Number.ofInt n)) ∧
    (ofJson v.toJson).toJson = v.toJson ∧
    (v.WellFormed → ((ofJson v.toJson).same v = true ↔ v.Lossless)) ∧
    (v.Lossless → (ofJson v.toJson).skeleton = v.skeleton) :=
  ⟨toJson_num, toJson_rebuilt v, same_rebuilt_iff, fun _ => skeleton_rebuilt v⟩

def reading (last : Value) : Value :=
  .object [("values", .array [.num (-0.0), .num 1e15, .num 2.5]), ("sensor", .str "north"), ("last", last)]

theorem reading_wellFormed {last : Value} (h : last.WellFormed) : (reading last).WellFormed := by
  refine .object _ (by simp [Entries.keys]) fun kv hkv => ?_
  simp only [List.mem_cons, List.not_mem_nil, or_false] at hkv
  rcases hkv with rfl | rfl | rfl
  · refine .array _ fun v hv => ?_
    simp only [List.mem_cons, List.not_mem_nil, or_false] at hv
    rcases hv with rfl | rfl | rfl <;> exact .num _
  · exact .str _
  · exact h

theorem reading_lossless_iff {last : Value} : (reading last).Lossless ↔ last.Lossless := by
  have hzero : (-0.0 : Float).isFinite = true := by decide
  have hlarge : (1e15 : Float).isFinite = true := by decide
  have hhalf : (2.5 : Float).isFinite = true := by decide
  have hsensor : (str "north").Lossless := lossless_of_leaf rfl (by simp) (by simp)
  simp [reading, lossless_object, lossless_array, lossless_num, hzero, hlarge, hhalf, hsensor]

/-- Finite numbers come back equal and an infinity does not, while both are written as the same JSON again. -/
theorem reading_comes_back :
    ((reading (.num 1e20)).WellFormed ∧ (reading (.num 1e20)).Lossless ∧
      (ofJson (reading (.num 1e20)).toJson).same (reading (.num 1e20)) = true ∧
      (ofJson (reading (.num 1e20)).toJson).skeleton = (reading (.num 1e20)).skeleton) ∧
    (ofJson (reading (.num Number.infinity)).toJson).toJson = (reading (.num Number.infinity)).toJson ∧
      (ofJson (reading (.num Number.infinity)).toJson).same (reading (.num Number.infinity)) = false := by
  obtain ⟨-, -, hback, horder⟩ := json_normalizes_once (reading (.num 1e20))
  obtain ⟨-, hagain, hlost, -⟩ := json_normalizes_once (reading (.num Number.infinity))
  have hlossless : (reading (.num 1e20)).Lossless := reading_lossless_iff.2 (lossless_num.2 (by decide))
  have hloses : ¬ (reading (.num Number.infinity)).Lossless := fun h =>
    absurd (lossless_num.1 (reading_lossless_iff.1 h)) (by decide)
  have hwell := reading_wellFormed (.num 1e20)
  refine ⟨⟨hwell, hlossless, (hback hwell).2 hlossless, horder hlossless⟩, hagain, ?_⟩
  exact Bool.eq_false_iff.2 (mt (hlost (reading_wellFormed (.num _))).1 hloses)

end Value

end PromptLang
