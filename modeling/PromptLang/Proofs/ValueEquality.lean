import Mathlib.Data.List.Perm.Subperm
import PromptLang.Eval.Operator
import PromptLang.Proofs.CodeEquality
import PromptLang.Strategy.Vote

/-! Equality of values. Two values are equal exactly if they have the same normal form, in which zeros have no sign and members stand in
the order of their keys, and neither holds a NaN. So equality is symmetric and transitive, a value equals itself unless it holds a
NaN, and the order of members does not count. -/

namespace PromptLang.Value

mutual

/-- The value itself and all values in its items and members. Hooks are not opened. -/
def parts : Value → List Value
  | .array items => .array items :: partsOfList items
  | .object members => .object members :: partsOfMembers members
  | .str s => [.str s]
  | .num x => [.num x]
  | .bool b => [.bool b]
  | .null => [.null]
  | .function hook => [.function hook]
termination_by structural v => v

def partsOfList : List Value → List Value
  | [] => []
  | v :: vs => parts v ++ partsOfList vs
termination_by structural vs => vs

def partsOfMembers : List (String × Value) → List Value
  | [] => []
  | (_, v) :: rest => parts v ++ partsOfMembers rest
termination_by structural ms => ms

end

theorem partsOfList_eq (vs : List Value) : partsOfList vs = vs.flatMap parts := by
  induction vs with
  | nil => rfl
  | cons v vs ih => rw [partsOfList, ih, List.flatMap_cons]

theorem partsOfMembers_eq (ms : List (String × Value)) : partsOfMembers ms = ms.flatMap (·.2.parts) := by
  induction ms with
  | nil => rfl
  | cons kv ms ih => rw [partsOfMembers, ih, List.flatMap_cons]

theorem parts_array (items : List Value) : (array items).parts = .array items :: items.flatMap parts := by
  rw [parts, partsOfList_eq]

theorem parts_object (members : List (String × Value)) :
    (object members).parts = .object members :: members.flatMap (·.2.parts) := by
  rw [parts, partsOfMembers_eq]

/-- The numbers that a value holds other than in items and members: its own, or the literals of its hook. -/
def ownNumbers : Value → List Float
  | .num x => [x]
  | .function hook => hook.literals
  | _ => []

/-- All numbers in a value, those in the code of hooks included. -/
def numbers (v : Value) : List Float := v.parts.flatMap ownNumbers

section Numbers

variable (items : List Value) (members : List (String × Value))

theorem numbers_num (x : Float) : (num x).numbers = [x] := rfl

theorem numbers_function (hook : Hook) : (function hook).numbers = hook.literals := List.append_nil _

theorem numbers_array : (array items).numbers = items.flatMap numbers := by
  rw [numbers, parts_array, List.flatMap_cons, List.flatMap_assoc]
  rfl

theorem numbers_object : (object members).numbers = members.flatMap (·.2.numbers) := by
  rw [numbers, parts_object, List.flatMap_cons, List.flatMap_assoc]
  rfl

end Numbers

/-- Members in the order of their keys. -/
def byKey (members : Entries Value) : Entries Value := members.mergeSort fun a b => a.1 ≤ b.1

theorem byKey_perm (members : Entries Value) : (byKey members).Perm members := List.mergeSort_perm _ _

theorem byKey_sorted (members : Entries Value) : (byKey members).Pairwise fun a b => a.1 ≤ b.1 := by
  have htrans : ∀ a b c : String × Value, decide (a.1 ≤ b.1) = true → decide (b.1 ≤ c.1) = true → decide (a.1 ≤ c.1) = true := by
    simpa using fun a b c => @String.le_trans a b c
  have htotal : ∀ a b : String × Value, (decide (a.1 ≤ b.1) || decide (b.1 ≤ a.1)) = true := by
    simpa using String.le_total
  simpa [byKey] using List.pairwise_mergeSort htrans htotal members

theorem byKey_eq_iff {xs ys : Entries Value} (distinct : xs.keys.Nodup) : byKey xs = byKey ys ↔ xs.Perm ys := by
  constructor
  · intro h
    exact (byKey_perm xs).symm.trans (h ▸ byKey_perm ys)
  · intro h
    have hperm : (byKey xs).Perm (byKey ys) := (byKey_perm xs).trans (h.trans (byKey_perm ys).symm)
    refine hperm.eq_of_pairwise (fun a b ha hb hab hba => ?_) (byKey_sorted xs) (byKey_sorted ys)
    have hmem : a ∈ xs ∧ b ∈ xs := ⟨(byKey_perm xs).mem_iff.1 ha, (h.trans (byKey_perm ys).symm).mem_iff.2 hb⟩
    exact List.inj_on_of_nodup_map distinct hmem.1 hmem.2 (String.le_antisymm hab hba)

mutual

/-- The value with the signs of zeros dropped and with members in the order of their keys. The code of hooks keeps its order. -/
def normal : Value → Value
  | .str s => .str s
  | .num x => .num (Number.unsigned x)
  | .bool b => .bool b
  | .null => .null
  | .array items => .array (normalList items)
  | .object members => .object (byKey (normalMembers members))
  | .function hook => .function hook.unsigned
termination_by structural v => v

def normalList : List Value → List Value
  | [] => []
  | v :: vs => normal v :: normalList vs
termination_by structural vs => vs

def normalMembers : List (String × Value) → List (String × Value)
  | [] => []
  | (key, v) :: rest => (key, normal v) :: normalMembers rest
termination_by structural ms => ms

end

def normalMember (kv : String × Value) : String × Value := (kv.1, kv.2.normal)

theorem normal_array (items : List Value) : (array items).normal = .array (items.map normal) := by
  have hmap : ∀ vs, normalList vs = vs.map normal := fun vs => by
    induction vs with
    | nil => rfl
    | cons v vs ih => rw [normalList, ih, List.map_cons]
  rw [normal, hmap]

theorem normal_object (members : List (String × Value)) :
    (object members).normal = .object (byKey (members.map normalMember)) := by
  have hmap : ∀ ms, normalMembers ms = ms.map normalMember := fun ms => by
    induction ms with
    | nil => rfl
    | cons kv ms ih => rw [normalMembers, ih, List.map_cons, normalMember]
  rw [normal, hmap]

theorem keys_map_normalMember (members : List (String × Value)) :
    Entries.keys (members.map normalMember) = Entries.keys members := by
  simp [Entries.keys, normalMember, Function.comp_def]

theorem normal_object_eq_iff {xs ys : List (String × Value)} (distinct : (Entries.keys xs).Nodup) :
    (object xs).normal = (object ys).normal ↔ (xs.map normalMember).Perm (ys.map normalMember) := by
  rw [normal_object, normal_object, object.injEq, byKey_eq_iff (by rwa [keys_map_normalMember])]

theorem noNaN_normal {v : Value} (hv : v.WellFormed) : NoNaN v.normal.numbers ↔ NoNaN v.numbers := by
  induction hv with
  | str | bool | null => rfl
  | num x => rw [normal, numbers_num, numbers_num, noNaN_singleton, noNaN_singleton, Number.isNaN_unsigned]
  | array items h ih =>
    rw [normal_array, numbers_array, numbers_array, noNaN_flatMap, noNaN_flatMap, List.forall_mem_map]
    exact forall₂_congr ih
  | object members distinct h ih =>
    rw [normal_object, numbers_object, numbers_object, noNaN_flatMap, noNaN_flatMap]
    simp only [(byKey_perm _).mem_iff, List.forall_mem_map]
    exact forall₂_congr ih
  | function hook => rw [normal, numbers_function, numbers_function, Hook.noNaN_unsigned]

section Equality

theorem sameList_iff {xs ys : List Value}
    (h : ∀ x ∈ xs, ∀ y ∈ ys, x.same y = true ↔ x.normal = y.normal ∧ NoNaN x.numbers) :
    sameList xs ys = true ↔ xs.map normal = ys.map normal ∧ ∀ x ∈ xs, NoNaN x.numbers := by
  induction xs generalizing ys with
  | nil => cases ys <;> simp [sameList]
  | cons x xs ih =>
    cases ys with
    | nil => simp [sameList]
    | cons y ys =>
      have hx := h x List.mem_cons_self y List.mem_cons_self
      have hxs := ih fun a ha b hb => h a (List.mem_cons_of_mem x ha) b (List.mem_cons_of_mem y hb)
      simp only [sameList, Bool.and_eq_true, List.map_cons, List.cons.injEq, List.forall_mem_cons, hx, hxs]
      tauto

theorem sameMembers_iff_forall {xs : List (String × Value)} {ys : Entries Value} :
    sameMembers xs ys = true ↔ ∀ kv ∈ xs, ∃ y, ys.get? kv.1 = some y ∧ kv.2.same y = true := by
  induction xs with
  | nil => simp [sameMembers]
  | cons kv xs ih =>
    simp only [sameMembers, Bool.and_eq_true, List.forall_mem_cons, ih]
    refine and_congr_left fun _ => ?_
    cases ys.get? kv.1 <;> simp

/-- As many members, each of which has its equal, are the same members in some order: distinct keys leave none over. -/
theorem sameObject_iff {xs ys : List (String × Value)} (hxs : (Entries.keys xs).Nodup) (hys : (Entries.keys ys).Nodup)
    (h : ∀ x ∈ xs, ∀ y ∈ ys, x.2.same y.2 = true ↔ x.2.normal = y.2.normal ∧ NoNaN x.2.numbers) :
    (xs.length = ys.length ∧ sameMembers xs ys = true) ↔
      (xs.map normalMember).Perm (ys.map normalMember) ∧ ∀ kv ∈ xs, NoNaN kv.2.numbers := by
  rw [sameMembers_iff_forall]
  constructor
  · rintro ⟨hlength, hequal⟩
    have hpartner : ∀ x ∈ xs, ∃ y ∈ ys, normalMember y = normalMember x ∧ NoNaN x.2.numbers := by
      intro x hx
      obtain ⟨y, hget, hsame⟩ := hequal x hx
      have hy : (x.1, y) ∈ ys := Entries.mem_of_get? hget
      obtain ⟨hnormal, hnumbers⟩ := (h x hx _ hy).1 hsame
      exact ⟨_, hy, by rw [normalMember, normalMember, hnormal], hnumbers⟩
    have hsubset : xs.map normalMember ⊆ ys.map normalMember := by
      intro member hmember
      obtain ⟨x, hx, rfl⟩ := List.mem_map.1 hmember
      obtain ⟨y, hy, heq, -⟩ := hpartner x hx
      exact List.mem_map.2 ⟨y, hy, heq⟩
    have hnodup : (xs.map normalMember).Nodup := by
      refine List.Nodup.of_map Prod.fst ?_
      rwa [← Entries.keys, keys_map_normalMember]
    refine ⟨(List.subperm_of_subset hnodup hsubset).perm_of_length_le ?_, fun x hx => ?_⟩
    · simp [hlength]
    · obtain ⟨y, hy, -, hnumbers⟩ := hpartner x hx
      exact hnumbers
  · rintro ⟨hperm, hnumbers⟩
    refine ⟨by simpa using hperm.length_eq, fun x hx => ?_⟩
    obtain ⟨y, hy, heq⟩ := List.mem_map.1 (hperm.mem_iff.1 (List.mem_map_of_mem hx))
    obtain ⟨hkey, hnormal⟩ := Prod.mk.inj heq
    refine ⟨y.2, hkey ▸ Entries.get?_of_mem hys hy, (h x hx y hy).2 ⟨hnormal.symm, hnumbers x hx⟩⟩

/-- Values are equal if they have the same normal form and no NaN. -/
theorem same_iff {v w : Value} (hv : v.WellFormed) (hw : w.WellFormed) :
    v.same w = true ↔ v.normal = w.normal ∧ NoNaN v.numbers := by
  induction hv generalizing w with
  | str s => cases w <;> simp [same, normal, numbers, parts, ownNumbers]
  | num x => cases w <;> simp [same, normal, numbers_num, Number.beq_iff_unsigned]
  | bool b => cases w <;> simp [same, normal, numbers, parts, ownNumbers]
  | null => cases w <;> simp [same, normal, numbers, parts, ownNumbers]
  | array items h ih =>
    cases hw with
    | array items' h' =>
      rw [same, normal_array, normal_array, array.injEq, numbers_array, noNaN_flatMap]
      exact sameList_iff fun x hx y hy => ih x hx (h' y hy)
    | _ => simp [same, normal]
  | object members distinct h ih =>
    cases hw with
    | object members' distinct' h' =>
      rw [same, Bool.and_eq_true, beq_iff_eq, normal_object_eq_iff distinct, numbers_object, noNaN_flatMap]
      exact sameObject_iff distinct distinct' fun x hx y hy => ih x hx (h' y hy)
    | _ => simp [same, normal]
  | function hook => cases w <;> simp [same, normal, numbers_function, Hook.same_iff]

variable {u v w : Value}

/-- Equal normal forms are equal to the same values. -/
theorem same_congr {v' : Value} (hv : v.WellFormed) (hv' : v'.WellFormed) (hw : w.WellFormed) (h : v'.normal = v.normal) :
    v'.same w = v.same w ∧ w.same v' = w.same v := by
  have hnumbers : NoNaN v'.numbers ↔ NoNaN v.numbers := by rw [← noNaN_normal hv', h, noNaN_normal hv]
  constructor
  · rw [Bool.eq_iff_iff, same_iff hv' hw, same_iff hv hw, h, hnumbers]
  · rw [Bool.eq_iff_iff, same_iff hw hv', same_iff hw hv, h]

theorem same_symm (hv : v.WellFormed) (hw : w.WellFormed) (h : v.same w = true) : w.same v = true := by
  obtain ⟨hnormal, hnumbers⟩ := (same_iff hv hw).1 h
  rw [← noNaN_normal hv, hnormal, noNaN_normal hw] at hnumbers
  exact (same_iff hw hv).2 ⟨hnormal.symm, hnumbers⟩

theorem same_trans (hu : u.WellFormed) (hv : v.WellFormed) (hw : w.WellFormed) (huv : u.same v = true) (hvw : v.same w = true) :
    u.same w = true := by
  obtain ⟨huv, hnumbers⟩ := (same_iff hu hv).1 huv
  obtain ⟨hvw, -⟩ := (same_iff hv hw).1 hvw
  exact (same_iff hu hw).2 ⟨huv.trans hvw, hnumbers⟩

theorem same_self_iff (hv : v.WellFormed) : v.same v = true ↔ NoNaN v.numbers := by
  rw [same_iff hv hv, eq_self, true_and]

theorem kind_normal (v : Value) : v.normal.kind = v.kind := by
  cases v <;> rfl

theorem isTruthy_normal (v : Value) : v.normal.isTruthy = v.isTruthy := by
  cases v with
  | num x => exact Number.apply_unsigned (fun x => (num x).isTruthy) (by decide) x
  | _ => rfl

end Equality

/-- Members of one object change places, in the value or further down. -/
inductive Reordering : Value → Value → Prop where
  | members {xs ys : List (String × Value)} (h : xs.Perm ys) : Reordering (.object xs) (.object ys)
  | item (before after : List Value) {v v' : Value} (h : Reordering v v') :
      Reordering (.array (before ++ v :: after)) (.array (before ++ v' :: after))
  | member (key : String) (before after : List (String × Value)) {v v' : Value} (h : Reordering v v') :
      Reordering (.object (before ++ (key, v) :: after)) (.object (before ++ (key, v') :: after))

namespace Reordering

variable {v v' : Value}

theorem wellFormed (h : Reordering v v') (hv : v.WellFormed) : v'.WellFormed := by
  induction h with
  | members h =>
    cases hv with
    | object _ distinct hmembers =>
      exact .object _ ((h.map Prod.fst).nodup_iff.1 distinct) fun kv hkv => hmembers kv (h.mem_iff.2 hkv)
  | item before after _ ih =>
    cases hv with
    | array _ hitems =>
      refine .array _ fun w hw => ?_
      rcases List.mem_append.1 hw with hw | hw
      · exact hitems w (List.mem_append_left _ hw)
      · rcases List.mem_cons.1 hw with rfl | hw
        · exact ih (hitems _ (by simp))
        · exact hitems w (by simp [hw])
  | member key before after _ ih =>
    cases hv with
    | object _ distinct hmembers =>
      refine .object _ (by simpa [Entries.keys] using distinct) fun kv hkv => ?_
      rcases List.mem_append.1 hkv with hkv | hkv
      · exact hmembers kv (List.mem_append_left _ hkv)
      · rcases List.mem_cons.1 hkv with rfl | hkv
        · exact ih (hmembers (key, _) (by simp))
        · exact hmembers kv (by simp [hkv])

theorem normal_eq (h : Reordering v v') (hv : v.WellFormed) : v'.normal = v.normal := by
  induction h with
  | members h =>
    cases hv with
    | object _ distinct _ => exact ((normal_object_eq_iff distinct).2 (h.map normalMember)).symm
  | item before after _ ih =>
    cases hv with
    | array _ hitems => simp [normal_array, ih (hitems _ (by simp))]
  | member key before after _ ih =>
    cases hv with
    | object _ _ hmembers =>
      have hv := ih (hmembers (key, _) (by simp))
      simp [normal_object, normalMember, hv]

theorem normal_eq_of_many (h : Relation.ReflTransGen Reordering v v') (hv : v.WellFormed) :
    v'.WellFormed ∧ v'.normal = v.normal := by
  induction h with
  | refl => exact ⟨hv, rfl⟩
  | tail _ hstep ih => exact ⟨hstep.wellFormed ih.1, (hstep.normal_eq ih.1).trans ih.2⟩

end Reordering

section Votes

/-- The votes counted for candidates that equal a value. -/
def votesFor (v : Value) : List (Value × Nat) → Nat
  | [] => 0
  | (seen, n) :: rest => (if seen.same v then n else 0) + votesFor v rest

theorem mem_addVote {v : Value} {counts : List (Value × Nat)} {entry : Value × Nat} (h : entry ∈ addVote v counts) :
    entry.1 = v ∨ ∃ n, (entry.1, n) ∈ counts := by
  induction counts with
  | nil => simp_all [addVote]
  | cons first rest ih =>
    obtain ⟨seen, n⟩ := first
    rw [addVote] at h
    split at h
    · rcases List.mem_cons.1 h with rfl | h
      · exact .inr ⟨n, List.mem_cons_self⟩
      · exact .inr ⟨entry.2, List.mem_cons_of_mem _ h⟩
    · rcases List.mem_cons.1 h with rfl | h
      · exact .inr ⟨n, List.mem_cons_self⟩
      · exact (ih h).imp_right fun found => found.imp fun n hn => List.mem_cons_of_mem _ hn

theorem addVote_apart (v : Value) {counts : List (Value × Nat)} (h : counts.Pairwise fun a b => a.1.same b.1 = false) :
    (addVote v counts).Pairwise fun a b => a.1.same b.1 = false := by
  induction counts with
  | nil => simp [addVote]
  | cons first rest ih =>
    obtain ⟨seen, n⟩ := first
    obtain ⟨hseen, hrest⟩ := List.pairwise_cons.1 h
    rw [addVote]
    split
    · exact List.pairwise_cons.2 ⟨hseen, hrest⟩
    · next hdiffer =>
      refine List.pairwise_cons.2 ⟨fun entry hentry => ?_, ih hrest⟩
      rcases mem_addVote hentry with heq | ⟨m, hm⟩
      · rw [heq]
        exact Bool.eq_false_iff.2 hdiffer
      · exact hseen (entry.1, m) hm

theorem votesFor_addVote {v w : Value} (hv : v.WellFormed) (hw : w.WellFormed) {counts : List (Value × Nat)}
    (h : ∀ entry ∈ counts, entry.1.WellFormed) :
    votesFor v (addVote w counts) = votesFor v counts + if w.same v then 1 else 0 := by
  induction counts with
  | nil => simp [addVote, votesFor]
  | cons first rest ih =>
    obtain ⟨seen, n⟩ := first
    obtain ⟨hseen, hrest⟩ := List.forall_mem_cons.1 h
    rw [addVote]
    split
    · next hequal =>
      have hnormal := ((same_iff hseen hw).1 hequal).1
      have hagree : w.same v = seen.same v := (same_congr hseen hw hv hnormal.symm).1
      rw [votesFor, votesFor, hagree]
      split <;> omega
    · rw [votesFor, votesFor, ih hrest, Nat.add_assoc]

theorem tally_concat (results : List Value) (w : Value) : tally (results ++ [w]) = addVote w (tally results) := by
  simp [tally]

theorem mem_tally {results : List Value} {entry : Value × Nat} (h : entry ∈ tally results) : entry.1 ∈ results := by
  induction results using List.reverseRecOn generalizing entry with
  | nil => cases h
  | append_singleton results w ih =>
    rw [tally_concat] at h
    rcases mem_addVote h with heq | ⟨n, hn⟩
    · simp [heq]
    · exact List.mem_append_left _ (@ih (entry.1, n) hn)

theorem tally_apart (results : List Value) : (tally results).Pairwise fun a b => a.1.same b.1 = false := by
  induction results using List.reverseRecOn with
  | nil => exact List.Pairwise.nil
  | append_singleton results w ih =>
    rw [tally_concat]
    exact addVote_apart w ih

theorem votesFor_tally {v : Value} (hv : v.WellFormed) {results : List Value} (h : ∀ r ∈ results, r.WellFormed) :
    votesFor v (tally results) = results.countP (·.same v) := by
  induction results using List.reverseRecOn with
  | nil => rfl
  | append_singleton results w ih =>
    obtain ⟨hresults, hw⟩ := List.forall_mem_append.1 h
    have hcandidates : ∀ entry ∈ tally results, entry.1.WellFormed := fun entry hentry => hresults _ (mem_tally hentry)
    rw [tally_concat, votesFor_addVote hv (hw w List.mem_cons_self) hcandidates, ih hresults]
    simp [List.countP_append, List.countP_singleton]

end Votes

/-- Equality, as operators and votes use it, is symmetric and transitive, and only a NaN keeps a value from being equal to itself. The
order of members does not count, and equal values are of one kind and count alike as conditions. -/
theorem equality_ignores_order_and_refuses_nan (u v w : Value) (hu : u.WellFormed) (hv : v.WellFormed) (hw : w.WellFormed) :
    BinaryOp.eq.apply v w = .ok (.bool (v.same w)) ∧ BinaryOp.ne.apply v w = .ok (.bool (!v.same w)) ∧
    (∀ results : List Value, (∀ r ∈ results, r.WellFormed) →
      (tally results).Pairwise (fun a b => a.1.same b.1 = false) ∧ votesFor v (tally results) = results.countP (·.same v)) ∧
    (v.same w = true → w.same v = true) ∧
    (u.same v = true → v.same w = true → u.same w = true) ∧
    (v.same v = true ↔ NoNaN v.numbers) ∧
    (∀ v', Relation.ReflTransGen Reordering v v' → v'.same w = v.same w ∧ w.same v' = w.same v) ∧
    (v.kind ≠ w.kind → v.same w = false) ∧
    (v.same w = true → v.isTruthy = w.isTruthy ∧ v.kind.name = w.kind.name) := by
  have hkind (h : v.same w = true) : v.kind = w.kind := by
    rw [← kind_normal v, ((same_iff hv hw).1 h).1, kind_normal]
  refine ⟨rfl, rfl, fun results hresults => ⟨tally_apart results, votesFor_tally hv hresults⟩, same_symm hv hw,
    same_trans hu hv hw, same_self_iff hv, fun v' hreordered => ?_, fun hdiffer => ?_, fun h => ⟨?_, ?_⟩⟩
  · obtain ⟨hv', hnormal⟩ := Reordering.normal_eq_of_many hreordered hv
    exact same_congr hv hv' hw hnormal
  · exact Bool.eq_false_iff.2 fun h => hdiffer (hkind h)
  · rw [← isTruthy_normal v, ((same_iff hv hw).1 h).1, isTruthy_normal]
  · rw [hkind h]

/-- An article with its count, its labels and a hook. -/
def stock (count : Float) : Value :=
  .object [("count", .num count), ("labels", .array [.str "bolts"]), ("check", .function ⟨"check", "n", [.ret (.num 2)]⟩)]

def stockReversed (count : Float) : Value :=
  .object [("check", .function ⟨"check", "n", [.ret (.num 2)]⟩), ("labels", .array [.str "bolts"]), ("count", .num count)]

theorem stock_wellFormed (count : Float) : (stock count).WellFormed := by
  refine .object _ (by simp [Entries.keys]) fun kv hkv => ?_
  simp only [List.mem_cons, List.not_mem_nil, or_false] at hkv
  rcases hkv with rfl | rfl | rfl
  · exact .num count
  · exact .array _ fun v hv => List.mem_singleton.1 hv ▸ .str "bolts"
  · exact .function _

/-- A count that came out as minus zero and members in another order make no difference, in votes either. -/
theorem stock_equals_reversed :
    ((stock 0).WellFormed ∧ (stock (-0.0)).WellFormed ∧ Relation.ReflTransGen Reordering (stock (-0.0)) (stockReversed (-0.0))) ∧
      (stockReversed (-0.0)).same (stock 0) = true ∧ votesFor (stock (-0.0)) (tally [stock 0, stock (-0.0)]) = 2 := by
  have hzero := stock_wellFormed 0
  have hminus := stock_wellFormed (-0.0)
  have hreordering : Reordering (stock (-0.0)) (stockReversed (-0.0)) := .members (List.reverse_perm _).symm
  have hequal : (stock (-0.0)).same (stock 0) = true := by decide
  obtain ⟨-, -, hvotes, -, -, -, horder, -⟩ :=
    equality_ignores_order_and_refuses_nan (stock 0) (stock (-0.0)) (stock 0) hzero hminus hzero
  refine ⟨⟨hzero, hminus, .single hreordering⟩, (horder _ (.single hreordering)).1.trans hequal, ?_⟩
  rw [(hvotes [stock 0, stock (-0.0)] (by simp [hzero, hminus])).2]
  decide

end PromptLang.Value
