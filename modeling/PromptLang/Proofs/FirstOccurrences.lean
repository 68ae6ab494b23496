import Mathlib.Data.Finset.Card
import Mathlib.Data.List.Induction
import Mathlib.Data.List.Pairwise
import PromptLang.Entries

/-! The distinct elements of a list, in the order of their first occurrences. A list that shows what is met from place to place keeps
this order when its repetitions are dropped: one element stands before another where it is met before all meetings with the other. -/

namespace PromptLang

section Distinct

variable {α β : Type} [DecidableEq α]

theorem nodup_eraseDups (xs : List α) : xs.eraseDups.Nodup := by
  cases xs with
  | nil => simp
  | cons x rest =>
    rw [List.eraseDups_cons, List.nodup_cons]
    exact ⟨by simp, nodup_eraseDups _⟩
termination_by xs.length
decreasing_by
  rw [List.length_cons]
  exact Nat.lt_succ_of_le (List.length_filter_le _ _)

theorem length_eraseDups (xs : List α) : xs.eraseDups.length = xs.toFinset.card := by
  rw [← List.toFinset_card_of_nodup (nodup_eraseDups xs)]
  congr 1
  ext x
  simp

/-- A further element is kept where it is new. -/
theorem eraseDups_concat (xs : List α) (x : α) : (xs ++ [x]).eraseDups = if x ∈ xs then xs.eraseDups else xs.eraseDups ++ [x] := by
  rw [List.eraseDups_append]
  split
  · next h => simp [List.removeAll, h]
  · next h => simp [List.removeAll, h, List.eraseDups_cons]

theorem eraseDups_of_nodup {xs : List α} (h : xs.Nodup) : xs.eraseDups = xs := by
  induction xs using List.reverseRecOn with
  | nil => rfl
  | append_singleton xs x ih =>
    have hparts : (x :: xs).Nodup := List.nodup_append_comm.1 h
    obtain ⟨hnew, hxs⟩ := List.nodup_cons.1 hparts
    rw [eraseDups_concat, if_neg hnew, ih hxs]

/-- The distinct elements stand in the order of their first occurrences. -/
theorem pairwise_eraseDups (xs : List α) : xs.eraseDups.Pairwise fun x y => xs.idxOf x < xs.idxOf y := by
  induction xs using List.reverseRecOn with
  | nil => simp
  | append_singleton xs x ih =>
    have hold : xs.eraseDups.Pairwise fun y z => (xs ++ [x]).idxOf y < (xs ++ [x]).idxOf z := by
      refine ih.imp_of_mem fun hy hz hlt => ?_
      rwa [List.idxOf_append_of_mem (List.mem_eraseDups.1 hy), List.idxOf_append_of_mem (List.mem_eraseDups.1 hz)]
    rw [eraseDups_concat]
    split
    · exact hold
    · next hnew =>
      refine List.pairwise_append.2 ⟨hold, List.pairwise_singleton _ _, fun y hy z hz => ?_⟩
      have hmem := List.mem_eraseDups.1 hy
      have hlt := List.idxOf_lt_length_iff.2 hmem
      rw [List.mem_singleton.1 hz, List.idxOf_append_of_mem hmem, List.idxOf_append_of_notMem hnew]
      omega

/-- Of two distinct elements the first one occurs where the second has not occurred yet. -/
theorem pairwise_eraseDups_split (xs : List α) :
    xs.eraseDups.Pairwise fun x y => ∃ front tail, xs = front ++ x :: tail ∧ y ∉ front ++ [x] := by
  refine (pairwise_eraseDups xs).imp_of_mem fun {x y} hx hy hlt => ?_
  have hlength := List.idxOf_lt_length_iff.2 (List.mem_eraseDups.1 hx)
  have hnext : xs.take (xs.idxOf x + 1) = xs.take (xs.idxOf x) ++ [x] := by
    rw [List.take_succ_eq_append_getElem hlength, List.getElem_idxOf]
  refine ⟨xs.take (xs.idxOf x), xs.drop (xs.idxOf x + 1), ?_, ?_⟩
  · rw [List.append_cons, ← hnext, List.take_append_drop]
  · rw [← hnext, List.mem_take_iff_idxOf_lt (List.mem_eraseDups.1 hy)]
    omega

theorem eraseDups_append_congr {xs xs' : List α} (h : xs.eraseDups = xs'.eraseDups) (ys : List α) :
    (xs ++ ys).eraseDups = (xs' ++ ys).eraseDups := by
  have hmem : ∀ y, y ∈ xs ↔ y ∈ xs' := by
    intro y
    rw [← List.mem_eraseDups, h, List.mem_eraseDups]
  induction ys using List.reverseRecOn with
  | nil => simpa using h
  | append_singleton ys y ih =>
    rw [← List.append_assoc, ← List.append_assoc, eraseDups_concat, eraseDups_concat, ih]
    simp only [List.mem_append, hmem]

theorem eraseDups_append_eraseDups (xs ys : List α) : (xs ++ ys.eraseDups).eraseDups = (xs ++ ys).eraseDups := by
  induction ys using List.reverseRecOn with
  | nil => rfl
  | append_singleton ys y ih =>
    rw [eraseDups_concat, ← List.append_assoc, eraseDups_concat]
    split
    · next h => rw [if_pos (List.mem_append_right xs h), ih]
    · rw [← List.append_assoc, eraseDups_concat, ih]
      simp only [List.mem_append, List.mem_eraseDups]

/-- Repetitions that are dropped part by part need not be dropped before. -/
theorem eraseDups_flatMap_eraseDups (f : β → List α) (xs : List β) :
    (xs.flatMap fun x => (f x).eraseDups).eraseDups = (xs.flatMap f).eraseDups := by
  induction xs using List.reverseRecOn with
  | nil => rfl
  | append_singleton xs x ih =>
    simp only [List.flatMap_append, List.flatMap_singleton]
    rw [eraseDups_append_eraseDups, eraseDups_append_congr ih]

theorem Entries.keys_insert_of_eraseDups {es : Entries β} {seen : List String} (h : es.keys = seen.eraseDups) (key : String) (value : β) :
    (es.insert key value).keys = (seen ++ [key]).eraseDups := by
  rw [Entries.keys_insert, h, eraseDups_concat]
  simp only [List.mem_eraseDups]

end Distinct

/-- The list shows what is met, from place to place: `at_ p a` says that `a` is met at `p`. -/
def Listed {P α : Type} (before : P → P → Prop) (at_ : P → α → Prop) (xs : List α) : Prop :=
  ∃ met : List (P × α), met.map Prod.snd = xs ∧ (met.Pairwise fun m n => before m.1 n.1) ∧ ∀ p a, (p, a) ∈ met ↔ at_ p a

namespace Listed

variable {P α β : Type} {before : P → P → Prop} {at_ : P → α → Prop} {xs : List α}

theorem mem_iff (h : Listed before at_ xs) {a : α} : a ∈ xs ↔ ∃ p, at_ p a := by
  obtain ⟨met, rfl, -, hmet⟩ := h
  simp [← hmet]

theorem congr {at' : P → α → Prop} (h : Listed before at_ xs) (hat : ∀ p a, at_ p a ↔ at' p a) : Listed before at' xs := by
  obtain ⟨met, hlist, horder, hmet⟩ := h
  exact ⟨met, hlist, horder, fun p a => (hmet p a).trans (hat p a)⟩

theorem filter (keep : α → Bool) (h : Listed before at_ xs) : Listed before (fun p a => at_ p a ∧ keep a = true) (xs.filter keep) := by
  obtain ⟨met, rfl, horder, hmet⟩ := h
  refine ⟨met.filter fun m => keep m.2, ?_, horder.filter _, ?_⟩
  · rw [List.filter_map]
    rfl
  · intro p a
    rw [List.mem_filter, hmet]

theorem map (f : α → β) (h : Listed before at_ xs) : Listed before (fun p b => ∃ a, at_ p a ∧ f a = b) (xs.map f) := by
  obtain ⟨met, rfl, horder, hmet⟩ := h
  refine ⟨met.map fun m => (m.1, f m.2), ?_, List.pairwise_map.2 horder, ?_⟩
  · simp [Function.comp_def]
  · intro p b
    simp only [List.mem_map, Prod.exists, Prod.mk.injEq, hmet]
    constructor
    · rintro ⟨p', a, ha, rfl, hb⟩
      exact ⟨a, ha, hb⟩
    · rintro ⟨a, ha, hb⟩
      exact ⟨p, a, ha, rfl, hb⟩

theorem move {Q : Type} {after : Q → Q → Prop} {f : P → Q} (hf : ∀ p p', before p p' → after (f p) (f p')) (h : Listed before at_ xs) :
    Listed after (fun q a => ∃ p, at_ p a ∧ f p = q) xs := by
  obtain ⟨met, rfl, horder, hmet⟩ := h
  refine ⟨met.map fun m => (f m.1, m.2), by simp [Function.comp_def], List.pairwise_map.2 (horder.imp fun h => hf _ _ h), ?_⟩
  intro q a
  simp only [List.mem_map, Prod.exists, Prod.mk.injEq, hmet]
  constructor
  · rintro ⟨p, b, hb, rfl, rfl⟩
    exact ⟨p, hb, rfl⟩
  · rintro ⟨p, ha, rfl⟩
    exact ⟨p, a, ha, rfl, rfl⟩

theorem nil (before : P → P → Prop) (hat : ∀ p a, ¬ at_ p a) : Listed before at_ [] :=
  ⟨[], rfl, .nil, fun p a => iff_of_false List.not_mem_nil (hat p a)⟩

theorem append {at' : P → α → Prop} {ys : List α} (hxs : Listed before at_ xs) (hys : Listed before at' ys)
    (hlater : ∀ p q a b, at_ p a → at' q b → before p q) : Listed before (fun p a => at_ p a ∨ at' p a) (xs ++ ys) := by
  obtain ⟨met, rfl, horder, hmet⟩ := hxs
  obtain ⟨met', rfl, horder', hmet'⟩ := hys
  refine ⟨met ++ met', List.map_append, List.pairwise_append.2 ⟨horder, horder', ?_⟩, ?_⟩
  · intro m hm n hn
    exact hlater _ _ _ _ ((hmet _ _).1 hm) ((hmet' _ _).1 hn)
  · intro p a
    rw [List.mem_append, hmet, hmet']

/-- What is met in one item after the other is met at the number of the item and the place in it. -/
theorem flatMap {items : List β} {list : β → List α} {sees : β → P → α → Prop} (h : ∀ x, Listed before (sees x) (list x)) :
    Listed (Prod.Lex (fun i j : Nat => i < j) before) (fun s a => ∃ x, items[s.1]? = some x ∧ sees x s.2 a) (items.flatMap list) := by
  induction items with
  | nil => exact .nil _ (by simp)
  | cons x rest ih =>
    have hstep : ∀ s t : Nat × P, Prod.Lex (· < ·) before s t → Prod.Lex (· < ·) before (s.1 + 1, s.2) (t.1 + 1, t.2) := by
      intro s t hst
      rw [Prod.lex_def] at hst ⊢
      simpa using hst
    have hfirst : ∀ p q : P, before p q → Prod.Lex (fun i j : Nat => i < j) before (0, p) (0, q) := fun _ _ hpq => .right 0 hpq
    refine (((h x).move hfirst).append (ih.move hstep) ?_).congr ?_
    · rintro _ _ a b ⟨p, -, rfl⟩ ⟨s, -, rfl⟩
      exact .left _ _ (Nat.succ_pos _)
    · rintro ⟨i, p⟩ a
      cases i with
      | zero => simp
      | succ i => simp

theorem pairwise_eraseDups [DecidableEq α] (h : Listed before at_ xs) :
    xs.eraseDups.Pairwise fun a b => ∃ p, at_ p a ∧ ∀ q, at_ q b → before p q := by
  obtain ⟨met, rfl, horder, hmet⟩ := h
  refine (pairwise_eraseDups_split _).imp fun {a b} hsplit => ?_
  obtain ⟨front, tail, hmap, hb⟩ := hsplit
  obtain ⟨earlier, rest, rfl, rfl, hrest⟩ := List.map_eq_append_iff.1 hmap
  obtain ⟨⟨p, a'⟩, later, rfl, rfl, rfl⟩ := List.map_eq_cons_iff.1 hrest
  refine ⟨p, (hmet p a').1 (by simp), fun q hq => ?_⟩
  have hlater : (q, b) ∈ later := by
    have hmem := (hmet q b).2 hq
    have hnew : (q, b) ∉ earlier ++ [(p, a')] := fun hold => hb (by simpa using List.mem_map_of_mem (f := Prod.snd) hold)
    rw [List.append_cons] at hmem
    exact (List.mem_append.1 hmem).resolve_left hnew
  exact (List.pairwise_cons.1 (List.pairwise_append.1 horder).2.1).1 _ hlater

end Listed

end PromptLang
