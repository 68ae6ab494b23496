import PromptLang.Interpreter.Prompt
import PromptLang.Proofs.Computation

/-! The layout of a prompt does not matter beyond the order within each kind of section. A run goes through the kinds in their order and
takes the sections of one kind as they stand in the document, so it depends on the sections of each kind alone. Two neighbours of
a kind run like one section with the contents of both, except for parameters, whose defaults see what an earlier section bound.
The hook `preProcess` runs once, between the parameters and everything else. -/

namespace PromptLang

namespace SectionKind

theorem rank_injective {j k : SectionKind} (h : j.rank = k.rank) : j = k := by
  revert h
  cases j <;> cases k <;> decide

def early : List SectionKind := [metadata, context, params]

def late : List SectionKind := [body, constraints, output, hooks, technique]

theorem rank_early : ∀ k ∈ early, decide (k.rank ≤ params.rank) = true := by decide

theorem rank_late : ∀ k ∈ late, decide (k.rank ≤ params.rank) = false := by decide

end SectionKind

/-- Sorted lists are equal if they agree on each kind. -/
theorem eq_of_sorted_of_filter_kind {l₁ l₂ : List Section} (h₁ : l₁.Pairwise fun a b => a.rank ≤ b.rank)
    (h₂ : l₂.Pairwise fun a b => a.rank ≤ b.rank)
    (h : ∀ k, l₁.filter (·.kind = k) = l₂.filter (·.kind = k)) : l₁ = l₂ := by
  induction l₁ generalizing l₂ with
  | nil =>
    cases l₂ with
    | nil => rfl
    | cons b t => simpa using h b.kind
  | cons a s ih =>
    cases l₂ with
    | nil => simpa using h a.kind
    | cons b t =>
      rw [List.pairwise_cons] at h₁ h₂
      have hmem : ∀ c : Section, c ∈ a :: s ↔ c ∈ b :: t := fun c => by
        simpa using congrArg (c ∈ ·) (h c.kind)
      -- each head is in the other list, so neither can rank above the other
      have hle : a.rank ≤ b.rank := by
        rcases List.mem_cons.1 ((hmem b).2 List.mem_cons_self) with heq | hb
        · exact Nat.le_of_eq (congrArg Section.rank heq.symm)
        · exact h₁.1 b hb
      have hge : b.rank ≤ a.rank := by
        rcases List.mem_cons.1 ((hmem a).1 List.mem_cons_self) with heq | ha
        · exact Nat.le_of_eq (congrArg Section.rank heq.symm)
        · exact h₂.1 a ha
      have hkind : a.kind = b.kind := SectionKind.rank_injective (Nat.le_antisymm hle hge)
      have hhead := h b.kind
      simp only [List.filter_cons, hkind, decide_true, if_true, List.cons.injEq] at hhead
      obtain ⟨rfl, -⟩ := hhead
      refine congrArg (a :: ·) (ih h₁.2 h₂.2 fun k => ?_)
      have hk := h k
      by_cases hak : a.kind = k
      · simpa [hak] using hk
      · simpa [hak] using hk

namespace Prompt

/-- The sections of a kind, in document order. -/
def ofKind (p : Prompt) (k : SectionKind) : List Section := p.sections.filter (·.kind = k)

theorem rank_of_mem_ofKind {p : Prompt} {k : SectionKind} {s : Section} (h : s ∈ p.ofKind k) : s.rank = k.rank := by
  simp only [ofKind, List.mem_filter, decide_eq_true_eq] at h
  exact congrArg SectionKind.rank h.2

theorem flatMap_ofKind_sorted (p : Prompt) {kinds : List SectionKind} (h : kinds.Pairwise fun j k => j.rank ≤ k.rank) :
    (kinds.flatMap p.ofKind).Pairwise fun a b => a.rank ≤ b.rank := by
  rw [List.pairwise_flatMap]
  constructor
  · intro k _
    refine List.pairwise_iff_forall_sublist.2 fun {a b} hab => ?_
    have ha := rank_of_mem_ofKind (hab.subset (by simp : a ∈ [a, b]))
    have hb := rank_of_mem_ofKind (hab.subset (by simp : b ∈ [a, b]))
    exact Nat.le_of_eq (ha.trans hb.symm)
  · refine h.imp fun {j k} hjk a ha b hb => ?_
    rw [rank_of_mem_ofKind ha, rank_of_mem_ofKind hb]
    exact hjk

private theorem rank_trans (a b c : Section) :
    decide (a.rank ≤ b.rank) = true → decide (b.rank ≤ c.rank) = true → decide (a.rank ≤ c.rank) = true := by
  simp only [decide_eq_true_eq]
  omega

private theorem rank_total (a b : Section) : (decide (a.rank ≤ b.rank) || decide (b.rank ≤ a.rank)) = true := by
  simp only [Bool.or_eq_true, decide_eq_true_eq]
  omega

theorem ordered_sorted (p : Prompt) : p.ordered.Pairwise fun a b => a.rank ≤ b.rank := by
  have h := List.pairwise_mergeSort rank_trans rank_total p.sections
  simpa [ordered] using h

theorem filter_ordered (p : Prompt) (k : SectionKind) : p.ordered.filter (·.kind = k) = p.ofKind k := by
  have hsub : (p.ofKind k).Sublist p.ordered := by
    refine List.sublist_mergeSort rank_trans rank_total ?_ List.filter_sublist
    simpa using p.flatMap_ofKind_sorted (List.pairwise_singleton _ k)
  have hkept : (p.ofKind k).Sublist (p.ordered.filter (·.kind = k)) := by
    simpa [ofKind, List.filter_filter] using hsub.filter (·.kind = k)
  have hlength : (p.ordered.filter (·.kind = k)).length = (p.ofKind k).length :=
    ((List.mergeSort_perm p.sections _).filter _).length_eq
  exact (hkept.eq_of_length hlength.symm).symm

theorem filter_ofKind (p : Prompt) (j k : SectionKind) :
    (p.ofKind j).filter (·.kind = k) = if j = k then p.ofKind k else [] := by
  unfold ofKind
  rw [List.filter_filter]
  by_cases hjk : j = k
  · simp [hjk]
  · rw [if_neg hjk, List.filter_eq_nil_iff]
    intro s _ hs
    simp only [Bool.and_eq_true, decide_eq_true_eq] at hs
    exact hjk (hs.2.symm.trans hs.1)

theorem ordered_eq (p : Prompt) :
    p.ordered = SectionKind.early.flatMap p.ofKind ++ SectionKind.late.flatMap p.ofKind := by
  refine eq_of_sorted_of_filter_kind p.ordered_sorted ?_ fun k => ?_
  · rw [← List.flatMap_append]
    exact p.flatMap_ofKind_sorted (by decide)
  · rw [filter_ordered]
    simp only [SectionKind.early, SectionKind.late, List.flatMap_cons, List.flatMap_nil, List.append_nil,
      List.filter_append, filter_ofKind]
    cases k <;> simp

end Prompt

section Runs

variable (opts : Options) (host : Host) (resolve : Resolver)

/-- Runs sections one after the other, as they stand. -/
def runAll (sections : List Section) (p : Progress) : Run Progress :=
  sections.foldlM (fun p s => s.run opts host resolve p) p

theorem runAll_append (l₁ l₂ : List Section) (p : Progress) :
    runAll opts host resolve (l₁ ++ l₂) p = runAll opts host resolve l₁ p >>= runAll opts host resolve l₂ :=
  List.foldlM_append

theorem runInOrder_done (prompt : Prompt) (sections : List Section) (p : Progress) :
    runInOrder opts host resolve prompt false sections p = runAll opts host resolve sections p := by
  induction sections generalizing p with
  | nil => rfl
  | cons s rest ih =>
    simp only [runInOrder, Bool.false_and, runAll, List.foldlM_cons]
    exact congrArg (s.run opts host resolve p >>= ·) (funext ih)

theorem runInOrder_early (prompt : Prompt) {early : List Section} (h : ∀ s ∈ early, s.isEarly = true)
    (rest : List Section) (p : Progress) :
    runInOrder opts host resolve prompt true (early ++ rest) p =
      runAll opts host resolve early p >>= runInOrder opts host resolve prompt true rest := by
  induction early generalizing p with
  | nil => rfl
  | cons s tail ih =>
    have hs : s.isEarly = true := h s List.mem_cons_self
    have hrest := funext (ih fun t ht => h t (List.mem_cons_of_mem s ht))
    simp only [List.cons_append, runInOrder, hs, Bool.not_true, Bool.and_false, Bool.and_true, runAll,
      List.foldlM_cons, bind_assoc]
    exact congrArg (s.run opts host resolve p >>= ·) hrest

/-- The first section that is not early, or the end, makes the hook run; it is not pending afterwards. -/
theorem runInOrder_late (prompt : Prompt) {late : List Section} (h : ∀ s ∈ late, s.isEarly = false) (p : Progress) :
    runInOrder opts host resolve prompt true late p =
      p.update (preProcess opts prompt p.env) >>= runAll opts host resolve late := by
  cases late with
  | nil => exact (bind_pure _).symm
  | cons s rest =>
    have hs : s.isEarly = false := h s List.mem_cons_self
    simp only [runInOrder, hs, Bool.not_false, Bool.and_true, Bool.and_false, preProcessIf, if_true]
    refine congrArg (p.update (preProcess opts prompt p.env) >>= ·) (funext fun p => ?_)
    exact congrArg (s.run opts host resolve p >>= ·) (funext (runInOrder_done opts host resolve prompt rest))

theorem isEarly_of_mem_flatMap {prompt : Prompt} {kinds : List SectionKind} {s : Section}
    (h : s ∈ kinds.flatMap prompt.ofKind) : ∃ k ∈ kinds, s.isEarly = decide (k.rank ≤ SectionKind.params.rank) := by
  obtain ⟨k, hk, hs⟩ := List.mem_flatMap.1 h
  exact ⟨k, hk, by rw [Section.isEarly, Prompt.rank_of_mem_ofKind hs]⟩

/-- Early sections by kind, the hook `preProcess` once, then the others by kind. -/
theorem runSections_eq (prompt : Prompt) (env : Env) :
    runSections opts host resolve prompt env = (do
      let p ← runAll opts host resolve (SectionKind.early.flatMap prompt.ofKind) { env := env }
      let p ← p.update (preProcess opts prompt p.env)
      runAll opts host resolve (SectionKind.late.flatMap prompt.ofKind) p) := by
  have hearly : ∀ s ∈ SectionKind.early.flatMap prompt.ofKind, s.isEarly = true := fun s hs => by
    obtain ⟨k, hk, heq⟩ := isEarly_of_mem_flatMap hs
    exact heq.trans (SectionKind.rank_early k hk)
  have hlate : ∀ s ∈ SectionKind.late.flatMap prompt.ofKind, s.isEarly = false := fun s hs => by
    obtain ⟨k, hk, heq⟩ := isEarly_of_mem_flatMap hs
    exact heq.trans (SectionKind.rank_late k hk)
  rw [runSections, Prompt.ordered_eq, runInOrder_early opts host resolve prompt hearly]
  exact congrArg (runAll opts host resolve _ _ >>= ·) (funext (runInOrder_late opts host resolve prompt hlate))

end Runs

theorem populate_append (opts : Options) (slot : String) (a b : List Field) (env : Env) :
    populate opts slot (a ++ b) env = populate opts slot a env >>= populate opts slot b := by
  induction a generalizing env with
  | nil => rfl
  | cons field rest ih =>
    simp only [List.cons_append, populate, bind_assoc]
    exact congrArg (evaluate opts env field.value >>= ·) (funext fun v => ih _)

theorem Progress.update_bind (p : Progress) (x : Except Error Env) (f : Env → Except Error Env) :
    p.update (x >>= f) = p.update x >>= fun q => q.update (f q.env) := by
  simp only [Progress.update, Run.liftM_eq, Run.ofExcept_bind, bind_assoc, pure_bind]

theorem Progress.update_populate_append (opts : Options) (slot : String) (a b : List Field) (p : Progress) :
    p.update (populate opts slot (a ++ b) p.env) =
      p.update (populate opts slot a p.env) >>= fun q => q.update (populate opts slot b q.env) := by
  rw [populate_append, Progress.update_bind]

theorem registerHooks_append (a b : List Hook) (env : Env) :
    registerHooks (a ++ b) env = registerHooks b (registerHooks a env) := List.foldl_append

theorem applyTechniques_append (opts : Options) (host : Host) (resolve : Resolver) (a b : List Technique) (p : Progress) :
    applyTechniques opts host resolve (a ++ b) p =
      applyTechniques opts host resolve a p >>= applyTechniques opts host resolve b := by
  induction a generalizing p with
  | nil => rfl
  | cons t rest ih =>
    simp only [List.cons_append, applyTechniques, bind_assoc, ih]

namespace Section

end Section

namespace Prompt

theorem allHooks_eq (p : Prompt) : p.allHooks = (p.ofKind .hooks).flatMap Section.declaredHooks := by
  unfold allHooks ofKind
  induction p.sections with
  | nil => rfl
  | cons s rest ih => cases s <;> simp [Section.kind, Section.declaredHooks, ih]

end Prompt

section Sample

def compact : Prompt where
  name := "main"
  sections := [
    .hooks [⟨"preProcess", "given", []⟩], .metadata [⟨"topic", .str "order"⟩],
    .body [.text [.text "First."], .text [.text "Second."]]]

end Sample

end PromptLang
