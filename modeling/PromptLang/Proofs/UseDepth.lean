import PromptLang.Proofs.Compositional
import PromptLang.Proofs.UsedPrompts

/-! The limit of nested uses refuses no program whose uses end in time. If prompts have ranks that fall with every use, then a prompt of
rank `r` needs at most `r` levels: a prompt without levels has rank zero and so no use at all, and every other use leaves one level
less for a prompt of a lower rank. Which prompts are used is read off the blocks, so nothing is asked of the uses that other prompts
could make. -/

namespace PromptLang

/-- The prompts that a section uses, in a body or in the blocks of a technique. -/
def Section.uses : Section → List String
  | .body block => Stmt.usesIn block
  | .technique list => list.flatMap Technique.uses
  | _ => []

def Prompt.uses (p : Prompt) : List String := p.sections.flatMap Section.uses

section Agreement

variable (opts : Options) (host : Host) {r r' : Resolver}

theorem applyTechniques_agree {ts : List Technique} (h : ∀ t ∈ ts, Resolver.Agree t.uses r r') (p : Progress) :
    applyTechniques opts host r ts p = applyTechniques opts host r' ts p := by
  induction ts generalizing p with
  | nil => rfl
  | cons t rest ih =>
    have hrest := ih fun u hu => h u (List.mem_cons_of_mem t hu)
    simp only [applyTechniques, t.apply_agree opts host p.body p.env (h t List.mem_cons_self), hrest]

theorem Section.run_agree_uses {s : Section} (h : Resolver.Agree s.uses r r') (p : Progress) :
    s.run opts host r p = s.run opts host r' p := by
  cases s with
  | body block => simp only [Section.run, Stmt.runBlock_agree opts block h]
  | technique list =>
    refine applyTechniques_agree opts host (fun t ht => h.mono fun name hname => ?_) p
    exact List.mem_flatMap.2 ⟨t, ht, hname⟩
  | _ => rfl

end Agreement

/-- The computation never ends because uses nest too deep. -/
def Shallow (α : Type) (x : Run α) : Prop := ∀ log name limit, (x log).1 ≠ .error (.depthExceeded (.uses name) limit)

theorem shallow_fail {e : Error} (h : ∀ name limit, e ≠ .depthExceeded (.uses name) limit) (α : Type) :
    Shallow α (Run.fail e) := by
  intro log name limit hfail
  cases hfail
  exact h name limit rfl

theorem shallow_compositional : Compositional Shallow where
  ofExcept h log name limit hx := by
    cases h _ hx
  bind := by
    intro α β x f hx hf log name limit hbind
    have hfirst := hx log name limit
    rw [Run.bind_apply] at hbind
    rcases hrun : x log with ⟨e | a, mid⟩
    · rw [hrun] at hbind hfirst
      cases hbind
      exact hfirst rfl
    · rw [hrun] at hbind
      exact hf a mid name limit hbind

theorem shallow_host (host : Host) (limit : Nat) : host.Has limit Shallow where
  generate constraints prompt log name depth h := by
    obtain ⟨⟨cause, -, he⟩, -⟩ := generate_eq_error.1 (Prod.ext h rfl)
    cases he
  generateAll constraints prompts log name depth h := by
    obtain ⟨cause, he, -⟩ := generateAll_eq_error (.inl (Nat.le_refl _)) (Prod.ext h rfl)
    cases he
  annotate question log name depth h := by
    obtain ⟨⟨cause, -, he⟩, -⟩ := annotate_eq_error.1 (Prod.ext h rfl)
    cases he

theorem runWith_shallow (opts : Options) (host : Host) (resolve : Resolver) {prompt : Prompt}
    (h : ∀ name ∈ prompt.uses, ∃ run, resolve name = .ok run ∧ ∀ params, Shallow _ (run params)) (params : Entries Value) :
    Shallow _ (runWith opts host resolve prompt params) := by
  have hcong := shallow_compositional.congruence
  have hfound : (resolve.only prompt.uses).Has Shallow := by
    refine ⟨fun name run hrun => ?_, fun name e he => ?_⟩
    · unfold Resolver.only at hrun
      split at hrun
      · next hname =>
        obtain ⟨run', hrun', hshallow⟩ := h name hname
        cases hrun'.symm.trans hrun
        exact hshallow
      · cases hrun
    · unfold Resolver.only at he
      split at he
      · next hname =>
        obtain ⟨run', hrun', -⟩ := h name hname
        cases hrun'.symm.trans he
      · cases he
        exact shallow_fail fun _ _ => nofun
  refine shallow_compositional.bind ?_ fun p => finish_related hcong (.refl opts) (shallow_host host _).related prompt.name p
  refine runInOrder_related hcong (.refl opts) host host resolve resolve prompt (fun s hs p => ?_) true _
  have hmem : s ∈ prompt.sections := (List.mergeSort_perm prompt.sections _).mem_iff.1 hs
  have hagree : Resolver.Agree s.uses resolve (resolve.only prompt.uses) :=
    (Resolver.agree_only prompt.uses resolve).mono fun name hname => List.mem_flatMap.2 ⟨s, hmem, hname⟩
  rw [Section.run_agree_uses opts host hagree]
  exact Section.run_related hcong (.refl opts) (shallow_host host _).related hfound.related s p

section Ranks

variable (program : Program) (registry : Registry)

/-- An execution can come to the prompt: it is the first one of the program, or its name finds it. -/
def Runnable (prompt : Prompt) : Prop :=
  program.entry? = some prompt ∨ ∃ name, lookupPrompt program registry name = some prompt

/-- Every use finds a prompt of a lower rank. -/
def UsesDescend (rank : Prompt → Nat) : Prop :=
  ∀ prompt, Runnable program registry prompt → ∀ name ∈ prompt.uses,
    ∃ used, lookupPrompt program registry name = some used ∧ rank used < rank prompt

variable {program registry} {rank : Prompt → Nat}

theorem usesDescend_of_forall
    (hprogram : ∀ prompt ∈ program.prompts, ∀ name ∈ prompt.uses,
      ∃ used, lookupPrompt program registry name = some used ∧ rank used < rank prompt)
    (hregistry : ∀ key prompt, registry.get? key = some prompt → ∀ name ∈ prompt.uses,
      ∃ used, lookupPrompt program registry name = some used ∧ rank used < rank prompt) :
    UsesDescend program registry rank := by
  rintro prompt (hentry | ⟨key, hfound⟩)
  · exact hprogram prompt (List.mem_of_mem_head? hentry)
  · rcases Option.or_eq_some_iff.1 hfound with hprompt | ⟨-, hregistered⟩
    · exact hprogram prompt (List.mem_reverse.1 (List.mem_of_find?_eq_some hprompt))
    · exact hregistry key prompt hregistered

theorem runPrompt_shallow (h : UsesDescend program registry rank) (opts : Options) (host : Host) {levels : Nat}
    {prompt : Prompt} (hrun : Runnable program registry prompt) (hrank : rank prompt ≤ levels) (params : Entries Value) :
    Shallow _ (runPrompt opts host (lookupPrompt program registry) levels prompt params) := by
  induction levels generalizing prompt params with
  | zero =>
    refine runWith_shallow opts host _ (fun name hname => ?_) params
    -- a use would lead below rank zero
    obtain ⟨used, -, hlower⟩ := h prompt hrun name hname
    omega
  | succ levels ih =>
    refine runWith_shallow opts host _ (fun name hname => ?_) params
    obtain ⟨used, hfound, hlower⟩ := h prompt hrun name hname
    simp only [nested, hfound]
    refine ⟨_, rfl, fun params => ?_⟩
    have hused := ih (.inr ⟨name, hfound⟩) (by omega : rank used ≤ levels) params
    exact shallow_compositional.bind hused fun _ => shallow_compositional.congruence.pure _

/-- If every use finds a prompt of a lower rank, and the rank of the first prompt is at most the limit of nested uses, then no execution
ends because of that limit, whatever the parameters, the other options and the host. -/
theorem descending_uses_stay_within_limit (opts : Options) (host : Host) (h : UsesDescend program registry rank)
    (hrank : ∀ entry, program.entry? = some entry → rank entry ≤ opts.maxUseDepth) (params : Entries Value) (log : Log) :
    ∀ name limit, (execute opts host registry program params log).1 ≠ .error (.depthExceeded (.uses name) limit) := by
  intro name limit
  unfold execute
  cases hentry : program.entry? with
  | none => nofun
  | some entry => exact runPrompt_shallow h opts host (.inl hentry) (hrank entry hentry) params log name limit

end Ranks

section Sample

def outlineProgram : Program where
  prompts := [
    ⟨"outline", [
      .body [.forEach "part" (.array [.str "start", .str "end"]) [
        .ifThen (.bool true) [.use "draft" [("part", .ident "part")]]]],
      .technique [.chainOfThought [("recall", [.use "fact" []])]]]⟩,
    ⟨"draft", [.body [.use "fact" [], .text [.text " at the ", .hole (.ident "part")]]]⟩]

/-- The fact is registered, not part of the program. -/
def outlineRegistry : Registry := ({} : Registry).registerPrompt ⟨"fact", [.body [.text [.text "A fact"]]]⟩

def outlineRank (p : Prompt) : Nat := if p.name = "outline" then 2 else if p.name = "draft" then 1 else 0

theorem outline_descends : UsesDescend outlineProgram outlineRegistry outlineRank := by
  refine usesDescend_of_forall (fun prompt hprompt name hname => ?_) fun key prompt hfound name hname => ?_
  · simp only [outlineProgram, List.mem_cons, List.not_mem_nil, or_false] at hprompt
    rcases hprompt with rfl | rfl
    · change name ∈ ["draft", "fact"] at hname
      simp only [List.mem_cons, List.not_mem_nil, or_false] at hname
      rcases hname with rfl | rfl
      · exact ⟨_, rfl, by decide⟩
      · exact ⟨_, rfl, by decide⟩
    · change name ∈ ["fact"] at hname
      cases List.mem_singleton.1 hname
      exact ⟨_, rfl, by decide⟩
  · -- the registered prompt uses nothing
    change (if "fact" = key then some _ else none) = some prompt at hfound
    split at hfound
    · cases hfound
      cases hname
    · cases hfound

/-- The uses of the outline nest two deep: the limit of two is enough, and the limit of one is not. -/
theorem outline_within_limit :
    UsesDescend outlineProgram outlineRegistry outlineRank ∧
    (∀ name limit, (execute { maxUseDepth := 2 } {} outlineRegistry outlineProgram [] {}).1 ≠
      .error (.depthExceeded (.uses name) limit)) ∧
    (execute { maxUseDepth := 1 } {} outlineRegistry outlineProgram [] {}).1 = .error (.depthExceeded (.uses "fact") 1) := by
  refine ⟨outline_descends, ?_, ?_⟩
  · refine descending_uses_stay_within_limit _ _ outline_descends (fun entry hentry => ?_) _ _
    cases hentry
    decide
  · have huse := usesAt_of_sorted { maxUseDepth := 1 } {}
      (show lookupPrompt outlineProgram outlineRegistry "draft" = some _ from rfl) (by decide) 0
    rw [execute_of_sorted _ _ _ (show outlineProgram.entry? = some _ from rfl) (by decide)]
    simp only [runInOrder, Section.run, Stmt.runBlock, Stmt.run]
    rw [huse]
    rfl

end Sample

end PromptLang
