import PromptLang.Proofs.Assignment
import PromptLang.Proofs.MissingParameters
import PromptLang.Proofs.PromptStages

/-! Which hook a name stands for. The hook `preProcess` is looked up in the document, while `postProcess` and the hooks that programs call
are looked up in a slot, which a body may write as it likes before the hooks are put into it, section after section. Both ways
lead to the last declaration of the name. No local binding hides the slot: an assignment to the name of a slot writes the slot,
and what a loop binds is dropped. -/

namespace PromptLang

namespace Env

theorem slotMember?_setSlotField (env : Env) (slot name : String) (value : Value) (other : String) :
    (env.setSlotField slot name value).slotMember? slot other =
      if other = name then some value else env.slotMember? slot other := by
  have hobject : (env.setSlotField slot name value).slotObject? slot =
      some (((env.slotObject? slot).getD []).insert name value) := by
    rw [slotObject?, setSlotField, slot?_setSlot_self]
    rfl
  rw [slotMember?, hobject, Option.bind_some]
  split
  · next heq => rw [heq, Entries.get?_insert_self]
  · next hne =>
    rw [Entries.get?_insert_of_ne hne, slotMember?]
    cases env.slotObject? slot <;> rfl

theorem slotMember?_congr {env env' : Env} {slot : String} (h : env'.slot? slot = env.slot? slot) (name : String) :
    env'.slotMember? slot name = env.slotMember? slot name := by
  rw [slotMember?, slotMember?, slotObject?, slotObject?, h]

/-- A slot that no local binding hides. -/
structure Unhidden (name : String) (env : Env) : Prop where
  unbound : env.local? name = none
  slot : env.slot? name ≠ none

theorem Unhidden.of_sameNames {name : String} {env env' : Env} (h : env.Unhidden name) (hnames : env.SameNames env') :
    env'.Unhidden name := by
  constructor
  · rw [local?_eq_none_iff]
    intro frame hframe
    have hkeys : frame.keys ∈ env.frameNames := hnames.frames ▸ List.mem_map_of_mem hframe
    obtain ⟨before, hbefore, heq⟩ := List.mem_map.1 hkeys
    exact heq ▸ local?_eq_none_iff.1 h.unbound before hbefore
  · rw [slot?_ne_none_iff, hnames.slots]
    exact slot?_ne_none_iff.1 h.slot

theorem Unhidden.stable (name : String) : Stable (Unhidden name) := by
  intro env other value hother h
  refine ⟨h.unbound, ?_⟩
  by_cases heq : name = other
  · subst heq
    rw [slot?_setSlot_self]
    exact Option.some_ne_none _
  · rw [slot?_setSlot_of_ne heq]
    exact h.slot

theorem Unhidden.assign {name : String} {env : Env} (h : env.Unhidden name) (other : String) (value : Value) :
    (env.assign other value).Unhidden name := by
  have hslot := slot?_ne_none_iff.2 ((assign_scoped env other value).slots ▸ slot?_ne_none_iff.1 h.slot)
  rcases assign_cases env other value with ⟨hbinds, -, hlocal⟩ | ⟨-, -, hassign⟩
  · refine ⟨?_, hslot⟩
    -- the name is not the one that was bound, as it is no local name but a slot
    have hne : name ≠ other := by
      rintro rfl
      exact hbinds.elim (absurd h.unbound) h.slot
    rw [hlocal, if_neg hne]
    exact h.unbound
  · exact ⟨by rw [hassign]; exact h.unbound, hslot⟩

theorem Unhidden.assignPath {name : String} {env : Env} (h : env.Unhidden name) (root : String) (path : List Step)
    (value : Value) : Ensures (env.assignPath root path value) (Unhidden name) := by
  unfold Env.assignPath
  split
  · exact .ok (h.assign root value)
  · dsimp only
    split
    · exact .ok (h.assign root _)
    · exact .error _ _

end Env

section Blocks

variable (opts : Options) (resolve : Resolver) {name : String}

mutual

theorem Stmt.run_unhidden : ∀ (s : Stmt) (env : Env), env.Unhidden name →
    (s.run opts resolve env).Ensures fun out => out.2.Unhidden name
  | .text _, _, h => .bind_any fun _ => .pure h
  | .code .., _, h => .bind_any fun _ => .pure h
  | .image .., _, h => .bind_any fun _ => .bind_any fun _ => .pure h
  | .ifThen condition yes, env, h => by
    simp only [Stmt.run]
    refine .bind_any fun c => ?_
    split
    · exact Stmt.runBlock_unhidden yes env h
    · exact .pure h
  | .ifElse condition yes no, env, h => by
    simp only [Stmt.run]
    refine .bind_any fun c => ?_
    split
    · exact Stmt.runBlock_unhidden yes env h
    · exact Stmt.runBlock_unhidden no env h
  | .forEach binding iterable body, env, h => fun log out log' hrun =>
    -- the variable may well have the name: what counts is that its frame is gone
    h.of_sameNames (forEach_sameNames opts resolve (Stmt.runBlock_scoped opts resolve body) binding iterable env log out log' hrun)
  | .use .., _, h => .bind_any fun _ => .bind_any fun _ => .bind_any fun _ => .pure h
  | .assign target value, env, h => by
    simp only [Stmt.run]
    refine .bind_any fun v => ?_
    have hwrite : Ensures (assignTarget opts (callHookAt opts 1) env target v) (Env.Unhidden name) :=
      .bind_any fun place => h.assignPath place.1 place.2 v
    exact (Run.Ensures.ofExcept hwrite).bind fun _ h => .pure h
  | .expr _, _, h => .bind_any fun _ => .pure h
  | .ret _, _, _ => .fail _ _

theorem Stmt.runBlock_unhidden : ∀ (ss : List Stmt) (env : Env), env.Unhidden name →
    (Stmt.runBlock opts resolve ss env).Ensures fun out => out.2.Unhidden name
  | [], _, h => .pure h
  | s :: rest, env, h => by
    simp only [Stmt.runBlock]
    refine (Stmt.run_unhidden s env h).bind fun ⟨_, mid⟩ hmid => ?_
    exact (Stmt.runBlock_unhidden rest mid hmid).bind fun _ hrest => .pure hrest

end

theorem runAll_unhidden (host : Host) {sections : List Section} (hs : ∀ s ∈ sections, s.kind ≠ .technique) {p : Progress}
    (h : p.env.Unhidden name) : (runAll opts host resolve sections p).Ensures fun p' => p'.env.Unhidden name := by
  induction sections generalizing p with
  | nil => exact .pure h
  | cons s rest ih =>
    have hfirst := Section.run_stable opts (Env.Unhidden.stable name) host resolve (Stmt.runBlock_unhidden opts resolve)
      (hs s List.mem_cons_self) h
    exact hfirst.bind fun _ hp => ih (fun t ht => hs t (List.mem_cons_of_mem s ht)) hp.1

end Blocks

/-- Whatever the slot held before, a declared name then has its last hook; other names have what they had. -/
theorem slotMember?_registerHooks (hooks : List Hook) (env : Env) (name : String) :
    (registerHooks hooks env).slotMember? Slot.hooks name =
      ((hooks.reverse.find? (·.name = name)).map Value.function).or (env.slotMember? Slot.hooks name) := by
  induction hooks generalizing env with
  | nil => rfl
  | cons hook rest ih =>
    have hfirst : registerHooks (hook :: rest) env =
        registerHooks rest (env.setSlotField Slot.hooks hook.name (.function hook)) := rfl
    rw [hfirst, ih, Env.slotMember?_setSlotField, List.reverse_cons, List.find?_append]
    by_cases hname : hook.name = name
    · cases rest.reverse.find? (·.name = name) <;> simp [hname]
    · simp [hname, Ne.symm hname]

def LastNamed (name : String) (hook : Hook) (hooks : List Hook) : Prop :=
  ∃ before after, hooks = before ++ hook :: after ∧ hook.name = name ∧ ∀ later ∈ after, later.name ≠ name

namespace Prompt

variable {prompt : Prompt} {name : String}

theorem lastNamed_of_hook? {hook : Hook} (h : prompt.hook? name = some hook) : LastNamed name hook prompt.allHooks := by
  obtain ⟨hname, after, before, hsplit, hafter⟩ := List.find?_eq_some_iff_append.1 h
  refine ⟨before.reverse, after.reverse, ?_, of_decide_eq_true hname, fun later hlater => ?_⟩
  · rw [← List.reverse_reverse prompt.allHooks, hsplit]
    simp
  · simpa using hafter later (List.mem_reverse.1 hlater)

theorem exists_hook? {list : List Hook} (hsection : .hooks list ∈ prompt.sections) {declared : Hook} (h : declared ∈ list) :
    ∃ hook, prompt.hook? declared.name = some hook := by
  have hmem : declared ∈ prompt.allHooks.reverse := List.mem_reverse.2 (List.mem_flatMap.2 ⟨_, hsection, h⟩)
  exact Option.isSome_iff_exists.1 (List.find?_isSome.2 ⟨declared, hmem, by simp⟩)

end Prompt

/-- The kinds between the hook `preProcess` and the hooks. -/
def SectionKind.beforeHooks : List SectionKind := [body, constraints, output]

/-- A run of sections by its stages: the parameters are bound, the hook `preProcess` may replace them, then come the body, the constraints
and the output, and then the techniques, which start from an environment with all hooks. -/
structure Stages (opts : Options) (host : Host) (resolve : Resolver) (prompt : Prompt) (params : Entries Value) (log : Log)
    (p : Progress) (log' : Log) where
  bound : Env
  processed : Env
  before : Progress
  logBefore : Log
  applied : List Applied
  binds : (prompt.background opts params >>= bindSections opts prompt.declarations) = .ok bound
  processes : preProcess opts prompt bound = .ok processed
  runs : runAll opts host resolve (SectionKind.beforeHooks.flatMap prompt.ofKind) { env := processed } log = (.ok before, logBefore)
  passes : Pass opts host resolve before.body (registerHooks prompt.allHooks before.env) logBefore applied p.env log'
  techniques : applied.map Applied.technique = prompt.allTechniques

section Sections

variable {opts : Options} {host : Host} {resolve : Resolver}

theorem runAll_hooks {sections : List Section} (h : ∀ s ∈ sections, s.kind = .hooks) (p : Progress) :
    runAll opts host resolve sections p =
      pure { p with env := registerHooks (sections.flatMap Section.declaredHooks) p.env } := by
  induction sections generalizing p with
  | nil => rfl
  | cons s rest ih =>
    have hs := h s List.mem_cons_self
    cases s with
    | hooks list =>
      have hrest := ih (fun t ht => h t (List.mem_cons_of_mem _ ht)) { p with env := registerHooks list p.env }
      rw [← registerHooks_append] at hrest
      exact hrest
    | _ => cases hs

theorem Pass.reaches {body : String} {env env' : Env} {log log' : Log} {applied : List Applied}
    (h : Pass opts host resolve body env log applied env' log') :
    ∀ a ∈ applied, ∃ earlier log₁, Pass opts host resolve body env log earlier a.env log₁ := by
  induction h with
  | nil => exact List.forall_mem_nil _
  | cons head _ ih =>
    intro a ha
    rcases List.mem_cons.1 ha with rfl | ha
    · exact ⟨[], _, .nil _ _⟩
    · obtain ⟨earlier, log₁, hpass⟩ := ih a ha
      exact ⟨_ :: earlier, log₁, .cons head hpass⟩

theorem preProcess_eq_ok {prompt : Prompt} {hook : Hook} (hhook : prompt.hook? "preProcess" = some hook) {env env' : Env}
    (h : preProcess opts prompt env = .ok env') :
    ∃ answer, callHookAt opts 1 hook [.object env.params] = .ok answer ∧
      (answer = .null ∧ env' = env ∨ ∃ params, answer = .object params ∧ env' = env.setSlot Slot.params (.object params)) := by
  simp only [preProcess, hhook] at h
  obtain ⟨answer, hcall, h⟩ := bind_eq_ok.1 h
  refine ⟨answer, hcall, ?_⟩
  cases answer with
  | null => cases h; exact .inl ⟨rfl, rfl⟩
  | object params => cases h; exact .inr ⟨params, rfl, rfl⟩
  | _ => cases h

theorem finish_postProcess {hook : Hook} {name : String} {p : Progress}
    (hhook : p.env.slotMember? Slot.hooks "postProcess" = some (.function hook)) {log log' : Log} {outcome : Outcome}
    (h : finish opts host name p log = (.ok outcome, log')) :
    ∃ answer, callHookAt opts 1 hook [.str outcome.response] = .ok answer ∧
      formatOutput answer (p.env.slot? Slot.output) = .ok outcome.output := by
  obtain ⟨_, _, -, h⟩ := Run.bind_eq_ok.1 h
  obtain ⟨response, _, -, h⟩ := Run.bind_eq_ok.1 h
  obtain ⟨answer, hpost, h⟩ := Run.liftM_bind_eq_ok.1 h
  obtain ⟨output, hformat, h⟩ := Run.liftM_bind_eq_ok.1 h
  cases h
  rw [postProcess, hhook] at hpost
  exact ⟨answer, hpost, hformat⟩

/-- A member of a slot is found under the name of the slot, unless the name has a value in a scope that comes first. -/
theorem evaluate_slotMember {env : Env} {slot name : String} {value : Value} (h : env.slotMember? slot name = some value)
    {before after : List Scope} (horder : opts.resolutionOrder = before ++ .slots :: after)
    (hbefore : ∀ scope ∈ before, env.lookIn slot scope = none) :
    evaluate opts env (.member (.ident slot) name) = .ok value := by
  obtain ⟨members, hslot, hget⟩ := Env.slotMember?_eq_some_iff.1 h
  have hresolve : env.resolve? slot opts.resolutionOrder = some (.object members) := by
    rw [Env.resolve?, horder, List.findSome?_append, List.findSome?_eq_none_iff.2 hbefore, Option.none_or, List.findSome?_cons,
      Env.lookIn, hslot]
  have hmember : (Value.object members).member name = value := by rw [Value.member, hget, Option.getD_some]
  simp only [evaluate, Expr.eval, resolveIdent, hresolve]
  exact congrArg Except.ok hmember

variable {prompt : Prompt} {params : Entries Value} {log log' : Log} {p : Progress}

theorem exists_stages (h : runSections opts host resolve prompt (Env.withParams params) log = (.ok p, log')) :
    Nonempty (Stages opts host resolve prompt params log p log') := by
  have hlate : SectionKind.late.flatMap prompt.ofKind =
      SectionKind.beforeHooks.flatMap prompt.ofKind ++ (prompt.ofKind .hooks ++ prompt.ofKind .technique) := by
    simp [SectionKind.late, SectionKind.beforeHooks]
  rw [runSections_eq, runAll_early, hlate] at h
  obtain ⟨_, _, hbound, h⟩ := Run.bind_eq_ok.1 h
  obtain ⟨bound, hbinds, hrest⟩ := Run.liftM_bind_eq_ok.1 hbound
  cases hrest
  obtain ⟨_, _, hpre, h⟩ := Run.bind_eq_ok.1 h
  obtain ⟨processed, hprocesses, hrest⟩ := Run.liftM_bind_eq_ok.1 hpre
  cases hrest
  rw [runAll_append] at h
  obtain ⟨before, logBefore, hruns, h⟩ := Run.bind_eq_ok.1 h
  rw [runAll_append, runAll_hooks fun _ => Prompt.kind_of_mem_ofKind, pure_bind,
    runAll_techniques opts host resolve fun _ => Prompt.kind_of_mem_ofKind, ← Prompt.allHooks_eq, ← Prompt.allTechniques_eq] at h
  obtain ⟨applied, hpasses, htechniques, -, -⟩ := applyTechniques_pass h
  exact ⟨bound, processed, before, logBefore, applied, hbinds, hprocesses, hruns, hpasses, htechniques⟩

theorem bindSections_stable (opts : Options) {Q : Env → Prop} (hQ : Env.Stable Q) (sections : List (List ParamDecl)) {env : Env}
    (h : Q env) : Ensures (bindSections opts sections env) Q := by
  induction sections generalizing env with
  | nil => exact .ok h
  | cons decls rest ih => exact (bindParams_stable opts hQ decls h).bind fun _ henv => ih henv

namespace Stages

theorem unhidden (stages : Stages opts host resolve prompt params log p log') :
    (registerHooks prompt.allHooks stages.before.env).Unhidden Slot.hooks := by
  have hstable := Env.Unhidden.stable Slot.hooks
  have hstart : (Env.withParams params).Unhidden Slot.hooks := hstable Env.empty _ _ (by decide) ⟨rfl, by decide⟩
  have hbackground : Ensures (prompt.background opts params) (Env.Unhidden Slot.hooks) :=
    (populate_stable opts hstable (by decide) _ hstart).bind fun _ h => populate_stable opts hstable (by decide) _ h
  have hbound := (hbackground.bind fun _ h => bindSections_stable opts hstable _ h) _ stages.binds
  have hprocessed := preProcess_stable opts hstable prompt hbound _ stages.processes
  have hkinds : ∀ s ∈ SectionKind.beforeHooks.flatMap prompt.ofKind, s.kind ≠ .technique := by
    intro s hs
    obtain ⟨k, hk, hs⟩ := List.mem_flatMap.1 hs
    have hlate : ∀ k ∈ SectionKind.beforeHooks, k ≠ .technique := by decide
    rw [Prompt.kind_of_mem_ofKind hs]
    exact hlate k hk
  have hbefore := runAll_unhidden opts resolve host hkinds hprocessed _ _ _ stages.runs
  exact registerHooks_stable hstable _ hbefore

/-- The slot for hooks has the hook of the document after the sections and wherever a technique is applied. -/
theorem slotMember?_hooks (stages : Stages opts host resolve prompt params log p log') {name : String} {hook : Hook}
    (hhook : prompt.hook? name = some hook) :
    p.env.slotMember? Slot.hooks name = some (.function hook) ∧
      ∀ a ∈ stages.applied, a.env.slotMember? Slot.hooks name = some (.function hook) ∧ a.env.local? Slot.hooks = none := by
  have hregistered : (registerHooks prompt.allHooks stages.before.env).slotMember? Slot.hooks name = some (.function hook) := by
    have hfound : prompt.allHooks.reverse.find? (·.name = name) = some hook := hhook
    rw [slotMember?_registerHooks, hfound]
    rfl
  constructor
  · rw [Env.slotMember?_congr (stages.passes.slot_untouched (by decide)), hregistered]
  · intro a ha
    obtain ⟨earlier, log₁, hpass⟩ := stages.passes.reaches a ha
    refine ⟨?_, ?_⟩
    · rw [Env.slotMember?_congr (hpass.slot_untouched (by decide)), hregistered]
    · rw [Env.local?, hpass.frames]
      exact stages.unhidden.unbound

end Stages

/-- The hook is what the name stands for wherever a run looks it up. -/
structure InForce (stages : Stages opts host resolve prompt params log p log') (name : String) (hook : Hook) : Prop where
  found : prompt.hook? name = some hook
  last : LastNamed name hook prompt.allHooks
  registered : p.env.slotMember? Slot.hooks name = some (.function hook)
  /-- The parameters that the body sees are its answer to the bound ones. -/
  preProcess : name = "preProcess" → ∃ answer, callHookAt opts 1 hook [.object stages.bound.params] = .ok answer ∧
    (answer = .null ∧ stages.processed = stages.bound ∨
      ∃ params, answer = .object params ∧ stages.processed = stages.bound.setSlot Slot.params (.object params))
  /-- Techniques find it as a member of `hooks`, unless something else is called `hooks` in a scope that they search earlier. -/
  seen : ∀ a ∈ stages.applied, a.env.slotMember? Slot.hooks name = some (.function hook) ∧
    ∀ before after, opts.resolutionOrder = before ++ .slots :: after →
      (∀ scope ∈ before, scope = .locals ∨ a.env.lookIn Slot.hooks scope = none) →
        evaluate opts a.env (.member (.ident Slot.hooks) name) = .ok (.function hook)
  /-- The output is its answer to the response. -/
  postProcess : name = "postProcess" → ∀ (promptName : String) (outcome : Outcome) (log log' : Log),
    finish opts host promptName p log = (.ok outcome, log') →
      ∃ answer, callHookAt opts 1 hook [.str outcome.response] = .ok answer ∧
        formatOutput answer (p.env.slot? Slot.output) = .ok outcome.output

/-- In a successful run of sections, whatever its body does to the slot for hooks, each declared name stands for its last
declaration. -/
theorem last_declared_hook_is_in_force (opts : Options) (host : Host) (resolve : Resolver) (prompt : Prompt)
    (params : Entries Value) (log log' : Log) (p : Progress)
    (hrun : runSections opts host resolve prompt (Env.withParams params) log = (.ok p, log')) :
    Nonempty (Stages opts host resolve prompt params log p log') ∧
      ∀ (stages : Stages opts host resolve prompt params log p log') (list : List Hook), .hooks list ∈ prompt.sections →
        ∀ declared ∈ list, ∃ hook, InForce stages declared.name hook := by
  refine ⟨exists_stages hrun, fun stages list hsection declared hdeclared => ?_⟩
  obtain ⟨hook, hhook⟩ := Prompt.exists_hook? hsection hdeclared
  obtain ⟨hregistered, hseen⟩ := stages.slotMember?_hooks hhook
  refine ⟨hook, ⟨hhook, Prompt.lastNamed_of_hook? hhook, hregistered, ?_, ?_, ?_⟩⟩
  · intro hname
    exact preProcess_eq_ok (hname ▸ hhook) stages.processes
  · intro a ha
    obtain ⟨hmember, hunbound⟩ := hseen a ha
    refine ⟨hmember, fun before after horder hbefore => evaluate_slotMember hmember horder fun scope hscope => ?_⟩
    rcases hbefore scope hscope with rfl | hnone
    · exact hunbound
    · exact hnone
  · intro hname promptName outcome log log' hfinish
    exact finish_postProcess (hname ▸ hregistered) hfinish

end Sections

def noting (name note : String) : Hook := ⟨name, "given", [.ret (.object [("note", .str note)])]⟩

/-- A body overwrites the slot for hooks, two sections declare the hook `preProcess`, and a technique asks it for its note. -/
def redeclaring : Prompt where
  name := "main"
  sections := [
    .body [.assign (.ident "hooks") (.str "gone")],
    .hooks [noting "preProcess" "first", noting "postProcess" "only"],
    .hooks [noting "preProcess" "second"],
    .technique [.byFields .zeroShot [⟨"instruction", .member (.call (.member (.ident "hooks") "preProcess") []) "note"⟩]]]

/-- The second hook gave the parameters, and the technique stored its note. -/
theorem redeclaring_hook : ∃ p,
    runSections {} echoHost noPrompts redeclaring (Env.withParams []) {} = (.ok p, {}) ∧
      p.env.slotMember? Slot.params "note" = some (.str "second") ∧ p.env.slot? Slot.instruction = some (.str "second") ∧
      ∃ stages : Stages {} echoHost noPrompts redeclaring [] {} p {},
        InForce stages "preProcess" (noting "preProcess" "second") := by
  obtain ⟨p, hrun, hparams, hinstruction⟩ : ∃ p,
      runSections {} echoHost noPrompts redeclaring (Env.withParams []) {} = (.ok p, {}) ∧
        p.env.slotMember? Slot.params "note" = some (.str "second") ∧ p.env.slot? Slot.instruction = some (.str "second") := by
    rw [runSections, Prompt.ordered_of_sorted (by decide)]
    exact ⟨_, rfl, rfl, rfl⟩
  obtain ⟨⟨stages⟩, hforce⟩ := last_declared_hook_is_in_force _ _ _ _ _ _ _ _ hrun
  obtain ⟨hook, hhook⟩ := hforce stages [noting "preProcess" "second"] (by simp [redeclaring]) _ List.mem_cons_self
  have hsecond : some (noting "preProcess" "second") = some hook := hhook.found
  cases hsecond
  exact ⟨p, hrun, hparams, hinstruction, stages, hhook⟩

end PromptLang
