import PromptLang.Proofs.PromptStages
import PromptLang.Proofs.TechniqueCalls

/-! Who makes the calls of a run, and with which constraints. Sections other than techniques, and techniques that hold blocks, run other
prompts and make no call of their own. Techniques driven by fields make calls of their own and run no other prompt. Their calls and
the final one carry the constraints of the environment, which no technique changes, so they are those that the sections before the
techniques left. -/

namespace PromptLang

section Constraints

def CallsWith (admitted : Constraints → Prop) (α : Type) (x : Run α) : Prop :=
  ∀ log, ∃ made, (x log).2.calls = log.calls ++ made ∧ ∀ call ∈ made, admitted call.constraints

variable (admitted : Constraints → Prop)

theorem callsWith_compositional : Compositional (CallsWith admitted) where
  ofExcept _ log := ⟨[], (List.append_nil _).symm, by simp⟩
  bind := by
    intro α β x f hx hf log
    obtain ⟨made, hmade, hcalls⟩ := hx log
    rw [Run.bind_apply]
    rcases hrun : x log with ⟨_ | a, mid⟩
    · rw [hrun] at hmade
      exact ⟨made, hmade, hcalls⟩
    · rw [hrun] at hmade
      obtain ⟨more, hmore, hlater⟩ := hf a mid
      refine ⟨made ++ more, by rw [hmore, hmade, List.append_assoc], fun call hcall => ?_⟩
      exact (List.mem_append.1 hcall).elim (hcalls call) (hlater call)

theorem callsWith_related (host : Host) (limit : Nat) : host.Related host limit admitted fun α x _ => CallsWith admitted α x where
  generate constraints hc prompt _ := ⟨[⟨prompt, constraints⟩], rfl, by simpa using hc⟩
  generateAll constraints hc prompts log := by
    obtain ⟨m, hlog⟩ := generateAll_log host limit constraints prompts log
    refine ⟨(prompts.take m).map (⟨·, constraints⟩), by rw [hlog]; rfl, fun call hcall => ?_⟩
    obtain ⟨prompt, -, rfl⟩ := List.mem_map.1 hcall
    exact hc
  annotate _ _ := ⟨[], (List.append_nil _).symm, by simp⟩

theorem Method.apply_callsWith (opts : Options) (host : Host) (method : Method) (fields : List Field) (body : String) (env : Env) :
    CallsWith (fun c => env.constraints = .ok c) _ (method.apply opts host fields body env) :=
  Method.apply_related (callsWith_compositional _).congruence (.refl opts) (callsWith_related _ host _) (fun _ hc => hc) method fields
    body

end Constraints

section Uses

def Section.bodyUses : Section → List String
  | .body block => Stmt.usesIn block
  | _ => []

def Prompt.bodyUses (p : Prompt) : List String := p.sections.flatMap Section.bodyUses

variable (opts : Options) (host : Host) {r r' : Resolver}

theorem Section.run_agree {s : Section} (hs : s.kind ≠ .technique) (h : Resolver.Agree s.bodyUses r r') (p : Progress) :
    s.run opts host r p = s.run opts host r' p := by
  cases s with
  | body block => simp only [Section.run, Stmt.runBlock_agree opts block h]
  | technique list => exact absurd rfl hs
  | _ => rfl

variable (resolve : Resolver)

theorem runSections_asksByUse (prompt : Prompt) (env : Env) :
    AsksByUse resolve prompt.bodyUses _ (runSections opts host resolve prompt.withoutTechniques env) := by
  have hcong := (asksByUse_compositional resolve prompt.bodyUses).congruence
  have hfound := (asksByUse_only resolve prompt.bodyUses).related
  refine runInOrder_related hcong (.refl opts) host host resolve resolve _ (fun s hs p => ?_) true _
  obtain ⟨hmem, hkind⟩ := Prompt.kind_of_mem_ordered hs
  have hagree : Resolver.Agree s.bodyUses resolve (resolve.only prompt.bodyUses) :=
    (Resolver.agree_only prompt.bodyUses resolve).mono fun name hname => List.mem_flatMap.2 ⟨s, hmem, hname⟩
  rw [Section.run_agree opts host hkind hagree]
  exact Section.run_related_of_ne hcong (.refl opts) hfound hkind host host p

theorem Technique.apply_asksByUse {t : Technique} (ht : t.kind ∈ Technique.blockKinds) (body : String) (env : Env) :
    AsksByUse resolve t.uses _ (t.apply opts host resolve body env) := by
  rw [t.apply_agree opts host body env (Resolver.agree_only t.uses resolve)]
  exact Technique.apply_has_of_blocks (asksByUse_compositional resolve t.uses) (asksByUse_only resolve t.uses) ht opts host body env

end Uses

/-- Techniques applied one after the other, with the calls that they make themselves. A technique driven by fields makes whatever calls
it adds to the log. A technique that holds blocks makes none, as the log grows by runs of the prompts that it uses. -/
inductive Issues (opts : Options) (host : Host) (resolve : Resolver) (body : String) :
    Env → Log → List Technique → List Call → Env → Log → Prop
  | nil (env : Env) (log : Log) : Issues opts host resolve body env log [] [] env log
  | fields {method : Method} {fields : List Field} {env env₁ env' : Env} {log log₁ log' : Log} {v : Value}
      {rest : List Technique} {made own : List Call}
      (head : (Technique.byFields method fields).apply opts host resolve body env log = (.ok (v, env₁), log₁))
      (calls : log₁.calls = log.calls ++ made)
      (tail : Issues opts host resolve body
        (env₁.pushSlotItem Slot.techniques (.object [("kind", .str method.kind), ("result", v)])) log₁ rest own env' log') :
      Issues opts host resolve body env log (.byFields method fields :: rest) (made ++ own) env' log'
  | blocks {t : Technique} {env env₁ env' : Env} {log log₁ log' : Log} {v : Value} {rest : List Technique} {own : List Call}
      (holds : t.kind ∈ Technique.blockKinds)
      (head : t.apply opts host resolve body env log = (.ok (v, env₁), log₁))
      (uses : Relation.ReflTransGen (UseStep resolve t.uses) log log₁)
      (tail : Issues opts host resolve body
        (env₁.pushSlotItem Slot.techniques (.object [("kind", .str t.kind), ("result", v)])) log₁ rest own env' log') :
      Issues opts host resolve body env log (t :: rest) own env' log'

theorem Technique.kind_mem_or_byFields (t : Technique) :
    t.kind ∈ Technique.blockKinds ∨ ∃ method fields, t = .byFields method fields := by
  cases t with
  | byFields method fields => exact .inr ⟨method, fields, rfl⟩
  | _ => simp [Technique.kind, Technique.blockKinds]

section Issued

variable {opts : Options} {host : Host} {resolve : Resolver}

theorem Pass.constraints {body : String} {env env' : Env} {log log' : Log} {applied : List Applied}
    (h : Pass opts host resolve body env log applied env' log') : env'.constraints = env.constraints :=
  congrArg Constraints.ofValue? (h.slot_untouched (by decide))

/-- The calls that techniques make themselves have the constraints of the environment that the first technique finds. -/
theorem applyTechniques_issues {ts : List Technique} {p p' : Progress} {log log' : Log}
    (h : applyTechniques opts host resolve ts p log = (.ok p', log')) :
    ∃ own, Issues opts host resolve p.body p.env log ts own p'.env log' ∧
      ∀ call ∈ own, p.env.constraints = .ok call.constraints := by
  induction ts generalizing p log with
  | nil =>
    cases h
    exact ⟨[], .nil _ _, by simp⟩
  | cons t rest ih =>
    obtain ⟨⟨v, env₁⟩, log₁, head, h⟩ := Run.bind_eq_ok.1 h
    obtain ⟨own, tail, hown⟩ := ih h
    -- each technique parses the slot anew; it finds what the first one found
    have hkept := (Pass.cons head (.nil _ _)).constraints
    replace hown : ∀ call ∈ own, p.env.constraints = .ok call.constraints := fun call hcall => hkept.symm.trans (hown call hcall)
    rcases t.kind_mem_or_byFields with ht | ⟨method, fields, rfl⟩
    · have huses := t.apply_asksByUse opts host resolve ht p.body p.env log
      rw [head] at huses
      exact ⟨own, .blocks ht head huses tail, hown⟩
    · obtain ⟨made, hmade, hcalls⟩ := method.apply_callsWith opts host fields p.body p.env log
      rw [show method.apply opts host fields p.body p.env log = _ from head] at hmade
      refine ⟨made ++ own, .fields head hmade tail, fun call hcall => ?_⟩
      exact (List.mem_append.1 hcall).elim (hcalls call) (hown call)

end Issued

/-- A successful run, at any depth, ends with the call of its prompt, whose answer is the response. This call and those that its
techniques make themselves have the constraints that are parsed from the slot as the sections before the techniques leave it; all
other calls are made by runs of the prompts that the body and the blocks of techniques use. -/
theorem direct_calls_share_constraints (opts : Options) (host : Host) (registry : Registry) (program : Program) (levels : Nat)
    (prompt : Prompt) (params : Entries Value) (log log' : Log) (outcome : Outcome)
    (hrun : runPrompt opts host (lookupPrompt program registry) levels prompt params log = (.ok outcome, log')) :
    ∃ p log₁ constraints own env log₂,
      runSections opts host (usesAt opts host (lookupPrompt program registry) levels) prompt.withoutTechniques
        (Env.withParams params) log = (.ok p, log₁) ∧
      Relation.ReflTransGen (UseStep (usesAt opts host (lookupPrompt program registry) levels) prompt.bodyUses) log log₁ ∧
      Constraints.ofValue? (p.env.slot? Slot.constraints) = .ok constraints ∧
      Issues opts host (usesAt opts host (lookupPrompt program registry) levels) p.body p.env log₁ prompt.allTechniques own env log₂ ∧
      (∀ call ∈ own, call.constraints = constraints) ∧
      host.provider log₂.calls ⟨outcome.prompt, constraints⟩ = .ok outcome.response ∧
      log' = { log₂ with calls := log₂.calls ++ [⟨outcome.prompt, constraints⟩] } := by
  rw [runPrompt_eq] at hrun
  obtain ⟨p, log₁, p', log₂, hsections, htechniques, hfinish⟩ := runWith_eq_ok hrun
  obtain ⟨-, -, -, constraints, hparsed, hanswer, hlast⟩ := finish_eq_ok hfinish
  obtain ⟨own, hissues, hown⟩ := applyTechniques_issues htechniques
  obtain ⟨applied, hpass, -, -, -⟩ := applyTechniques_pass htechniques
  have hbefore : p.env.constraints = .ok constraints := hpass.constraints.symm.trans hparsed
  have huses := runSections_asksByUse opts host (usesAt opts host (lookupPrompt program registry) levels) prompt
    (Env.withParams params) log
  rw [hsections] at huses
  refine ⟨p, log₁, constraints, own, p'.env, log₂, hsections, huses, hbefore, hissues, fun call hcall => ?_, hanswer, hlast⟩
  exact Except.ok.inj ((hown call hcall).symm.trans hbefore)

/-- A prompt with a reflection, whose body and chain use another prompt with other constraints. The block of the chain assigns to the
constraints. -/
def delegating : Prompt where
  name := "main"
  sections := [
    .body [.use "brief" [], .text [.text "Go."]], .constraints [⟨"model", .str "large"⟩],
    .technique [
      .chainOfThought [("ask", [.assign (.ident "constraints") .null, .use "brief" []])],
      remember "Why?"]]

def delegation : Program where
  prompts := [delegating, ⟨"brief", [.body [.text [.text "Be brief."]], .constraints [⟨"model", .str "small"⟩]]⟩]

theorem delegation_run : ∃ outcome log', runPrompt {} {} (lookupPrompt delegation {}) 1 delegating [] {} = (.ok outcome, log') ∧
    log'.calls.map (·.constraints.model) = [some "small", some "small", some "large", some "large"] := by
  have huse := usesAt_of_sorted {} {} (show lookupPrompt delegation {} "brief" = some _ from rfl) (by decide) 0
  rw [runPrompt_eq, runWith_of_sorted _ _ _ (by decide)]
  simp only [delegating, runInOrder, Section.run, applyTechniques, Technique.apply, runChainOfThought, chainSteps, blockText,
    Stmt.runBlock, Stmt.run, huse]
  exact ⟨_, _, rfl, rfl⟩

/-- The constraints of the other prompt and the assignment in the block do not reach the calls of the prompt itself. -/
theorem delegation_constraints : ∃ (outcome : Outcome) (log' log₁ log₂ : Log) (p : Progress) (own : List Call) (env : Env)
    (constraints : Constraints), runPrompt {} {} (lookupPrompt delegation {}) 1 delegating [] {} = (.ok outcome, log') ∧
      Issues {} {} (usesAt {} {} (lookupPrompt delegation {}) 1) p.body p.env log₁ delegating.allTechniques own env log₂ ∧
      (∀ call ∈ own, call.constraints = constraints) ∧ log'.calls = log₂.calls ++ [⟨outcome.prompt, constraints⟩] ∧
      constraints.model = some "large" := by
  obtain ⟨outcome, log', hrun, hmodels⟩ := delegation_run
  obtain ⟨p, log₁, constraints, own, env, log₂, -, -, -, hissues, hown, -, hlast⟩ :=
    direct_calls_share_constraints _ _ _ _ _ _ _ _ _ _ hrun
  refine ⟨outcome, log', log₁, log₂, p, own, env, constraints, hrun, hissues, hown, by rw [hlast], ?_⟩
  have hmodel := congrArg List.getLast? hmodels
  simpa [hlast] using hmodel

end PromptLang
