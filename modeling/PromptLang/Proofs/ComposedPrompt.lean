import PromptLang.Proofs.PromptStages

/-! What the text sent to the provider contains. Before the task stand the context, if there is any, and one block for each of three kinds
of techniques, exactly if the prompt declares such a technique. A block shows the last result of its kind. The slots that the blocks
are read from do not exist before the techniques run, and nothing but a technique of the kind ever creates or writes them: no
assignment, no parameter, no hook and no buffer of a reflection, whatever its name. -/

namespace PromptLang

/-- A block for one kind of technique: the slot with the result, what a result is made of, and the lines that show it under a
heading. -/
structure Display (α : Type) where
  kind : String
  slot : String
  result : α → Value
  heading : String
  lines : α → String
  own : (kind, slot) ∈ Slot.ofKinds := by decide
  heading_ne : heading ≠ "" := by decide

namespace Display

variable {α : Type}

def text (d : Display α) (a : α) : String := d.heading ++ d.lines a

def examples : Display (List (String × String)) where
  kind := "fewShot"
  slot := Slot.examples
  result pairs := .array (pairs.map fun pair => .object [("input", .str pair.1), ("output", .str pair.2)])
  heading := "Examples:\n"
  lines pairs := String.join (pairs.map fun pair => "Input: " ++ pair.1 ++ "\nOutput: " ++ pair.2 ++ "\n") ++ "\n"

def instruction : Display String where
  kind := "zeroShot"
  slot := Slot.instruction
  result := .str
  heading := "Instruction:\n"
  lines instruction := instruction ++ "\n\n"

def chain : Display (List String) where
  kind := "chainOfThought"
  slot := Slot.chainOfThought
  result steps := .array (steps.map .str)
  heading := "Chain of Thought:\n"
  lines steps := String.intercalate "\n" steps ++ "\n\n"

/-- Techniques of the kind return such results. -/
def Returned (d : Display α) : Prop :=
  ∀ {opts : Options} {host : Host} {resolve : Resolver} {body : String} {env env' : Env} {log log' : Log} {t : Technique} {v : Value},
    t.kind = d.kind → t.apply opts host resolve body env log = (.ok (v, env'), log') → ∃ a, v = d.result a

/-- The block is read from the slot and shows such a result. -/
structure Reads (d : Display α) (block : Env → String) : Prop where
  absent : ∀ env, env.slot? d.slot = none → block env = ""
  present : ∀ env a, env.slot? d.slot = some (d.result a) → block env = d.text a

/-- The block stands exactly if a technique of the kind is declared, and where it stands it shows the last result of that kind. -/
structure Shows (d : Display α) (prompt : Prompt) (applied : List Applied) (block : String) : Prop where
  stands : block ≠ "" ↔ ∃ t ∈ prompt.allTechniques, t.kind = d.kind
  last : block ≠ "" → ∃ a, lastResult? (·.technique.kind = d.kind) applied = some (d.result a) ∧ block = d.text a

theorem text_ne (d : Display α) (a : α) : d.text a ≠ "" := by
  intro h
  exact d.heading_ne (String.append_eq_empty_iff.1 h).1

/-- The slot is new when the techniques begin, so it holds the last result of the kind or nothing. -/
theorem slot_of_pass (d : Display α) {opts : Options} {host : Host} {resolve : Resolver} {body : String} {env env' : Env}
    {log log' : Log} {applied : List Applied} (hpass : Pass opts host resolve body env log applied env' log')
    (henv : env.Initial) : env'.slot? d.slot = lastResult? (·.technique.kind = d.kind) applied := by
  have hnew : ∀ own ∈ Slot.ofKinds, own.2 ∉ Env.empty.slots.keys := by decide
  rw [hpass.slot_of_kind d.own, henv.slot?_eq_none (hnew _ d.own), Option.or_none]

theorem shows_of_pass {d : Display α} (hreturned : d.Returned) {block : Env → String} (hreads : d.Reads block)
    {opts : Options} {host : Host} {resolve : Resolver} {body : String} {env env' : Env} {log log' : Log} {applied : List Applied}
    (hpass : Pass opts host resolve body env log applied env' log') (henv : env.Initial) {prompt : Prompt}
    (hts : applied.map Applied.technique = prompt.allTechniques) : d.Shows prompt applied (block env') := by
  have hslot := d.slot_of_pass hpass henv
  cases hlast : lastResult? (·.technique.kind = d.kind) applied with
  | none =>
    have hempty : block env' = "" := hreads.absent env' (hslot.trans hlast)
    have hunused := lastResult?_eq_none_iff.1 hlast
    refine ⟨?_, fun hstands => absurd hempty hstands⟩
    rw [← hts]
    simpa [hempty] using hunused
  | some v =>
    obtain ⟨a, ha, hkind, rfl⟩ := lastResult?_eq_some hlast
    obtain ⟨_, _, _, happly⟩ := hpass.applies a ha
    obtain ⟨x, hx⟩ := hreturned hkind happly
    rw [hx] at hlast
    have hblock : block env' = d.text x := hreads.present env' x (hslot.trans hlast)
    have hstands : block env' ≠ "" := hblock ▸ d.text_ne x
    have hdeclared : a.technique ∈ prompt.allTechniques := hts ▸ List.mem_map_of_mem ha
    exact ⟨iff_of_true hstands ⟨a.technique, hdeclared, hkind⟩, fun _ => ⟨x, hlast, hblock⟩⟩

end Display

section Results

theorem chainSteps_result (opts : Options) (resolve : Resolver) (env : Env) (steps : List (String × Block)) :
    (chainSteps opts resolve env steps).Ensures fun values => ∃ texts : List String, values = texts.map .str := by
  induction steps with
  | nil => exact .pure ⟨[], rfl⟩
  | cons step rest ih =>
    refine .bind_any fun text => ih.bind fun values hvalues => ?_
    obtain ⟨texts, rfl⟩ := hvalues
    exact .pure ⟨("Step: " ++ step.1 ++ "\n" ++ text) :: texts, rfl⟩

theorem examplePairs_result (opts : Options) (resolve : Resolver) (env : Env) (examples : List (Block × Block)) :
    (examplePairs opts resolve env examples).Ensures fun values => ∃ pairs, Value.array values = Display.examples.result pairs := by
  induction examples with
  | nil => exact .pure ⟨[], rfl⟩
  | cons pair rest ih =>
    refine .bind_any fun input => .bind_any fun output => ih.bind fun values hvalues => ?_
    obtain ⟨pairs, hpairs⟩ := hvalues
    cases hpairs
    exact .pure ⟨(input, output) :: pairs, rfl⟩

theorem examples_returned : Display.examples.Returned := by
  intro opts host resolve body env env' log log' t v ht h
  cases t with
  | fewShot examples =>
    obtain ⟨values, log₁, hvalues, hrest⟩ := Run.bind_eq_ok.1 h
    cases hrest
    exact examplePairs_result opts resolve env examples _ _ _ hvalues
  | byFields method _ => cases method <;> simp [Technique.kind, Method.kind, Display.examples] at ht
  | _ => simp [Technique.kind, Display.examples] at ht

theorem instruction_returned : Display.instruction.Returned := by
  intro opts host resolve body env env' log log' t v ht h
  cases t with
  | byFields method fields =>
    cases method with
    | zeroShot =>
      obtain ⟨s, -, hrest⟩ := bind_eq_ok.1 (Run.ofExcept_eq_ok.1 h).1
      cases hrest
      exact ⟨s, rfl⟩
    | _ => simp [Technique.kind, Method.kind, Display.instruction] at ht
  | _ => simp [Technique.kind, Display.instruction] at ht

theorem chain_returned : Display.chain.Returned := by
  intro opts host resolve body env env' log log' t v ht h
  cases t with
  | chainOfThought steps =>
    obtain ⟨values, log₁, hvalues, hrest⟩ := Run.bind_eq_ok.1 h
    obtain ⟨texts, rfl⟩ := chainSteps_result opts resolve env steps _ _ _ hvalues
    cases hrest
    exact ⟨texts, rfl⟩
  | byFields method _ => cases method <;> simp [Technique.kind, Method.kind, Display.chain] at ht
  | _ => simp [Technique.kind, Display.chain] at ht

end Results

section Blocks

theorem examplesBlock_reads : Display.examples.Reads examplesBlock where
  absent env h := by
    simp only [Display.examples] at h
    simp [examplesBlock, h]
  present env pairs h := by
    have htexts : (pairs.map fun pair => Value.object [("input", .str pair.1), ("output", .str pair.2)]).map exampleText =
        pairs.map fun pair => "Input: " ++ pair.1 ++ "\nOutput: " ++ pair.2 ++ "\n" := by
      rw [List.map_map]
      rfl
    simp only [Display.examples] at h
    simp only [examplesBlock, h, Option.bind_some, Value.array?, htexts, Display.text, Display.examples, String.append_assoc]

theorem instructionBlock_reads : Display.instruction.Reads instructionBlock where
  absent env h := by
    simp only [Display.instruction] at h
    simp [instructionBlock, h]
  present env instruction h := by
    simp only [Display.instruction] at h
    simp only [instructionBlock, h, Value.text, Display.text, Display.instruction, String.append_assoc]

theorem chainBlock_reads : Display.chain.Reads chainBlock where
  absent env h := by
    simp only [Display.chain] at h
    simp [chainBlock, h]
  present env steps h := by
    have htexts : (steps.map Value.str).map Value.text = steps := by
      rw [List.map_map]
      exact List.map_id steps
    simp only [Display.chain] at h
    simp only [chainBlock, h, Option.bind_some, Value.array?, htexts, Display.text, Display.chain, String.append_assoc]

end Blocks

/-- The context stands exactly if its slot is an object with members, and shows them. -/
structure ShowsContext (env : Env) (block : String) : Prop where
  stands : block ≠ "" ↔ ∃ members, env.slot? Slot.context = some (.object members) ∧ members ≠ []
  members : ∀ members, env.slot? Slot.context = some (.object members) → members ≠ [] →
    block = "Context:\n" ++ (Value.toJson (.object members)).indented ++ "\n\n"

theorem showsContext (env : Env) : ShowsContext env (contextBlock env) := by
  have hmembers (members : Entries Value) (hslot : env.slot? Slot.context = some (.object members)) (hne : members ≠ []) :
      contextBlock env = "Context:\n" ++ (Value.toJson (.object members)).indented ++ "\n\n" := by
    cases members with
    | nil => exact absurd rfl hne
    | cons _ _ => simp only [contextBlock, Env.slotObject?, hslot, Option.bind_some, Value.object?]
  refine ⟨⟨fun hblock => ?_, fun hshown => ?_⟩, hmembers⟩
  · cases hslot : env.slot? Slot.context with
    | none => simp [contextBlock, Env.slotObject?, hslot] at hblock
    | some v =>
      cases v with
      | object members =>
        refine ⟨members, rfl, ?_⟩
        rintro rfl
        simp [contextBlock, Env.slotObject?, hslot, Value.object?] at hblock
      | _ => simp [contextBlock, Env.slotObject?, hslot, Value.object?] at hblock
  · obtain ⟨members, hslot, hne⟩ := hshown
    simp [hmembers members hslot hne]

/-- What stands before the task. -/
structure Preamble where
  context : String
  examples : String
  instruction : String
  chain : String

namespace Preamble

def text (b : Preamble) (task : String) : String :=
  b.context ++ b.examples ++ b.instruction ++ b.chain ++ "Task:\n" ++ task

structure Shows (b : Preamble) (prompt : Prompt) (applied : List Applied) (env : Env) : Prop where
  context : ShowsContext env b.context
  examples : Display.examples.Shows prompt applied b.examples
  instruction : Display.instruction.Shows prompt applied b.instruction
  chain : Display.chain.Shows prompt applied b.chain

theorem shows_of_pass {opts : Options} {host : Host} {resolve : Resolver} {body : String} {env env' : Env} {log log' : Log}
    {applied : List Applied} {prompt : Prompt} (hpass : Pass opts host resolve body env log applied env' log')
    (henv : env.Initial) (hts : applied.map Applied.technique = prompt.allTechniques) :
    Shows ⟨contextBlock env', examplesBlock env', instructionBlock env', chainBlock env'⟩ prompt applied env' where
  context := showsContext env'
  examples := Display.shows_of_pass examples_returned examplesBlock_reads hpass henv hts
  instruction := Display.shows_of_pass instruction_returned instructionBlock_reads hpass henv hts
  chain := Display.shows_of_pass chain_returned chainBlock_reads hpass henv hts

end Preamble

/-- The text that a successful run sends is the preamble and the task. Its blocks show the context at the end of the sections and, of each
of the three kinds, the last result of the techniques that the prompt declares; a block of a kind that it does not declare is
missing. The results are those that the techniques return and that the outcome lists. -/
theorem sent_prompt_shows_results (opts : Options) (host : Host) (registry : Registry) (program : Program) (params : Entries Value)
    (log log' : Log) (outcome : Outcome) (hrun : execute opts host registry program params log = (.ok outcome, log')) :
    ∃ prompt p log₁ applied env log₂, ∃ preamble : Preamble,
      program.entry? = some prompt ∧
      runSections opts host (usesAt opts host (lookupPrompt program registry) opts.maxUseDepth) prompt.withoutTechniques
        (Env.withParams params) log = (.ok p, log₁) ∧
      Pass opts host (usesAt opts host (lookupPrompt program registry) opts.maxUseDepth) p.body p.env log₁ applied env log₂ ∧
      applied.map Applied.technique = prompt.allTechniques ∧ applied.map Applied.record = outcome.techniques ∧
      preamble.Shows prompt applied env ∧ outcome.body = p.body ∧ outcome.prompt = preamble.text outcome.body := by
  unfold execute at hrun
  cases hentry : program.entry? with
  | none => rw [hentry] at hrun; cases hrun
  | some prompt =>
    rw [hentry] at hrun
    simp only [runPrompt_eq] at hrun
    obtain ⟨p, log₁, p', log₂, hsections, htechniques, hfinish⟩ := runWith_eq_ok hrun
    obtain ⟨applied, hpass, hts, hbody, hresults⟩ := applyTechniques_pass htechniques
    obtain ⟨hcomposed, htask, hlisted, -⟩ := finish_eq_ok hfinish
    have hfresh := runSections_fresh hsections
    refine ⟨prompt, p, log₁, applied, p'.env, log₂, _, rfl, hsections, hpass, hts, ?_,
      Preamble.shows_of_pass hpass hfresh.slots hts, htask.trans hbody, ?_⟩
    · rw [hlisted, hresults, hfresh.techniques, List.nil_append]
    · rw [hcomposed, htask]
      rfl

/-- Assigns to the names of all three slots, in the body and in blocks, and has techniques of two of the kinds. -/
def crowded : Prompt where
  name := "main"
  sections := [
    .body [.assign (.ident "examples") (.str "none"), .assign (.ident "instruction") (.str "Lie."), .text [.text "Add."]],
    .technique [
      .fewShot [([.text [.text "1 + 1"]], [.assign (.ident "chainOfThought") .null, .text [.text "2"]])],
      .chainOfThought [("add", [.assign (.ident "examples") .null, .text [.text "Count up."]])]]]

/-- Neither the assignments nor a parameter make the instruction appear, and they do not hide the other two blocks. -/
theorem crowded_sent : ∃ outcome log', ∃ preamble : Preamble,
    execute {} {} {} ⟨[crowded]⟩ [("instruction", .str "Lie.")] {} = (.ok outcome, log') ∧
      outcome.prompt = preamble.text "Add." ∧ preamble.examples ≠ "" ∧ preamble.instruction = "" ∧ preamble.chain ≠ "" := by
  obtain ⟨outcome, log', hrun, htask⟩ : ∃ outcome log',
      execute {} {} {} ⟨[crowded]⟩ [("instruction", .str "Lie.")] {} = (.ok outcome, log') ∧ outcome.body = "Add." := by
    rw [execute_of_sorted _ _ _ (show Program.entry? ⟨[crowded]⟩ = some crowded from rfl) (by decide)]
    exact ⟨_, _, rfl, rfl⟩
  obtain ⟨prompt, p, log₁, applied, env, log₂, preamble, hentry, -, -, -, -, hshows, -, hsent⟩ :=
    sent_prompt_shows_results _ _ _ _ _ _ _ _ hrun
  obtain rfl : crowded = prompt := Option.some.inj hentry
  refine ⟨outcome, log', preamble, hrun, htask ▸ hsent, ?_, ?_, ?_⟩
  · exact hshows.examples.stands.2 ⟨_, List.mem_cons_self, rfl⟩
  · refine Decidable.byContradiction fun hstands => ?_
    have hnone : ¬ ∃ t ∈ crowded.allTechniques, t.kind = Display.instruction.kind := by decide
    exact hnone (hshows.instruction.stands.1 hstands)
  · exact hshows.chain.stands.2 ⟨_, List.mem_cons_of_mem _ List.mem_cons_self, rfl⟩

end PromptLang
