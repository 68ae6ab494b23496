import PromptLang.Proofs.QuestionSelection
import PromptLang.Proofs.ThoughtTrees

/-! Answers stay with what they answer. A technique that asks about several questions or steps makes one call for each, in their order, and
reports each of them with the answer to its own call. The host may hold several calls of a batch at a time and answer them in any
order. -/

namespace PromptLang

/-- A batch of calls and the items reported of it. The call at a position asks about the subject there, and the item there pairs this subject
with the answer to this call. -/
structure Paired (ask : String → String) (item : String → String → Value) (constraints : Constraints) (subjects : List String)
    (made : List Exchange) (items : List Value) : Prop where
  asked : made.length = subjects.length
  reported : items.length = made.length
  pairs : ∀ (i : Nat) (x : Exchange), made[i]? = some x → ∃ subject, subjects[i]? = some subject ∧ x.call = ⟨ask subject, constraints⟩ ∧
    items[i]? = some (item subject x.answer)

section Batches

variable {host : Host} {constraints : Constraints} {log log' : Log}

theorem Paired.of_calls {ask : String → String} (item : String → String → Value) {subjects : List String} {made : List Exchange}
    (hcalls : made.map Exchange.call = (subjects.map ask).map (⟨·, constraints⟩)) :
    Paired ask item constraints subjects made
      ((subjects.zip (made.map Exchange.answer)).map fun (subject, answer) => item subject answer) := by
  have hlength : made.length = subjects.length := by simpa using congrArg List.length hcalls
  refine ⟨hlength, by simp [hlength], ?_⟩
  intro i x hx
  obtain ⟨hi, -⟩ := List.getElem?_eq_some_iff.1 hx
  have hsubject : subjects[i]? = some subjects[i] := List.getElem?_eq_getElem _
  have hcall := congrArg (fun calls => calls[i]?) hcalls
  simp only [List.getElem?_map, hx, hsubject, Option.map_some, Option.some.injEq] at hcall
  refine ⟨subjects[i], hsubject, hcall, ?_⟩
  have hpair : (subjects.zip (made.map Exchange.answer))[i]? = some (subjects[i], x.answer) := by
    rw [List.getElem?_zip_eq_some]
    exact ⟨hsubject, by rw [List.getElem?_map, hx]; rfl⟩
  rw [List.getElem?_map, hpair]
  rfl

theorem paired_generateAll {limit : Nat} {ask : String → String} (item : String → String → Value) {subjects answers : List String}
    (h : generateAll host limit constraints (subjects.map ask) log = (.ok answers, log')) :
    ∃ made, Exchanged host made log log' ∧ made.map (fun x => x.call.prompt) = subjects.map ask ∧
      answers = made.map Exchange.answer ∧
      Paired ask item constraints subjects made ((subjects.zip answers).map fun (subject, answer) => item subject answer) := by
  obtain ⟨made, hmade, hcalls, rfl⟩ := exchanged_generateAll h
  refine ⟨made, hmade, ?_, rfl, .of_calls item hcalls⟩
  have hprompts := congrArg (List.map Call.prompt) hcalls
  rw [List.map_map, List.map_map, List.map_map] at hprompts
  exact hprompts

end Batches

section Annotations

def Exchange.line (x : Exchange) : String := x.call.prompt ++ ": " ++ x.answer

/-- The current prompt, and below it a line for each exchange. -/
def annotatedPrompt (prompt : String) (made : List Exchange) : String :=
  prompt ++ "\n\nAnnotated questions:\n" ++ String.intercalate "\n" (made.map Exchange.line) ++ "\n"

theorem followUp_eq (prompt : String) (made : List Exchange) :
    followUp prompt ((made.map fun x => x.call.prompt).zip (made.map Exchange.answer)) = annotatedPrompt prompt made := by
  unfold followUp annotatedPrompt
  rw [List.zip_map', List.map_map]
  rfl

def annotationItem (uncertainty : Uncertainty) (question annotation : String) : Value :=
  .object [("question", .str question), ("uncertainty", .num (uncertainty.estimate question)), ("annotation", .str annotation)]

/-- The questions of a prompt with their scores. -/
def scoredQuestions (uncertainty : Uncertainty) (prompt : String) : List ScoredQuestion :=
  (splitQuestions prompt).map fun text => ⟨text, .ofFloat (uncertainty.estimate text)⟩

theorem estimate_of_selected {uncertainty : Uncertainty} {prompt selection : String} {w : Words} {selected : List ScoredQuestion}
    (h : selectQuestions selection (scoredQuestions uncertainty prompt) w = .ok selected) :
    ∀ q ∈ selected, q.uncertainty.toFloat = uncertainty.estimate q.text := by
  intro q hq
  obtain ⟨text, -, rfl⟩ := List.mem_map.1 ((subperm_selectQuestions h).subset hq)
  exact Number.Binary64.toFloat_ofFloat _

theorem annotationItem_of_estimate {uncertainty : Uncertainty} {selected : List ScoredQuestion}
    (h : ∀ q ∈ selected, q.uncertainty.toFloat = uncertainty.estimate q.text) (notes : List String) :
    ((selected.zip notes).map fun (q, note) =>
        Value.object [("question", .str q.text), ("uncertainty", .num q.uncertainty.toFloat), ("annotation", .str note)]) =
      ((selected.map ScoredQuestion.text).zip notes).map fun (question, note) => annotationItem uncertainty question note := by
  rw [List.zip_map_left, List.map_map]
  apply List.map_congr_left
  intro pair hpair
  have hestimate := h pair.1 (List.of_mem_zip hpair).1
  simp [annotationItem, hestimate]

end Annotations

section Subjects

variable (s : Settings) (body : String)

/-- The questions that are selected for an annotation, and by which uncertainty. -/
def Settings.Selects (uncertainty : Uncertainty) (questions : List String) : Prop :=
  ∃ estimation selection selected, s.text "uncertaintyEstimation" = .ok estimation ∧ s.text "selectionStrategy" = .ok selection ∧
    Uncertainty.ofName estimation = .ok uncertainty ∧
    selectQuestions selection (scoredQuestions uncertainty (compose s.env body)) s.opts.randomWords = .ok selected ∧
    questions = selected.map ScoredQuestion.text

/-- The questions that represent the clusters. -/
def Settings.Represents (questions : List String) : Prop :=
  ∃ method selection clusters, s.text "clusteringMethod" = .ok method ∧ s.text "representativeSelection" = .ok selection ∧
    clusterQuestions method (compose s.env body) = .ok clusters ∧ representatives selection clusters s.opts.randomWords = .ok questions

/-- The task of the prompt's category and its steps. -/
def Settings.Decomposes (task : String) (steps : List String) : Prop :=
  ∃ tasks strategy, s.object "taskLibrary" = .ok tasks ∧ s.text "decompositionStrategy" = .ok strategy ∧
    selectTask? tasks (classifyTask (compose s.env body)) = some task ∧ decomposeTask strategy task = .ok steps

end Subjects

section Reports

def chainItem (question chain : String) : Value := .object [("question", .str question), ("chain", .str chain)]

def stepItem (step outcome : String) : Value := .object [("step", .str step), ("result", .str outcome)]

variable (host : Host) (s : Settings) (body : String) (log log' : Log) (result : Value)

/-- The selected questions are asked as they are, and after them the prompt with a line for each. -/
def ReportsAnnotations : Prop :=
  ∃ constraints uncertainty questions made items last, s.env.constraints = .ok constraints ∧
    s.Selects body uncertainty questions ∧ Exchanged host (made ++ [last]) log log' ∧
    Paired (fun question => question) (annotationItem uncertainty) constraints questions made items ∧
    last.call = ⟨annotatedPrompt (compose s.env body) made, constraints⟩ ∧
    result = .object [("questions", .array items), ("response", .str last.answer)]

/-- A chain of thought is requested for each representative. -/
def ReportsChains : Prop :=
  ∃ constraints questions made items, s.env.constraints = .ok constraints ∧ s.Represents body questions ∧
    Exchanged host made log log' ∧
    Paired (fun question => "Generate a chain of thought for: " ++ question) chainItem constraints questions made items ∧
    result = .array items

/-- The steps of the task are asked as they are. -/
def ReportsSteps : Prop :=
  ∃ constraints task steps tools made items, s.env.constraints = .ok constraints ∧ s.Decomposes body task steps ∧
    s.object "toolLibrary" = .ok tools ∧ Exchanged host made log log' ∧
    Paired (fun step => step) stepItem constraints steps made items ∧
    result = .object [("task", .str task), ("category", .str (classifyTask (compose s.env body)).name),
      ("tools", .array ((selectTools tools (classifyTask (compose s.env body))).map .str)), ("steps", .array items)]

variable {host s body log log' result}

theorem runActivePrompting_reports (hauto : s.text "annotationProcess" = .ok "auto")
    (h : runActivePrompting host s body log = (.ok result, log')) : ReportsAnnotations host s body log log' result := by
  obtain ⟨estimation, hestimation, h⟩ := Run.liftM_bind_eq_ok.1 h
  obtain ⟨selection, hselection, h⟩ := Run.liftM_bind_eq_ok.1 h
  obtain ⟨process, hprocess, h⟩ := Run.liftM_bind_eq_ok.1 h
  obtain ⟨_, hknown, h⟩ := Run.liftM_bind_eq_ok.1 h
  obtain ⟨_, -, h⟩ := Run.liftM_bind_eq_ok.1 h
  obtain ⟨_, -, h⟩ := Run.liftM_bind_eq_ok.1 h
  obtain ⟨constraints, hconstraints, h⟩ := Run.liftM_bind_eq_ok.1 h
  obtain ⟨candidates, hcandidates, h⟩ := Run.liftM_bind_eq_ok.1 h
  obtain ⟨selected, hselected, h⟩ := Run.liftM_bind_eq_ok.1 h
  obtain ⟨notes, log₁, hnotes, h⟩ := Run.bind_eq_ok.1 h
  obtain ⟨response, log₂, hresponse, h⟩ := Run.bind_eq_ok.1 h
  cases h
  cases hauto.symm.trans hprocess
  obtain ⟨uncertainty, huncertainty⟩ : ∃ uncertainty, Uncertainty.ofName estimation = .ok uncertainty :=
    chooseStrategy_of_mem _ Uncertainty.table (mem_of_ensureStrategy hknown)
  cases (scoreQuestions_eq huncertainty _).symm.trans hcandidates
  rw [annotateQuestions, if_pos rfl, ← List.map_id' (List.map _ _)] at hnotes
  obtain ⟨made, hmade, hprompts, rfl, hpaired⟩ := paired_generateAll (annotationItem uncertainty) hnotes
  refine ⟨constraints, uncertainty, _, made, _, ⟨_, response⟩, hconstraints,
    ⟨estimation, selection, selected, hestimation, hselection, huncertainty, hselected, rfl⟩,
    hmade.append (exchanged_generate hresponse), hpaired, ?_, ?_⟩
  · have hfollow := followUp_eq (compose s.env body) made
    rw [hprompts, List.map_id'] at hfollow
    exact congrArg (Call.mk · constraints) hfollow
  · have hitems := annotationItem_of_estimate (estimate_of_selected hselected) (made.map Exchange.answer)
    exact congrArg (fun items => Value.object [("questions", .array items), ("response", .str response)]) hitems

theorem runAutoCot_reports (h : runAutoCot host s body log = (.ok result, log')) : ReportsChains host s body log log' result := by
  obtain ⟨method, hmethod, h⟩ := Run.liftM_bind_eq_ok.1 h
  obtain ⟨selection, hselection, h⟩ := Run.liftM_bind_eq_ok.1 h
  obtain ⟨_, -, h⟩ := Run.liftM_bind_eq_ok.1 h
  obtain ⟨_, -, h⟩ := Run.liftM_bind_eq_ok.1 h
  obtain ⟨constraints, hconstraints, h⟩ := Run.liftM_bind_eq_ok.1 h
  obtain ⟨clusters, hclusters, h⟩ := Run.liftM_bind_eq_ok.1 h
  obtain ⟨questions, hquestions, h⟩ := Run.liftM_bind_eq_ok.1 h
  obtain ⟨chains, log₁, hchains, h⟩ := Run.bind_eq_ok.1 h
  cases h
  obtain ⟨made, hmade, -, -, hpaired⟩ := paired_generateAll chainItem hchains
  exact ⟨constraints, questions, made, _, hconstraints, ⟨method, selection, clusters, hmethod, hselection, hclusters, hquestions⟩,
    hmade, hpaired, rfl⟩

theorem runArt_reports (h : runArt host s body log = (.ok result, log')) : ReportsSteps host s body log log' result := by
  obtain ⟨tasks, htasks, h⟩ := Run.liftM_bind_eq_ok.1 h
  obtain ⟨tools, htools, h⟩ := Run.liftM_bind_eq_ok.1 h
  obtain ⟨strategy, hstrategy, h⟩ := Run.liftM_bind_eq_ok.1 h
  obtain ⟨_, -, h⟩ := Run.liftM_bind_eq_ok.1 h
  obtain ⟨constraints, hconstraints, h⟩ := Run.liftM_bind_eq_ok.1 h
  cases htask : selectTask? tasks (classifyTask (compose s.env body)) with
  | none =>
    rw [htask] at h
    cases h
  | some task =>
    rw [htask] at h
    obtain ⟨steps, hsteps, h⟩ := Run.liftM_bind_eq_ok.1 h
    obtain ⟨outcomes, log₁, houtcomes, h⟩ := Run.bind_eq_ok.1 h
    cases h
    rw [← List.map_id' steps] at houtcomes
    obtain ⟨made, hmade, -, -, hpaired⟩ := paired_generateAll stepItem houtcomes
    exact ⟨constraints, task, steps, tools, made, _, hconstraints, ⟨tasks, strategy, htasks, hstrategy, htask, hsteps⟩, htools,
      hmade, hpaired, rfl⟩

end Reports

theorem result_of_keeping {env env' : Env} {x : Run Value} {log log' : Log} {v : Value}
    (h : keeping env x log = (.ok (v, env'), log')) : x log = (.ok v, log') := by
  obtain ⟨_, _, hx, hrest⟩ := Run.bind_eq_ok.1 h
  cases hrest
  exact hx

/-- A technique that succeeds reports every question or step that it asked about, and no other, in the order of its calls and with the answer
to its own call, however many calls were in flight and in whichever order their answers arrived. The follow-up prompt after the annotations lists the questions with their own annotations in this order. -/
theorem answers_stay_with_questions (opts : Options) (host : Host) (resolve : Resolver) (method : Method) (fields : List Field)
    (body : String) (env env' : Env) (log log' : Log) (result : Value)
    (h : (Technique.byFields method fields).apply opts host resolve body env log = (.ok (result, env'), log')) :
    (method = .activePrompting → (Settings.mk opts env .activePrompting fields).text "annotationProcess" = .ok "auto" →
      ReportsAnnotations host ⟨opts, env, .activePrompting, fields⟩ body log log' result) ∧
    (method = .autoCot → ReportsChains host ⟨opts, env, .autoCot, fields⟩ body log log' result) ∧
    (method = .art → ReportsSteps host ⟨opts, env, .art, fields⟩ body log log' result) := by
  refine ⟨?_, ?_, ?_⟩
  · rintro rfl hauto
    exact runActivePrompting_reports hauto (result_of_keeping h)
  · rintro rfl
    exact runAutoCot_reports (result_of_keeping h)
  · rintro rfl
    exact runArt_reports (result_of_keeping h)

/-- Answers by the number of calls before, and the second of two calls in flight first. -/
def clerk : Host where
  provider earlier _ := .ok (["Tides.", "Winds.", "Both.", "Neither.", "Done."].getD earlier.length "")
  schedule _ := [.send, .send, .arrive 1, .take, .arrive 0, .take]

def emptyPrompts : Resolver := fun _ => .ok fun _ => pure ""

def annotationFields : List Field :=
  [⟨"uncertaintyEstimation", .str "length"⟩, ⟨"selectionStrategy", .str "random"⟩, ⟨"annotationProcess", .str "auto"⟩]

def chainFields : List Field := [⟨"clusteringMethod", .str "length"⟩, ⟨"representativeSelection", .str "longest"⟩]

def taskFields : List Field :=
  [⟨"taskLibrary", .object [("default", .str "sailing")]⟩, ⟨"toolLibrary", .object []⟩, ⟨"decompositionStrategy", .str "sequential"⟩]

/-- Two questions and a follow-up, two chains of thought, and five steps. -/
theorem clerk_answers_in_turn : ∃ annotated steps log₁ log₂ log₃,
    ((Technique.byFields .activePrompting annotationFields).apply {} clerk emptyPrompts "Why? Which wind?" .empty {} =
        (.ok (annotated, .empty), log₁) ∧ log₁.calls.length = 3 ∧
      ReportsAnnotations clerk ⟨{}, .empty, .activePrompting, annotationFields⟩ "Why? Which wind?" {} log₁ annotated) ∧
    ((Technique.byFields .autoCot chainFields).apply {} clerk emptyPrompts "Why? Which wind?" .empty {} =
        (.ok (.array [chainItem "Why?" "Tides.", chainItem "Which wind?" "Winds."], .empty), log₂) ∧
      ReportsChains clerk ⟨{}, .empty, .autoCot, chainFields⟩ "Why? Which wind?" {} log₂
        (.array [chainItem "Why?" "Tides.", chainItem "Which wind?" "Winds."])) ∧
    (Technique.byFields .art taskFields).apply {} clerk emptyPrompts "Go." .empty {} = (.ok (steps, .empty), log₃) ∧
      log₃.calls.length = 5 ∧ ReportsSteps clerk ⟨{}, .empty, .art, taskFields⟩ "Go." {} log₃ steps := by
  have hprompt : compose .empty "Why? Which wind?" = "Task:\nWhy? Which wind?" := rfl
  have hquestions : splitQuestions "Task:\nWhy? Which wind?" = ["Why?", "Which wind?"] := by decide
  obtain ⟨annotated, log₁, hannotated, hcalls₁⟩ : ∃ annotated log₁,
      (Technique.byFields .activePrompting annotationFields).apply {} clerk emptyPrompts "Why? Which wind?" .empty {} =
        (.ok (annotated, .empty), log₁) ∧ log₁.calls.length = 3 := by
    simp only [Technique.apply, Method.apply, runActivePrompting, hprompt, hquestions]
    exact ⟨_, _, rfl, rfl⟩
  obtain ⟨log₂, hchains⟩ : ∃ log₂,
      (Technique.byFields .autoCot chainFields).apply {} clerk emptyPrompts "Why? Which wind?" .empty {} =
        (.ok (.array [chainItem "Why?" "Tides.", chainItem "Which wind?" "Winds."], .empty), log₂) := by
    simp only [Technique.apply, Method.apply, runAutoCot, clusterQuestions, hprompt, hquestions]
    exact ⟨_, rfl⟩
  obtain ⟨steps, log₃, hsteps, hcalls₃⟩ : ∃ steps log₃,
      (Technique.byFields .art taskFields).apply {} clerk emptyPrompts "Go." .empty {} = (.ok (steps, .empty), log₃) ∧
        log₃.calls.length = 5 := ⟨_, _, rfl, rfl⟩
  obtain ⟨hreport₁, -, -⟩ := answers_stay_with_questions _ _ _ _ _ _ _ _ _ _ _ hannotated
  obtain ⟨-, hreport₂, -⟩ := answers_stay_with_questions _ _ _ _ _ _ _ _ _ _ _ hchains
  obtain ⟨-, -, hreport₃⟩ := answers_stay_with_questions _ _ _ _ _ _ _ _ _ _ _ hsteps
  exact ⟨annotated, steps, log₁, log₂, log₃, ⟨hannotated, hcalls₁, hreport₁ rfl rfl⟩, ⟨hchains, hreport₂ rfl⟩,
    hsteps, hcalls₃, hreport₃ rfl⟩

end PromptLang
