import PromptLang.Proofs.BlockScoping
import PromptLang.Proofs.SectionLayout

/-! A missing parameter stops a run before it asks anything. Metadata and context are evaluated first, then the sections of parameters are
bound one after the other, all without the host. Binding adds the declared names to those that are given and nothing else, so a
declaration without a default whose name is neither given nor declared earlier finds no value, and it is reported unless something
before it fails. -/

namespace PromptLang

section Binding

variable (opts : Options) (env : Env)

theorem bindDecls_append (a b : List ParamDecl) (params : Entries Value) :
    bindDecls opts env (a ++ b) params = bindDecls opts env a params >>= bindDecls opts env b := by
  induction a generalizing params with
  | nil => rfl
  | cons d rest ih =>
    simp only [List.cons_append, bindDecls, bind_assoc]
    refine congrArg (d.value opts env params >>= ·) (funext fun v => ?_)
    split
    · exact ih _
    · rfl

theorem mem_keys_bindDecls (decls : List ParamDecl) (params : Entries Value) :
    Ensures (bindDecls opts env decls params) fun bound =>
      ∀ name, name ∈ bound.keys ↔ name ∈ params.keys ∨ name ∈ decls.map ParamDecl.name := by
  induction decls generalizing params with
  | nil => exact .ok (by simp)
  | cons d rest ih =>
    refine .bind_any fun v => ?_
    split
    · intro bound hbound name
      rw [ih _ bound hbound name, Entries.keys_insert]
      split
      · next hd =>
        simp only [List.map_cons, List.mem_cons]
        constructor
        · rintro (h | h)
          · exact .inl h
          · exact .inr (.inr h)
        · rintro (h | rfl | h)
          · exact .inl h
          · exact .inl hd
          · exact .inr h
      · simp [or_assoc]
    · exact .error _ _

/-- The declaration has no default, and its name is neither given nor declared earlier. -/
structure ParamDecl.Lacks (params : Entries Value) (earlier : List ParamDecl) (d : ParamDecl) : Prop where
  noDefault : d.default? = none
  notGiven : d.name ∉ params.keys
  notDeclared : d.name ∉ earlier.map ParamDecl.name

theorem ParamDecl.Lacks.value {params : Entries Value} {d : ParamDecl} (h : d.Lacks params []) :
    d.value opts env params = .error (.missingParameter d.name) := by
  have hget : params.get? d.name = none := by
    have hhas := (not_congr (Entries.has_iff_mem_keys d.name params)).2 h.notGiven
    simpa [Entries.has] using hhas
  simp only [ParamDecl.value, hget, h.noDefault]

/-- A declaration that lacks a value is reported after those before it are bound. -/
theorem bindDecls_lacks {params : Entries Value} {mid : List ParamDecl} {d : ParamDecl} (h : d.Lacks params mid)
    (rest : List ParamDecl) :
    bindDecls opts env (mid ++ d :: rest) params =
      bindDecls opts env mid params >>= fun _ => .error (.missingParameter d.name) := by
  rw [bindDecls_append]
  cases hmid : bindDecls opts env mid params with
  | error e => rfl
  | ok bound =>
    have hnot : d.name ∉ bound.keys := fun hname =>
      ((mem_keys_bindDecls opts env mid params bound hmid d.name).1 hname).elim h.notGiven h.notDeclared
    have hlacks : d.Lacks bound [] := ⟨h.noDefault, hnot, List.not_mem_nil⟩
    change bindDecls opts env (d :: rest) bound = _
    simp only [bindDecls, hlacks.value opts env]
    rfl

end Binding

theorem Env.params_setSlot_params (env : Env) (params : Entries Value) :
    (env.setSlot Slot.params (.object params)).params = params := by
  simp only [Env.params, Env.slotObject?, Env.slot?, Env.setSlot, Entries.get?_insert_self]
  rfl

theorem Env.params_setSlot_of_ne (env : Env) {slot : String} (h : Slot.params ≠ slot) (value : Value) :
    (env.setSlot slot value).params = env.params := by
  simp only [Env.params, Env.slotObject?, Env.slot?, Env.setSlot, Entries.get?_insert_of_ne h]

theorem params_populate (opts : Options) {slot : String} (h : Slot.params ≠ slot) (fields : List Field) (env : Env) :
    Ensures (populate opts slot fields env) fun env' => env'.params = env.params := by
  induction fields generalizing env with
  | nil => exact .ok rfl
  | cons field rest ih =>
    refine .bind_any fun v env' henv' => ?_
    rw [ih _ env' henv', Env.setSlotField, Env.params_setSlot_of_ne _ h]

section Sections

/-- Binds sections of parameters one after the other. -/
def bindSections (opts : Options) (sections : List (List ParamDecl)) (env : Env) : Except Error Env :=
  sections.foldlM (fun env decls => bindParams opts decls env) env

variable (opts : Options)

theorem bindSections_append (a b : List (List ParamDecl)) (env : Env) :
    bindSections opts (a ++ b) env = bindSections opts a env >>= bindSections opts b := List.foldlM_append

theorem mem_keys_bindSections (sections : List (List ParamDecl)) (env : Env) :
    Ensures (bindSections opts sections env) fun env' =>
      ∀ name, name ∈ env'.params.keys ↔ name ∈ env.params.keys ∨ name ∈ sections.flatten.map ParamDecl.name := by
  induction sections generalizing env with
  | nil => exact .ok (by simp)
  | cons decls rest ih =>
    intro env' h name
    obtain ⟨env₁, hfirst, hrest⟩ := bind_eq_ok.1 h
    obtain ⟨bound, hbound, hset⟩ := bind_eq_ok.1 hfirst
    cases hset
    rw [ih _ env' hrest name, Env.params_setSlot_params, mem_keys_bindDecls opts env decls _ bound hbound name]
    simp only [List.flatten_cons, List.map_append, List.mem_append, or_assoc]

theorem bindSections_lacks {full later : List (List ParamDecl)} {mid rest : List ParamDecl} {d : ParamDecl} {env : Env}
    (h : d.Lacks env.params (full.flatten ++ mid)) :
    bindSections opts (full ++ (mid ++ d :: rest) :: later) env = (do
      let env' ← bindSections opts full env
      let _ ← bindDecls opts env' mid env'.params
      .error (.missingParameter d.name)) := by
  rw [bindSections_append]
  cases hfull : bindSections opts full env with
  | error e => rfl
  | ok env' =>
    have hnot := h.notDeclared
    rw [List.map_append, List.mem_append, not_or] at hnot
    have hname : d.name ∉ env'.params.keys := fun hname =>
      ((mem_keys_bindSections opts full env env' hfull d.name).1 hname).elim h.notGiven hnot.1
    change bindSections opts ((mid ++ d :: rest) :: later) env' = bindDecls opts env' mid env'.params >>= _
    simp only [bindSections, List.foldlM_cons, bindParams, bindDecls_lacks opts env' ⟨h.noDefault, hname, hnot.2⟩ rest]
    cases bindDecls opts env' mid env'.params <;> rfl

theorem exists_section_of_flatten {sections : List (List ParamDecl)} {before after : List ParamDecl} {d : ParamDecl}
    (h : sections.flatten = before ++ d :: after) :
    ∃ full mid rest later, sections = full ++ (mid ++ d :: rest) :: later ∧ before = full.flatten ++ mid := by
  induction sections generalizing before with
  | nil => simp at h
  | cons decls sections ih =>
    rw [List.flatten_cons] at h
    rcases List.append_eq_append_iff.1 h with ⟨gap, rfl, hrest⟩ | ⟨gap, rfl, hrest⟩
    · obtain ⟨full, mid, rest, later, rfl, rfl⟩ := ih hrest
      exact ⟨decls :: full, mid, rest, later, rfl, by simp⟩
    · cases gap with
      | nil =>
        -- the declaration is the first of what follows
        have hfirst : sections.flatten = [] ++ d :: after := hrest.symm
        obtain ⟨full, mid, rest, later, rfl, hbefore⟩ := ih hfirst
        exact ⟨(before ++ []) :: full, mid, rest, later, rfl, by simp [List.append_assoc, ← hbefore]⟩
      | cons e gap =>
        cases hrest
        exact ⟨[], before, gap, sections, rfl, rfl⟩

theorem bindSections_error_of_lacks {sections : List (List ParamDecl)} {before after : List ParamDecl} {d : ParamDecl}
    (hsplit : sections.flatten = before ++ d :: after) {env : Env} (h : d.Lacks env.params before) :
    ∃ e, bindSections opts sections env = .error e := by
  obtain ⟨full, mid, rest, later, rfl, rfl⟩ := exists_section_of_flatten hsplit
  rw [bindSections_lacks opts h]
  cases bindSections opts full env with
  | error e => exact ⟨e, rfl⟩
  | ok env' =>
    change ∃ e, (bindDecls opts env' mid env'.params >>= fun _ => Except.error _) = .error e
    cases bindDecls opts env' mid env'.params with
    | error e => exact ⟨e, rfl⟩
    | ok bound => exact ⟨_, rfl⟩

end Sections

def Section.fields : Section → List Field
  | .metadata fields | .context fields | .constraints fields | .output fields => fields
  | _ => []

def Section.declarations : Section → List ParamDecl
  | .params decls => decls
  | _ => []

namespace Prompt

def fieldsOf (p : Prompt) (k : SectionKind) : List Field := (p.ofKind k).flatMap Section.fields

def declarations (p : Prompt) : List (List ParamDecl) := (p.ofKind .params).map Section.declarations

/-- Evaluates all metadata and then all context on the given parameters. -/
def background (opts : Options) (p : Prompt) (params : Entries Value) : Except Error Env := do
  let env ← populate opts Slot.metadata (p.fieldsOf .metadata) (Env.withParams params)
  populate opts Slot.context (p.fieldsOf .context) env

theorem params_background (opts : Options) (p : Prompt) (params : Entries Value) :
    Ensures (p.background opts params) fun env => env.params = params := by
  refine (params_populate opts (by decide) _ _).bind fun env₁ h₁ => ?_
  intro env h
  rw [params_populate opts (by decide) _ env₁ env h, h₁, Env.withParams, Env.params_setSlot_params]

theorem kind_of_mem_ofKind {p : Prompt} {k : SectionKind} {s : Section} (h : s ∈ p.ofKind k) : s.kind = k := by
  simpa using (List.mem_filter.1 h).2

end Prompt

section Early

variable (opts : Options) (host : Host) (resolve : Resolver)

theorem runAll_fields (slot : String) {sections : List Section}
    (h : ∀ s ∈ sections, ∀ p : Progress, s.run opts host resolve p = p.update (populate opts slot s.fields p.env))
    (p : Progress) :
    runAll opts host resolve sections p = p.update (populate opts slot (sections.flatMap Section.fields) p.env) := by
  induction sections generalizing p with
  | nil => rfl
  | cons s rest ih =>
    have hrest := funext (ih fun t ht => h t (List.mem_cons_of_mem s ht))
    rw [List.flatMap_cons, Progress.update_populate_append, ← h s List.mem_cons_self]
    exact congrArg (s.run opts host resolve p >>= ·) hrest

theorem runAll_params {sections : List Section} (h : ∀ s ∈ sections, s.kind = .params) (p : Progress) :
    runAll opts host resolve sections p = p.update (bindSections opts (sections.map Section.declarations) p.env) := by
  induction sections generalizing p with
  | nil => rfl
  | cons s rest ih =>
    have hrest := funext (ih fun t ht => h t (List.mem_cons_of_mem s ht))
    have hs := h s List.mem_cons_self
    cases s with
    | params decls =>
      simp only [List.map_cons, bindSections, List.foldlM_cons, Progress.update_bind]
      exact congrArg (p.update (bindParams opts decls p.env) >>= ·) hrest
    | _ => cases hs

/-- The early sections evaluate metadata and context and bind the parameters; nothing else happens in them. -/
theorem runAll_early (prompt : Prompt) (params : Entries Value) :
    runAll opts host resolve (SectionKind.early.flatMap prompt.ofKind) { env := Env.withParams params } =
      Progress.update { env := Env.withParams params }
        (prompt.background opts params >>= bindSections opts prompt.declarations) := by
  have hmetadata := runAll_fields opts host resolve Slot.metadata fun s (hs : s ∈ prompt.ofKind .metadata) p => by
    have hkind := Prompt.kind_of_mem_ofKind hs
    cases s with
    | metadata fields => rfl
    | _ => cases hkind
  have hcontext := runAll_fields opts host resolve Slot.context fun s (hs : s ∈ prompt.ofKind .context) p => by
    have hkind := Prompt.kind_of_mem_ofKind hs
    cases s with
    | context fields => rfl
    | _ => cases hkind
  have hparams := runAll_params opts host resolve fun s (hs : s ∈ prompt.ofKind .params) => Prompt.kind_of_mem_ofKind hs
  simp only [SectionKind.early, List.flatMap_cons, List.flatMap_nil, List.append_nil, runAll_append]
  rw [hmetadata, Prompt.background, bind_assoc, Progress.update_bind]
  refine congrArg (Progress.update _ _ >>= ·) (funext fun p => ?_)
  rw [runAll_append, hcontext, Progress.update_bind]
  exact congrArg (Progress.update _ _ >>= ·) (funext hparams)

/-- A failure of the early sections ends the run at once. -/
theorem runWith_of_early_error {prompt : Prompt} {params : Entries Value} {e : Error}
    (h : (prompt.background opts params >>= bindSections opts prompt.declarations) = .error e) (log : Log) :
    runWith opts host resolve prompt params log = (.error e, log) := by
  rw [runWith, runSections_eq, runAll_early, h]
  rfl

end Early

/-- Where a declaration has no default and its name is neither given nor declared earlier, the run fails and has asked nothing, whatever
else the prompt contains. If moreover all metadata and context can be evaluated and the declarations before it can be bound, it is
the first such declaration and the error names it. -/
theorem missing_parameter_costs_nothing (opts : Options) (host : Host) (program : Program) (registry : Registry) (levels : Nat)
    (prompt : Prompt) (params : Entries Value) (log : Log) :
    (∀ before d after, prompt.declarations.flatten = before ++ d :: after → d.Lacks params before →
      ∃ e, runPrompt opts host (lookupPrompt program registry) levels prompt params log = (.error e, log)) ∧
    ∀ full mid d rest later env env' bound,
      prompt.declarations = full ++ (mid ++ d :: rest) :: later → d.Lacks params (full.flatten ++ mid) →
      prompt.background opts params = .ok env → bindSections opts full env = .ok env' →
      bindDecls opts env' mid env'.params = .ok bound →
      (∀ before other after, full.flatten ++ mid = before ++ other :: after → ¬ other.Lacks params before) ∧
      runPrompt opts host (lookupPrompt program registry) levels prompt params log =
        (.error (.missingParameter d.name), log) := by
  rw [runPrompt_eq]
  refine ⟨fun before d after hsplit hlacks => ?_, ?_⟩
  · obtain ⟨e, he⟩ : ∃ e, (prompt.background opts params >>= bindSections opts prompt.declarations) = .error e := by
      cases hbackground : prompt.background opts params with
      | error e => exact ⟨e, rfl⟩
      | ok env =>
        have hgiven := prompt.params_background opts params env hbackground
        exact bindSections_error_of_lacks opts hsplit (hgiven ▸ hlacks)
    exact ⟨e, runWith_of_early_error opts host _ he log⟩
  · intro full mid d rest later env env' bound hsections hlacks hbackground hfull hmid
    have hgiven := prompt.params_background opts params env hbackground
    refine ⟨fun before other after hsplit hother => ?_, runWith_of_early_error opts host _ ?_ log⟩
    · -- what is bound lacks nothing
      have hsplit' : (full ++ [mid]).flatten = before ++ other :: after := by simpa using hsplit
      obtain ⟨e, he⟩ := bindSections_error_of_lacks opts hsplit' (hgiven ▸ hother)
      rw [bindSections_append, hfull] at he
      change (bindParams opts mid env' >>= pure) = _ at he
      rw [bindParams, hmid] at he
      cases he
    · rw [hbackground, hsections]
      change bindSections opts _ env = _
      rw [bindSections_lacks opts (hgiven ▸ hlacks), hfull]
      change (bindDecls opts env' mid env'.params >>= fun _ => _) = _
      rw [hmid]
      rfl

section Sample

def requiredText (name : String) : ParamDecl := ⟨name, ⟨.string, false, false⟩, none⟩

/-- A letter that declares its parameters in two sections, after a body that uses another prompt. -/
def letter : Prompt where
  name := "letter"
  sections := [
    .body [.use "heading" [], .text [.text "Dear ", .hole (.ident "audience")]],
    .params [{ requiredText "tone" with default? := some (.str "warm") }],
    .metadata [⟨"title", .call (.ident "echo") [.str "Letter"]⟩],
    .params [requiredText "tone", requiredText "audience", requiredText "sender"]]

/-- The caller gives only a hook, which the metadata calls. -/
def letterParams : Entries Value := [("echo", .function ⟨"echo", "given", [.ret (.ident "given")]⟩)]

/-- The tone is declared before, so the audience is the first parameter that is missing. -/
theorem letter_lacks_audience : ∃ before after,
    letter.declarations.flatten = before ++ requiredText "audience" :: after ∧
    (requiredText "audience").Lacks letterParams before ∧
    runPrompt {} {} (lookupPrompt ⟨[letter]⟩ {}) 16 letter letterParams {} = (.error (.missingParameter "audience"), {}) := by
  let tone : ParamDecl := { requiredText "tone" with default? := some (.str "warm") }
  have hlacks : (requiredText "audience").Lacks letterParams ([[tone]].flatten ++ [requiredText "tone"]) :=
    ⟨rfl, by decide, by decide⟩
  obtain ⟨env, hbackground⟩ : ∃ env, letter.background {} letterParams = .ok env := ⟨_, rfl⟩
  obtain ⟨env', hfull⟩ : ∃ env', bindSections {} [[tone]] env = .ok env' := by
    cases hbackground
    exact ⟨_, rfl⟩
  obtain ⟨bound, hmid⟩ : ∃ bound, bindDecls {} env' [requiredText "tone"] env'.params = .ok bound := by
    cases hbackground
    cases hfull
    exact ⟨_, rfl⟩
  obtain ⟨-, hnamed⟩ := missing_parameter_costs_nothing {} {} ⟨[letter]⟩ {} 16 letter letterParams {}
  exact ⟨_, [requiredText "sender"], rfl, hlacks,
    (hnamed [[tone]] [requiredText "tone"] _ [requiredText "sender"] [] env env' bound rfl hlacks hbackground hfull hmid).2⟩

end Sample

end PromptLang
