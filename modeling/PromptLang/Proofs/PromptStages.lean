import PromptLang.Proofs.TechniqueSlots

/-! The stages of a run. A successful run of a prompt goes through the sections other than techniques, then through the techniques, and
ends with one call that sends the composed text. Up to the techniques no slot is created: sections write slots that a new
environment has, and whatever a body assigns, a name that is no slot becomes a local one. -/

namespace PromptLang

namespace Env

/-- The slots are those of a new environment. -/
def Initial (env : Env) : Prop := env.slots.keys = empty.slots.keys

theorem Initial.setSlot {env : Env} (h : env.Initial) {name : String} (hname : name ∈ empty.slots.keys) (value : Value) :
    (env.setSlot name value).Initial := by
  have hhas : env.slots.has name = true := (Entries.has_iff_mem_keys name env.slots).2 (h ▸ hname)
  exact (setSlot_sameNames hhas value).slots.trans h

theorem Initial.withParams (params : Entries Value) : (withParams params).Initial :=
  Initial.setSlot rfl (by decide) _

theorem Initial.slot?_eq_none {env : Env} (h : env.Initial) {name : String} (hname : name ∉ empty.slots.keys) :
    env.slot? name = none := by
  have hhas : env.slots.has name = false := by
    rw [Bool.eq_false_iff, ne_eq, Entries.has_iff_mem_keys, h]
    exact hname
  simpa [Entries.has, slot?] using hhas

end Env

/-- A property that survives every write of a slot that a new environment has. -/
def Env.Stable (Q : Env → Prop) : Prop :=
  ∀ (env : Env) (name : String) (value : Value), name ∈ Env.empty.slots.keys → Q env → Q (env.setSlot name value)

theorem Env.Initial.stable : Env.Stable Env.Initial := fun _ _ value hname h => h.setSlot hname value

section Sections

variable (opts : Options) {Q : Env → Prop} (hQ : Env.Stable Q)
include hQ

theorem populate_stable {slot : String} (hslot : slot ∈ Env.empty.slots.keys) (fields : List Field) {env : Env} (h : Q env) :
    Ensures (populate opts slot fields env) Q := by
  induction fields generalizing env with
  | nil => exact .ok h
  | cons field rest ih => exact .bind_any fun v => ih (hQ env slot _ hslot h)

theorem bindParams_stable (decls : List ParamDecl) {env : Env} (h : Q env) : Ensures (bindParams opts decls env) Q :=
  .bind_any fun _ => .ok (hQ env _ _ (by decide) h)

theorem preProcess_stable (prompt : Prompt) {env : Env} (h : Q env) : Ensures (preProcess opts prompt env) Q := by
  unfold preProcess
  split
  · exact .ok h
  · refine .bind_any fun v => ?_
    split
    · exact .ok (hQ env _ _ (by decide) h)
    · exact .ok h
    · exact .error _ _

theorem registerHooks_stable (hooks : List Hook) {env : Env} (h : Q env) : Q (registerHooks hooks env) := by
  induction hooks generalizing env with
  | nil => exact h
  | cons hook rest ih => exact ih (hQ env _ _ (by decide) h)

variable (host : Host) (resolve : Resolver)

/-- What blocks keep as well is kept by every section but techniques, which report no result. -/
theorem Section.run_stable (hblock : ∀ block env, Q env → (Stmt.runBlock opts resolve block env).Ensures fun out => Q out.2)
    {s : Section} (hs : s.kind ≠ .technique) {p : Progress} (h : Q p.env) :
    (s.run opts host resolve p).Ensures fun p' => Q p'.env ∧ p'.techniques = p.techniques := by
  have hupdate {x : Except Error Env} (hx : Ensures x Q) :
      (p.update x).Ensures fun p' => Q p'.env ∧ p'.techniques = p.techniques :=
    (Run.Ensures.ofExcept hx).bind fun _ henv => .pure ⟨henv, rfl⟩
  cases s with
  | metadata fields => exact hupdate (populate_stable opts hQ (by decide) fields h)
  | context fields => exact hupdate (populate_stable opts hQ (by decide) fields h)
  | params decls => exact hupdate (bindParams_stable opts hQ decls h)
  | body block => exact (hblock block p.env h).bind fun _ hout => .pure ⟨hout, rfl⟩
  | constraints fields => exact hupdate (populate_stable opts hQ (by decide) fields h)
  | output fields => exact hupdate (populate_stable opts hQ (by decide) fields h)
  | hooks list => exact .pure ⟨registerHooks_stable hQ list h, rfl⟩
  | technique list => exact absurd rfl hs

end Sections

/-- Nothing but the initial slots, and no technique applied. -/
structure Progress.Fresh (p : Progress) : Prop where
  slots : p.env.Initial
  techniques : p.techniques = []

section Fresh

variable (opts : Options) (host : Host) (resolve : Resolver)

theorem Section.run_fresh {s : Section} (hs : s.kind ≠ .technique) {p : Progress} (h : p.Fresh) :
    (s.run opts host resolve p).Ensures Progress.Fresh := by
  intro log p' log' hrun
  have hblock : ∀ block env, env.Initial → (Stmt.runBlock opts resolve block env).Ensures fun out => out.2.Initial :=
    fun block env henv log out log' hout => (Stmt.runBlock_scoped opts resolve block env log out log' hout).slots.trans henv
  obtain ⟨hslots, htechniques⟩ := run_stable opts Env.Initial.stable host resolve hblock hs h.slots log p' log' hrun
  exact ⟨hslots, htechniques.trans h.techniques⟩

theorem runInOrder_fresh (prompt : Prompt) {sections : List Section} (hs : ∀ s ∈ sections, s.kind ≠ .technique) (pending : Bool)
    {p : Progress} (h : p.Fresh) : (runInOrder opts host resolve prompt pending sections p).Ensures Progress.Fresh := by
  have hpre (due : Bool) {p : Progress} (h : p.Fresh) : (preProcessIf opts prompt due p).Ensures Progress.Fresh := by
    cases due with
    | false => exact .pure h
    | true =>
      exact (Run.Ensures.ofExcept (preProcess_stable opts Env.Initial.stable prompt h.slots)).bind fun _ henv =>
        .pure ⟨henv, h.techniques⟩
  induction sections generalizing pending p with
  | nil => exact hpre pending h
  | cons s rest ih =>
    refine (hpre _ h).bind fun p hp => ?_
    refine (Section.run_fresh opts host resolve (hs s List.mem_cons_self) hp).bind fun p hp => ?_
    exact ih (fun t ht => hs t (List.mem_cons_of_mem s ht)) _ hp

end Fresh

theorem Prompt.kind_of_mem_ordered {prompt : Prompt} {s : Section} (h : s ∈ prompt.withoutTechniques.ordered) :
    s ∈ prompt.sections ∧ s.kind ≠ .technique := by
  have hs := (List.mergeSort_perm prompt.withoutTechniques.sections _).mem_iff.1 h
  simpa [withoutTechniques] using hs

variable {opts : Options} {host : Host} {resolve : Resolver} {prompt : Prompt} {params : Entries Value} {log log' : Log}
  {outcome : Outcome}

theorem runSections_fresh {p : Progress}
    (h : runSections opts host resolve prompt.withoutTechniques (Env.withParams params) log = (.ok p, log')) : p.Fresh := by
  refine runInOrder_fresh opts host resolve _ (fun s hs => ?_) true ⟨Env.Initial.withParams params, rfl⟩ log p log' h
  exact (Prompt.kind_of_mem_ordered hs).2

theorem runWith_eq_ok (h : runWith opts host resolve prompt params log = (.ok outcome, log')) :
    ∃ p log₁ p' log₂,
      runSections opts host resolve prompt.withoutTechniques (Env.withParams params) log = (.ok p, log₁) ∧
      applyTechniques opts host resolve prompt.allTechniques p log₁ = (.ok p', log₂) ∧
      finish opts host prompt.name p' log₂ = (.ok outcome, log') := by
  have hkind : ∀ s ∈ prompt.ofKind .technique, s.kind = .technique := fun s hs => by
    simpa using (List.mem_filter.1 hs).2
  obtain ⟨p', log₂, hsections, hfinish⟩ := Run.bind_eq_ok.1 h
  rw [runSections_techniques_last] at hsections
  obtain ⟨p, log₁, hdeclared, htechniques⟩ := Run.bind_eq_ok.1 hsections
  rw [runAll_techniques opts host resolve hkind, ← prompt.allTechniques_eq] at htechniques
  exact ⟨p, log₁, p', log₂, hdeclared, htechniques, hfinish⟩

/-- The last stage sends the composed text with the constraints that the environment then has, and reports the answer. -/
theorem finish_eq_ok {name : String} {p : Progress} (h : finish opts host name p log = (.ok outcome, log')) :
    outcome.prompt = compose p.env p.body ∧ outcome.body = p.body ∧ outcome.techniques = p.techniques ∧
      ∃ c, p.env.constraints = .ok c ∧ host.provider log.calls ⟨outcome.prompt, c⟩ = .ok outcome.response ∧
        log' = { log with calls := log.calls ++ [⟨outcome.prompt, c⟩] } := by
  obtain ⟨c, log₁, hc, h⟩ := Run.bind_eq_ok.1 h
  obtain ⟨response, log₂, hcall, h⟩ := Run.bind_eq_ok.1 h
  obtain ⟨processed, log₃, hpost, h⟩ := Run.bind_eq_ok.1 h
  obtain ⟨output, log₄, hformat, h⟩ := Run.bind_eq_ok.1 h
  obtain ⟨hparsed, rfl⟩ := Run.ofExcept_eq_ok.1 hc
  obtain ⟨-, rfl⟩ := Run.ofExcept_eq_ok.1 hpost
  obtain ⟨-, rfl⟩ := Run.ofExcept_eq_ok.1 hformat
  cases h
  exact ⟨rfl, rfl, rfl, c, hparsed, generate_eq_ok.1 hcall⟩

end PromptLang
