import PromptLang.Proofs.BlockScoping
import PromptLang.Proofs.SectionLayout

/-! What techniques leave behind. Their blocks run in children of the environment that are dropped, so whatever a block assigns is gone
with it. A technique writes at most one slot, which goes by its kind or, for a reflection, by a name that is not reserved; and
each result is added to the list of techniques. A pass over techniques is described by what was applied, in order: every slot
then holds the last result that was stored in it, or what it held before. -/

namespace PromptLang

namespace Env

def listed (env : Env) : List Value := ((env.slot? Slot.techniques).bind Value.array?).getD []

theorem slot?_push_techniques (env : Env) (value : Value) :
    (env.pushSlotItem Slot.techniques value).slot? Slot.techniques = some (.array (env.listed ++ [value])) :=
  env.slot?_setSlot_self _ _

theorem listed_push_techniques (env : Env) (value : Value) :
    (env.pushSlotItem Slot.techniques value).listed = env.listed ++ [value] := by
  rw [listed, slot?_push_techniques]
  rfl

end Env

namespace Slot

/-- The slots that belong to a kind of technique. -/
def ofKinds : List (String × String) :=
  [("chainOfThought", chainOfThought), ("fewShot", examples), ("zeroShot", instruction)]

/-- The reserved slots that no technique writes. -/
def untouched : List String := [params, metadata, context, constraints, output, hooks]

theorem ofKinds_reserved : ∀ own ∈ ofKinds, isReserved own.2 = true ∧ own.2 ≠ techniques ∧
    ∀ other ∈ ofKinds, other.2 = own.2 → other.1 = own.1 := by
  decide

theorem untouched_reserved : ∀ name ∈ untouched, isReserved name = true ∧ name ≠ techniques ∧ ∀ own ∈ ofKinds, own.2 ≠ name := by
  decide

end Slot

/-- A technique with the environment that it was applied in and its result. -/
structure Applied where
  technique : Technique
  env : Env
  value : Value

namespace Applied

def record (a : Applied) : TechniqueResult := ⟨a.technique.kind, a.value⟩

variable (opts : Options)

/-- The name under which a reflection is stored, read from the settings at the time. -/
def buffer? (a : Applied) : Option String :=
  match a.technique with
  | .byFields .reflection fields => ((Settings.mk opts a.env .reflection fields).text "memoryBuffer").toOption
  | _ => none

/-- The slot that a technique stores its result in. -/
def slot? (a : Applied) : Option String :=
  match a.technique with
  | .chainOfThought _ => some Slot.chainOfThought
  | .fewShot _ => some Slot.examples
  | .byFields .zeroShot _ => some Slot.instruction
  | _ => a.buffer? opts

/-- The environment with the result in its slot, and nothing else changed. -/
def stored (a : Applied) : Env :=
  match a.slot? opts with
  | some slot => a.env.setSlot slot a.value
  | none => a.env

def HasBuffer (a : Applied) : Prop :=
  ∀ fields, a.technique = .byFields .reflection fields → ∃ name, a.buffer? opts = some name ∧ Slot.isReserved name = false

variable {opts}

theorem technique_of_buffer? {a : Applied} {name : String} (h : a.buffer? opts = some name) :
    ∃ fields, a.technique = .byFields .reflection fields := by
  unfold buffer? at h
  split at h
  · next fields ht => exact ⟨fields, ht⟩
  · cases h

theorem HasBuffer.not_reserved {a : Applied} (ha : a.HasBuffer opts) {name : String} (h : a.buffer? opts = some name) :
    Slot.isReserved name = false := by
  obtain ⟨fields, ht⟩ := technique_of_buffer? h
  obtain ⟨buffer, hbuffer, hfree⟩ := ha fields ht
  rw [h] at hbuffer
  cases hbuffer
  exact hfree

/-- Which slot is written: that of the kind, or the buffer. -/
theorem slot?_eq_some_iff {a : Applied} {name : String} :
    a.slot? opts = some name ↔ (a.technique.kind, name) ∈ Slot.ofKinds ∨ a.buffer? opts = some name := by
  obtain ⟨t, env, v⟩ := a
  cases t with
  | byFields method fields => cases method <;> simp [slot?, buffer?, Slot.ofKinds, Technique.kind, Method.kind, eq_comm]
  | _ => simp [slot?, buffer?, Slot.ofKinds, Technique.kind, eq_comm]

theorem slot?_eq_reserved_iff {a : Applied} (ha : a.HasBuffer opts) {name : String} (hname : Slot.isReserved name = true) :
    a.slot? opts = some name ↔ (a.technique.kind, name) ∈ Slot.ofKinds := by
  rw [slot?_eq_some_iff, or_iff_left]
  intro h
  rw [ha.not_reserved h] at hname
  cases hname

theorem slot?_ne_techniques {a : Applied} (ha : a.HasBuffer opts) : a.slot? opts ≠ some Slot.techniques := by
  intro h
  have hown := (slot?_eq_reserved_iff ha (by decide)).1 h
  exact (Slot.ofKinds_reserved _ hown).2.1 rfl

theorem stored_frames (a : Applied) : (a.stored opts).frames = a.env.frames := by
  unfold stored
  split <;> rfl

theorem keys_stored (a : Applied) : a.env.slots.keys <+: (a.stored opts).slots.keys := by
  unfold stored
  split
  · exact Entries.keys_prefix_insert _ _ _
  · exact List.prefix_refl _

theorem slot?_stored (a : Applied) (name : String) :
    (a.stored opts).slot? name = if a.slot? opts = some name then some a.value else a.env.slot? name := by
  unfold stored
  split
  · next slot hslot =>
    rw [hslot]
    by_cases h : slot = name
    · rw [if_pos (congrArg some h), h, Env.slot?_setSlot_self]
    · rw [if_neg fun hsome => h (Option.some.inj hsome), Env.slot?_setSlot_of_ne (Ne.symm h)]
  · next hnone => rw [hnone, if_neg (by simp)]

theorem listed_stored {a : Applied} (ha : a.HasBuffer opts) : (a.stored opts).listed = a.env.listed := by
  rw [Env.listed, slot?_stored, if_neg (slot?_ne_techniques ha)]
  rfl

end Applied

section Step

variable {opts : Options} {host : Host} {resolve : Resolver} {env env' : Env} {log log' : Log} {v : Value}

theorem keeping_eq_ok {x : Run Value} (h : keeping env x log = (.ok (v, env'), log')) : env' = env := by
  obtain ⟨_, _, -, hrest⟩ := Run.bind_eq_ok.1 h
  cases hrest
  rfl

theorem runZeroShot_eq_ok {s : Settings} (h : runZeroShot s = .ok (v, env')) : env' = s.env.setSlot Slot.instruction v := by
  obtain ⟨_, -, hrest⟩ := bind_eq_ok.1 h
  cases hrest
  rfl

theorem runReflection_eq_ok {s : Settings} (h : runReflection host s log = (.ok (v, env'), log')) :
    ∃ buffer, s.text "memoryBuffer" = .ok buffer ∧ Slot.isReserved buffer = false ∧ env' = s.env.setSlot buffer v := by
  obtain ⟨_, _, -, h⟩ := Run.bind_eq_ok.1 h
  obtain ⟨buffer, _, hbuffer, h⟩ := Run.bind_eq_ok.1 h
  split at h
  · cases h
  · next hfree =>
    obtain ⟨_, _, -, h⟩ := Run.bind_eq_ok.1 h
    obtain ⟨_, _, -, h⟩ := Run.bind_eq_ok.1 h
    cases h
    exact ⟨buffer, (Run.ofExcept_eq_ok.1 hbuffer).1, Bool.eq_false_iff.2 hfree, rfl⟩

/-- What one technique does to the environment. -/
theorem Technique.apply_stored {t : Technique} {body : String}
    (h : t.apply opts host resolve body env log = (.ok (v, env'), log')) :
    env' = (Applied.mk t env v).stored opts ∧ (Applied.mk t env v).HasBuffer opts := by
  cases t with
  | chainOfThought steps =>
    obtain ⟨_, _, -, hrest⟩ := Run.bind_eq_ok.1 h
    cases hrest
    exact ⟨rfl, fun _ ht => nomatch ht⟩
  | fewShot examples =>
    obtain ⟨_, _, -, hrest⟩ := Run.bind_eq_ok.1 h
    cases hrest
    exact ⟨rfl, fun _ ht => nomatch ht⟩
  | reWOO planner worker solver => exact ⟨keeping_eq_ok h, fun _ ht => nomatch ht⟩
  | reAct observation thought action => exact ⟨keeping_eq_ok h, fun _ ht => nomatch ht⟩
  | byFields method fields =>
    cases method with
    | zeroShot => exact ⟨runZeroShot_eq_ok (Run.ofExcept_eq_ok.1 h).1, fun _ ht => nomatch ht⟩
    | reflection =>
      obtain ⟨buffer, hbuffer, hfree, rfl⟩ := runReflection_eq_ok h
      have hname : (Applied.mk (.byFields .reflection fields) env v).buffer? opts = some buffer :=
        congrArg Except.toOption hbuffer
      have hslot : (Applied.mk (.byFields .reflection fields) env v).slot? opts = some buffer := hname
      exact ⟨by rw [Applied.stored, hslot], fun _ _ => ⟨buffer, hname, hfree⟩⟩
    | _ => exact ⟨keeping_eq_ok h, fun _ ht => nomatch ht⟩

end Step

/-- Techniques applied one after the other, with the environment and the log before and after. -/
inductive Pass (opts : Options) (host : Host) (resolve : Resolver) (body : String) : Env → Log → List Applied → Env → Log → Prop
  | nil (env : Env) (log : Log) : Pass opts host resolve body env log [] env log
  | cons {t : Technique} {env env₁ env' : Env} {log log₁ log' : Log} {v : Value} {rest : List Applied}
      (head : t.apply opts host resolve body env log = (.ok (v, env₁), log₁))
      (tail : Pass opts host resolve body (env₁.pushSlotItem Slot.techniques (.object [("kind", .str t.kind), ("result", v)])) log₁ rest
        env' log') :
      Pass opts host resolve body env log (⟨t, env, v⟩ :: rest) env' log'

/-- The last result among the applied techniques that satisfy a condition. -/
def lastResult? (p : Applied → Prop) [DecidablePred p] (applied : List Applied) : Option Value :=
  (applied.reverse.find? (decide <| p ·)).map Applied.value

theorem lastResult?_cons (p : Applied → Prop) [DecidablePred p] (a : Applied) (rest : List Applied) :
    lastResult? p (a :: rest) = (lastResult? p rest).or (if p a then some a.value else none) := by
  by_cases ha : p a <;> simp [lastResult?, List.find?_append, ha]

theorem lastResult?_congr {p q : Applied → Prop} [DecidablePred p] [DecidablePred q] {applied : List Applied}
    (h : ∀ a ∈ applied, p a ↔ q a) : lastResult? p applied = lastResult? q applied := by
  induction applied with
  | nil => rfl
  | cons a rest ih =>
    rw [lastResult?_cons, lastResult?_cons, ih fun b hb => h b (List.mem_cons_of_mem a hb)]
    simp only [h a List.mem_cons_self]

theorem lastResult?_eq_none_iff {p : Applied → Prop} [DecidablePred p] {applied : List Applied} :
    lastResult? p applied = none ↔ ∀ a ∈ applied, ¬ p a := by
  rw [lastResult?, Option.map_eq_none_iff, List.find?_eq_none]
  simp

theorem lastResult?_eq_some {p : Applied → Prop} [DecidablePred p] {applied : List Applied} {v : Value}
    (h : lastResult? p applied = some v) : ∃ a ∈ applied, p a ∧ a.value = v := by
  obtain ⟨a, ha, rfl⟩ := Option.map_eq_some_iff.1 h
  exact ⟨a, List.mem_reverse.1 (List.mem_of_find?_eq_some ha), by simpa using List.find?_some ha, rfl⟩

namespace Pass

variable {opts : Options} {host : Host} {resolve : Resolver} {body : String} {env env' : Env} {log log' : Log}
  {applied : List Applied}

theorem applies (h : Pass opts host resolve body env log applied env' log') :
    ∀ a ∈ applied, ∃ log env' log', a.technique.apply opts host resolve body a.env log = (.ok (a.value, env'), log') := by
  induction h with
  | nil => simp
  | cons head _ ih =>
    intro a ha
    rcases List.mem_cons.1 ha with rfl | ha
    · exact ⟨_, _, _, head⟩
    · exact ih a ha

theorem hasBuffer (h : Pass opts host resolve body env log applied env' log') : ∀ a ∈ applied, a.HasBuffer opts := by
  intro a ha
  obtain ⟨_, _, _, happly⟩ := h.applies a ha
  exact (Technique.apply_stored happly).2

theorem frames (h : Pass opts host resolve body env log applied env' log') : env'.frames = env.frames := by
  induction h with
  | nil => rfl
  | cons head _ ih =>
    obtain ⟨rfl, -⟩ := Technique.apply_stored head
    exact ih.trans (Applied.stored_frames _)

theorem keys (h : Pass opts host resolve body env log applied env' log') : env.slots.keys <+: env'.slots.keys := by
  induction h with
  | nil => exact List.prefix_refl _
  | cons head _ ih =>
    obtain ⟨rfl, -⟩ := Technique.apply_stored head
    exact (Applied.keys_stored _).trans ((Entries.keys_prefix_insert _ _ _).trans ih)

/-- Apart from the list of techniques, a slot holds what was last stored in it. -/
theorem slot (h : Pass opts host resolve body env log applied env' log') {name : String} (hname : name ≠ Slot.techniques) :
    env'.slot? name = (lastResult? (·.slot? opts = some name) applied).or (env.slot? name) := by
  induction h with
  | nil => rfl
  | cons head _ ih =>
    obtain ⟨rfl, -⟩ := Technique.apply_stored head
    rw [ih, Env.pushSlotItem, Env.slot?_setSlot_of_ne hname, Applied.slot?_stored, lastResult?_cons, Option.or_assoc]
    split <;> rfl

/-- The results are added to the list of techniques, which is an array as soon as there is one. -/
theorem slot_techniques (h : Pass opts host resolve body env log applied env' log') (hne : applied ≠ []) :
    env'.slot? Slot.techniques = some (.array (env.listed ++ applied.map fun a =>
      .object [("kind", .str a.technique.kind), ("result", a.value)])) := by
  induction h with
  | nil => exact absurd rfl hne
  | @cons t env _ _ _ _ _ v rest head tail ih =>
    obtain ⟨rfl, hbuffer⟩ := Technique.apply_stored head
    have hlisted := Applied.listed_stored hbuffer
    -- the list is an array from the first result on; before it `listed` stands in for whatever the slot held
    cases tail with
    | nil => rw [Env.slot?_push_techniques, hlisted]; rfl
    | cons head' tail' =>
      rw [ih (by simp), Env.listed_push_techniques, hlisted, List.append_assoc]
      rfl

/-- The slot of a kind holds the last result of that kind. -/
theorem slot_of_kind (h : Pass opts host resolve body env log applied env' log') {kind name : String}
    (hown : (kind, name) ∈ Slot.ofKinds) :
    env'.slot? name = (lastResult? (·.technique.kind = kind) applied).or (env.slot? name) := by
  obtain ⟨hname, htechniques, hone⟩ := Slot.ofKinds_reserved _ hown
  have hwriters : ∀ a ∈ applied, a.slot? opts = some name ↔ a.technique.kind = kind := by
    intro a ha
    rw [Applied.slot?_eq_reserved_iff (h.hasBuffer a ha) hname]
    exact ⟨fun hother => hone _ hother rfl, fun hkind => hkind ▸ hown⟩
  rw [h.slot htechniques, lastResult?_congr hwriters]

theorem slot_of_buffer (h : Pass opts host resolve body env log applied env' log') {name : String}
    (hname : Slot.isReserved name = false) :
    env'.slot? name = (lastResult? (·.buffer? opts = some name) applied).or (env.slot? name) := by
  have htechniques : name ≠ Slot.techniques := by
    rintro rfl
    cases hname
  have hwriters : ∀ a ∈ applied, a.slot? opts = some name ↔ a.buffer? opts = some name := by
    intro a _
    rw [Applied.slot?_eq_some_iff, or_iff_right]
    intro hown
    rw [(Slot.ofKinds_reserved _ hown).1] at hname
    cases hname
  rw [h.slot htechniques, lastResult?_congr hwriters]

theorem slot_untouched (h : Pass opts host resolve body env log applied env' log') {name : String}
    (hname : name ∈ Slot.untouched) : env'.slot? name = env.slot? name := by
  obtain ⟨hreserved, htechniques, hfree⟩ := Slot.untouched_reserved name hname
  have hwriters : ∀ a ∈ applied, ¬ a.slot? opts = some name := fun a ha hslot =>
    hfree _ ((Applied.slot?_eq_reserved_iff (h.hasBuffer a ha) hreserved).1 hslot) rfl
  rw [h.slot htechniques, lastResult?_eq_none_iff.2 hwriters, Option.none_or]

end Pass

/-- What techniques change in the environment, and what they leave. -/
structure Touches (opts : Options) (before after : Env) (applied : List Applied) : Prop where
  frames : after.frames = before.frames
  /-- Slots keep their order; new ones come last. -/
  order : before.slots.keys <+: after.slots.keys
  unused : applied = [] → after = before
  techniques : applied ≠ [] → after.slot? Slot.techniques = some (.array (before.listed ++ applied.map fun a =>
    .object [("kind", .str a.technique.kind), ("result", a.value)]))
  examples : after.slot? Slot.examples =
    (lastResult? (·.technique.kind = "fewShot") applied).or (before.slot? Slot.examples)
  instruction : after.slot? Slot.instruction =
    (lastResult? (·.technique.kind = "zeroShot") applied).or (before.slot? Slot.instruction)
  chainOfThought : after.slot? Slot.chainOfThought =
    (lastResult? (·.technique.kind = "chainOfThought") applied).or (before.slot? Slot.chainOfThought)
  buffers : ∀ a ∈ applied, a.HasBuffer opts
  buffered : ∀ name, Slot.isReserved name = false →
    after.slot? name = (lastResult? (·.buffer? opts = some name) applied).or (before.slot? name)
  others : ∀ name ∈ Slot.untouched, after.slot? name = before.slot? name

theorem Pass.touches {opts : Options} {host : Host} {resolve : Resolver} {body : String} {env env' : Env} {log log' : Log}
    {applied : List Applied} (h : Pass opts host resolve body env log applied env' log') : Touches opts env env' applied where
  frames := h.frames
  order := h.keys
  unused := by
    rintro rfl
    cases h
    rfl
  techniques := h.slot_techniques
  examples := h.slot_of_kind (by decide)
  instruction := h.slot_of_kind (by decide)
  chainOfThought := h.slot_of_kind (by decide)
  buffers := h.hasBuffer
  buffered _ := h.slot_of_buffer
  others _ := h.slot_untouched

section Sections

def Section.declaredTechniques : Section → List Technique
  | .technique list => list
  | _ => []

namespace Prompt

def allTechniques (p : Prompt) : List Technique := p.sections.flatMap Section.declaredTechniques

theorem allTechniques_eq (p : Prompt) : p.allTechniques = (p.ofKind .technique).flatMap Section.declaredTechniques := by
  unfold allTechniques ofKind
  induction p.sections with
  | nil => rfl
  | cons s rest ih => cases s <;> simp [Section.kind, Section.declaredTechniques, ih]

/-- The prompt up to its techniques. -/
def withoutTechniques (p : Prompt) : Prompt := { p with sections := p.sections.filter (·.kind ≠ .technique) }

theorem ofKind_withoutTechniques (p : Prompt) {k : SectionKind} (hk : k ≠ .technique) :
    p.withoutTechniques.ofKind k = p.ofKind k := by
  unfold ofKind withoutTechniques
  rw [List.filter_filter]
  refine List.filter_congr fun s _ => ?_
  by_cases hs : s.kind = k <;> simp [hs, hk]

theorem ofKind_technique_withoutTechniques (p : Prompt) : p.withoutTechniques.ofKind .technique = [] := by
  unfold ofKind withoutTechniques
  rw [List.filter_filter, List.filter_eq_nil_iff]
  simp

end Prompt

variable (opts : Options) (host : Host) (resolve : Resolver)

theorem runAll_techniques {sections : List Section} (h : ∀ s ∈ sections, s.kind = .technique) (p : Progress) :
    runAll opts host resolve sections p = applyTechniques opts host resolve (sections.flatMap Section.declaredTechniques) p := by
  induction sections generalizing p with
  | nil => rfl
  | cons s rest ih =>
    have hrest := funext (ih fun t ht => h t (List.mem_cons_of_mem s ht))
    have hs := h s List.mem_cons_self
    cases s with
    | technique list =>
      rw [List.flatMap_cons, applyTechniques_append]
      exact congrArg (applyTechniques opts host resolve list p >>= ·) hrest
    | _ => cases hs

theorem runSections_techniques_last (prompt : Prompt) (env : Env) :
    runSections opts host resolve prompt env =
      runSections opts host resolve prompt.withoutTechniques env >>= runAll opts host resolve (prompt.ofKind .technique) := by
  -- the hook is looked up in the document, where the techniques are missing on one side
  have hpre : preProcess opts prompt.withoutTechniques = preProcess opts prompt := by
    funext env
    simp only [preProcess, Prompt.hook?, Prompt.allHooks_eq, prompt.ofKind_withoutTechniques (by decide : SectionKind.hooks ≠ _)]
  have hearly : SectionKind.early.flatMap prompt.withoutTechniques.ofKind = SectionKind.early.flatMap prompt.ofKind := by
    simp [SectionKind.early, Prompt.ofKind_withoutTechniques]
  have hlate : SectionKind.late.flatMap prompt.ofKind =
      SectionKind.late.flatMap prompt.withoutTechniques.ofKind ++ prompt.ofKind .technique := by
    simp [SectionKind.late, Prompt.ofKind_withoutTechniques, Prompt.ofKind_technique_withoutTechniques]
  rw [runSections_eq, runSections_eq, hpre, hearly, hlate]
  simp only [bind_assoc, funext (runAll_append opts host resolve _ (prompt.ofKind .technique))]

variable {opts host resolve}

theorem applyTechniques_pass {ts : List Technique} {p p' : Progress} {log log' : Log}
    (h : applyTechniques opts host resolve ts p log = (.ok p', log')) :
    ∃ applied, Pass opts host resolve p.body p.env log applied p'.env log' ∧ applied.map Applied.technique = ts ∧
      p'.body = p.body ∧ p'.techniques = p.techniques ++ applied.map Applied.record := by
  induction ts generalizing p log with
  | nil =>
    cases h
    exact ⟨[], .nil _ _, rfl, rfl, (List.append_nil _).symm⟩
  | cons t rest ih =>
    obtain ⟨⟨v, env₁⟩, log₁, head, h⟩ := Run.bind_eq_ok.1 h
    obtain ⟨applied, tail, hts, hbody, hresults⟩ := ih h
    refine ⟨⟨t, p.env, v⟩ :: applied, .cons head tail, congrArg (t :: ·) hts, hbody, ?_⟩
    rw [hresults, List.append_assoc]
    rfl

/-- The techniques come last in a run of sections. A successful pass over them applies them in document order and reports one result
each, and it changes the environment in the slots of these techniques only. -/
theorem techniques_touch_their_own (opts : Options) (host : Host) (resolve : Resolver) (prompt : Prompt) :
    (∀ env, runSections opts host resolve prompt env =
      runSections opts host resolve prompt.withoutTechniques env >>= runAll opts host resolve (prompt.ofKind .technique)) ∧
    ∀ (p p' : Progress) (log log' : Log), runAll opts host resolve (prompt.ofKind .technique) p log = (.ok p', log') →
      ∃ applied, Pass opts host resolve p.body p.env log applied p'.env log' ∧
        applied.map Applied.technique = prompt.allTechniques ∧
        p'.body = p.body ∧ p'.techniques = p.techniques ++ applied.map Applied.record ∧
        Touches opts p.env p'.env applied := by
  refine ⟨runSections_techniques_last opts host resolve prompt, fun p p' log log' h => ?_⟩
  have hkind : ∀ s ∈ prompt.ofKind .technique, s.kind = .technique := fun s hs => by
    simpa using (List.mem_filter.1 hs).2
  rw [runAll_techniques opts host resolve hkind, ← prompt.allTechniques_eq] at h
  obtain ⟨applied, hpass, hts, hbody, hresults⟩ := applyTechniques_pass h
  exact ⟨applied, hpass, hts, hbody, hresults, hpass.touches⟩

end Sections

def remember (question : String) : Technique :=
  .byFields .reflection [⟨"reflectionPrompt", .str question⟩, ⟨"memoryBuffer", .str "memo"⟩]

/-- Two sections of techniques. The blocks of the first assign to slots of the interpreter and to a name of the body. -/
def meddling : Prompt where
  name := "main"
  sections := [
    .technique [
      .chainOfThought [("think", [
        .assign (.ident "context") (.str "gone"), .assign (.ident "techniques") .null, .assign (.ident "note") (.str "gone"),
        .text [.text "Think."]])],
      remember "Why?"],
    .technique [.fewShot [([.text [.text "1 + 1"]], [.assign (.ident "chainOfThought") .null])], remember "Why not?"]]

def echoHost : Host where
  provider _ call := .ok call.prompt

/-- The body's binding and the context survive the blocks, four results are listed, and the later reflection is the one remembered. -/
theorem meddling_touches : ∃ p' log' applied,
    runAll {} echoHost noPrompts (meddling.ofKind .technique) { env := Env.empty.bind "note" (.str "kept") } {} = (.ok p', log') ∧
      Touches {} (Env.empty.bind "note" (.str "kept")) p'.env applied ∧ applied.length = 4 ∧
      p'.env.local? "note" = some (.str "kept") ∧ p'.env.slot? Slot.context = some (.object []) ∧
      p'.env.slot? "memo" = some (.str "Why not?") ∧
      p'.env.slot? Slot.techniques = some (.array [
        .object [("kind", .str "chainOfThought"), ("result", .array [.str "Step: think\nThink."])],
        .object [("kind", .str "reflection"), ("result", .str "Why?")],
        .object [("kind", .str "fewShot"), ("result", .array [.object [("input", .str "1 + 1"), ("output", .str "")]])],
        .object [("kind", .str "reflection"), ("result", .str "Why not?")]]) := by
  obtain ⟨p', log', hrun, hmemo, hlisted⟩ : ∃ p' log', runAll {} echoHost noPrompts (meddling.ofKind .technique)
      { env := Env.empty.bind "note" (.str "kept") } {} = (.ok p', log') ∧ p'.env.slot? "memo" = some (.str "Why not?") ∧
      p'.env.slot? Slot.techniques = some (.array [
        .object [("kind", .str "chainOfThought"), ("result", .array [.str "Step: think\nThink."])],
        .object [("kind", .str "reflection"), ("result", .str "Why?")],
        .object [("kind", .str "fewShot"), ("result", .array [.object [("input", .str "1 + 1"), ("output", .str "")]])],
        .object [("kind", .str "reflection"), ("result", .str "Why not?")]]) := ⟨_, _, rfl, rfl, rfl⟩
  obtain ⟨-, hpass⟩ := techniques_touch_their_own {} echoHost noPrompts meddling
  obtain ⟨applied, -, htechniques, -, -, htouches⟩ := hpass _ _ _ _ hrun
  refine ⟨p', log', applied, hrun, htouches, ?_, ?_, htouches.others _ (by decide), hmemo, hlisted⟩
  · rw [← applied.length_map, htechniques]
    rfl
  · rw [Env.local?, htouches.frames]
    rfl

end PromptLang
