import PromptLang.Proofs.Parametric

/-! Properties of computations that pass from the parts to the whole. A property is compositional when it holds of what asks nothing and
fails locally at most, and of a sequence whose parts have it. If the host's answers and the uses of other prompts have such a
property, then so has every technique, section and prompt. A property is a relation that does not look at the second of two runs,
so the walk through the interpreter is that of the relations. -/

namespace PromptLang

/-- Holds without questions to the host and is kept by sequences. -/
structure Compositional (P : ∀ α : Type, Run α → Prop) : Prop where
  ofExcept : ∀ {α : Type} {x : Except Error α}, FailsLocally x → P α (Run.ofExcept x)
  bind : ∀ {α β : Type} {x : Run α} {f : α → Run β}, P α x → (∀ a, P β (f a)) → P β (x >>= f)

/-- The property holds of every question to the host, and of batches with at most `limit` calls in flight. -/
structure Host.Has (host : Host) (limit : Nat) (P : ∀ α : Type, Run α → Prop) : Prop where
  generate : ∀ constraints prompt, P String (generate host constraints prompt)
  generateAll : ∀ constraints prompts, P (List String) (generateAll host limit constraints prompts)
  annotate : ∀ question, P String (annotate host question)

/-- The property holds of every prompt that is found, and of the failure where none is. -/
structure Resolver.Has (resolve : Resolver) (P : ∀ α : Type, Run α → Prop) : Prop where
  found : ∀ name run, resolve name = .ok run → ∀ params, P String (run params)
  failed : ∀ name e, resolve name = .error e → ∀ α : Type, P α (Run.fail e)

section

variable {P : ∀ α : Type, Run α → Prop} {opts : Options}

theorem Compositional.congruence (h : Compositional P) : Congruence fun α x _ => P α x where
  ofExcept hx := h.ofExcept hx.isLocal
  bind := h.bind

theorem Host.Has.related {host : Host} {limit : Nat} (h : host.Has limit P) :
    host.Related host limit (fun _ => True) fun α x _ => P α x where
  generate constraints _ prompt := h.generate constraints prompt
  generateAll constraints _ prompts := h.generateAll constraints prompts
  annotate := h.annotate

theorem Resolver.Has.related {resolve : Resolver} (h : resolve.Has P) : resolve.Related resolve fun α x _ => P α x := by
  intro name
  cases hfound : resolve name with
  | ok run => exact .inl ⟨run, run, rfl, rfl, h.found name run hfound⟩
  | error e => exact .inr ⟨e, e, rfl, rfl, h.failed name e hfound⟩

/-- Techniques that hold blocks ask the host through their blocks only. -/
theorem Technique.apply_has_of_blocks (h : Compositional P) {resolve : Resolver} (hr : resolve.Has P) {t : Technique}
    (ht : t.kind ∈ Technique.blockKinds) (opts : Options) (host : Host) (body : String) (env : Env) :
    P _ (t.apply opts host resolve body env) :=
  Technique.apply_related_of_blocks h.congruence (.refl opts) hr.related ht host host body env

end

end PromptLang
