import PromptLang.Run

/-! Sequences of computations. A sequence succeeds exactly when its parts do, one after the other. A computation ensures a property when
all results of its successes have it. It keeps the successes of another when each of them is a success of its own with the same
result and the same log. Sequences of such computations are such computations again. -/

namespace PromptLang

variable {α β : Type}

theorem bind_eq_ok {x : Except Error α} {f : α → Except Error β} {b : β} :
    (x >>= f) = .ok b ↔ ∃ a, x = .ok a ∧ f a = .ok b := by
  cases x with
  | error e => simp [bind, Except.bind]
  | ok a => simp [bind, Except.bind]

theorem map_eq_ok {x : Except Error α} {f : α → β} {b : β} (h : x.map f = .ok b) : ∃ a, x = .ok a ∧ f a = b := by
  cases x with
  | error => cases h
  | ok a => exact ⟨a, rfl, Except.ok.inj h⟩

@[simp] theorem mapError_ok (f : String → Error) (a : α) : (.ok a : Except String α).mapError f = .ok a := rfl

@[simp] theorem mapError_error (f : String → Error) (cause : String) :
    (.error cause : Except String α).mapError f = .error (f cause) := rfl

theorem mapError_eq_ok {x : Except String α} {f : String → Error} {a : α} : x.mapError f = .ok a ↔ x = .ok a := by
  cases x <;> simp

theorem mapError_eq_error {x : Except String α} {f : String → Error} {e : Error} :
    x.mapError f = .error e ↔ ∃ cause, x = .error cause ∧ f cause = e := by
  cases x <;> simp

theorem toOption_congr {x y : Except Error α} (h : ∀ a, x = .ok a ↔ y = .ok a) : x.toOption = y.toOption := by
  cases x with
  | ok a => rw [(h a).1 rfl]
  | error e =>
    cases y with
    | ok b => cases (h b).2 rfl
    | error => rfl

/-- If `x` succeeds, its result satisfies `Q`. -/
def Ensures (x : Except Error α) (Q : α → Prop) : Prop := ∀ a, x = .ok a → Q a

namespace Ensures

theorem ok {Q : α → Prop} {a : α} (h : Q a) : Ensures (.ok a) Q := by
  intro b hb
  cases hb
  exact h

theorem error (e : Error) (Q : α → Prop) : Ensures (.error e) Q := by
  intro a h
  cases h

theorem bind_any {x : Except Error α} {f : α → Except Error β} {Q : β → Prop} (hf : ∀ a, Ensures (f a) Q) :
    Ensures (x >>= f) Q := by
  intro b h
  obtain ⟨a, -, hb⟩ := bind_eq_ok.1 h
  exact hf a b hb

theorem bind {x : Except Error α} {P : α → Prop} {f : α → Except Error β} {Q : β → Prop} (hx : Ensures x P)
    (hf : ∀ a, P a → Ensures (f a) Q) : Ensures (x >>= f) Q := by
  intro b h
  obtain ⟨a, ha, hb⟩ := bind_eq_ok.1 h
  exact hf a (hx a ha) b hb

end Ensures

/-- The successes of `x` are successes of `y`. -/
def Keeps (x y : Except Error α) : Prop := ∀ a, x = .ok a → y = .ok a

namespace Keeps

theorem refl (x : Except Error α) : Keeps x x := fun _ h => h

theorem of_error (e : Error) (y : Except Error α) : Keeps (.error e) y := by
  intro a h
  cases h

theorem bind {x y : Except Error α} {f g : α → Except Error β} (hx : Keeps x y) (hf : ∀ a, Keeps (f a) (g a)) :
    Keeps (x >>= f) (y >>= g) := by
  intro b h
  obtain ⟨a, ha, hb⟩ := bind_eq_ok.1 h
  exact bind_eq_ok.2 ⟨a, hx a ha, hf a b hb⟩

theorem map {x y : Except Error α} (hx : Keeps x y) (f : α → β) : Keeps (x.map f) (y.map f) := by
  intro b h
  cases x with
  | error e => cases h
  | ok a => rw [hx a rfl]; exact h

end Keeps

namespace Run

@[simp] theorem liftM_eq (x : Except Error α) : (liftM x : Run α) = ofExcept x := rfl

theorem ofExcept_bind (x : Except Error α) (f : α → Except Error β) :
    ofExcept (x >>= f) = ofExcept x >>= fun a => ofExcept (f a) := by
  cases x <;> rfl

theorem bind_eq_ok {x : Run α} {f : α → Run β} {log log' : Log} {b : β} :
    (x >>= f) log = (.ok b, log') ↔ ∃ a log₁, x log = (.ok a, log₁) ∧ f a log₁ = (.ok b, log') := by
  rw [bind_apply]
  rcases x log with ⟨_ | a, log₁⟩
  · simp
  · simp [and_assoc]

theorem bind_eq_error {x : Run α} {f : α → Run β} {log log' : Log} {e : Error} :
    (x >>= f) log = (.error e, log') ↔
      x log = (.error e, log') ∨ ∃ a log₁, x log = (.ok a, log₁) ∧ f a log₁ = (.error e, log') := by
  rw [bind_apply]
  rcases x log with ⟨_ | a, log₁⟩
  · simp
  · simp [and_assoc]

theorem ofExcept_eq_ok {x : Except Error α} {log log' : Log} {a : α} :
    ofExcept x log = (.ok a, log') ↔ x = .ok a ∧ log = log' := by
  simp

/-- A value that is read before the rest leaves the log as it is. -/
theorem liftM_bind_eq_ok {x : Except Error α} {f : α → Run β} {log log' : Log} {b : β} :
    ((liftM x : Run α) >>= f) log = (.ok b, log') ↔ ∃ a, x = .ok a ∧ f a log = (.ok b, log') := by
  constructor
  · intro h
    obtain ⟨a, log₁, hread, hb⟩ := bind_eq_ok.1 h
    obtain ⟨ha, rfl⟩ := ofExcept_eq_ok.1 hread
    exact ⟨a, ha, hb⟩
  · rintro ⟨a, rfl, hb⟩
    exact hb

def Ensures (x : Run α) (Q : α → Prop) : Prop := ∀ log a log', x log = (.ok a, log') → Q a

namespace Ensures

theorem pure {Q : α → Prop} {a : α} (h : Q a) : Ensures (Pure.pure a) Q := by
  intro log b log' hb
  cases hb
  exact h

theorem fail (e : Error) (Q : α → Prop) : Ensures (fail e) Q := by
  intro log a log' h
  cases h

theorem ofExcept {x : Except Error α} {Q : α → Prop} (h : PromptLang.Ensures x Q) : Ensures (ofExcept x) Q := by
  intro log a log' hx
  exact h a (ofExcept_eq_ok.1 hx).1

theorem bind_any {x : Run α} {f : α → Run β} {Q : β → Prop} (hf : ∀ a, Ensures (f a) Q) : Ensures (x >>= f) Q := by
  intro log b log' h
  obtain ⟨a, log₁, -, hb⟩ := bind_eq_ok.1 h
  exact hf a _ _ _ hb

theorem bind {x : Run α} {P : α → Prop} {f : α → Run β} {Q : β → Prop} (hx : Ensures x P)
    (hf : ∀ a, P a → Ensures (f a) Q) : Ensures (x >>= f) Q := by
  intro log b log' h
  obtain ⟨a, log₁, ha, hb⟩ := bind_eq_ok.1 h
  exact hf a (hx _ _ _ ha) _ _ _ hb

end Ensures

/-- The successes of `x` are successes of `y`, from the same log to the same log. -/
def Keeps (x y : Run α) : Prop := ∀ log a log', x log = (.ok a, log') → y log = (.ok a, log')

namespace Keeps

theorem refl (x : Run α) : Keeps x x := fun _ _ _ h => h

theorem of_fail (e : Error) (y : Run α) : Keeps (fail e) y := by
  intro log a log' h
  cases h

theorem ofExcept {x y : Except Error α} (h : PromptLang.Keeps x y) : Keeps (ofExcept x) (ofExcept y) := by
  intro log a log' hx
  obtain ⟨ha, rfl⟩ := ofExcept_eq_ok.1 hx
  exact ofExcept_eq_ok.2 ⟨h a ha, rfl⟩

theorem bind {x y : Run α} {f g : α → Run β} (hx : Keeps x y) (hf : ∀ a, Keeps (f a) (g a)) :
    Keeps (x >>= f) (y >>= g) := by
  intro log b log' h
  obtain ⟨a, log₁, ha, hb⟩ := bind_eq_ok.1 h
  exact bind_eq_ok.2 ⟨a, log₁, hx _ _ _ ha, hf a _ _ _ hb⟩

end Keeps

end Run

section Questions

variable {host : Host} {constraints : Constraints} {prompt question : String} {log log' : Log} {e : Error}

theorem generate_eq_ok {text : String} : generate host constraints prompt log = (.ok text, log') ↔
    host.provider log.calls ⟨prompt, constraints⟩ = .ok text ∧
      log' = { log with calls := log.calls ++ [⟨prompt, constraints⟩] } := by
  rw [generate_apply, Prod.mk.injEq, mapError_eq_ok, eq_comm (a := log')]

theorem generate_eq_error : generate host constraints prompt log = (.error e, log') ↔
    (∃ cause, host.provider log.calls ⟨prompt, constraints⟩ = .error cause ∧ .providerFailed cause = e) ∧
      log' = { log with calls := log.calls ++ [⟨prompt, constraints⟩] } := by
  rw [generate_apply, Prod.mk.injEq, mapError_eq_error, eq_comm (a := log')]

theorem annotate_eq_error : annotate host question log = (.error e, log') ↔
    (∃ cause, host.annotator log.questions question = .error cause ∧ .providerFailed cause = e) ∧
      log' = { log with questions := log.questions ++ [question] } := by
  rw [annotate, Prod.mk.injEq, mapError_eq_error, eq_comm (a := log')]

end Questions

end PromptLang
