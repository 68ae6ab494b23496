import PromptLang.Proofs.Assignment
import PromptLang.Proofs.MentionedNames
import PromptLang.Proofs.MissingParameters

/-! What binding parameters establishes. The given parameters stay as they are and in their places. Behind them come the declared names
that were missing, each with the default of its first declaration, and the value of a declared name is of the type of every
declaration of that name. All defaults of a section are evaluated in the environment from before the section. So a section that
is cut in two binds the same parameters only if no default in the second part depends on what the first part adds. -/

namespace PromptLang

/-! Types of parameters. -/

def BaseType.kind : BaseType → ValueKind
  | .string => .string
  | .number => .number
  | .boolean => .boolean
  | .array => .array
  | .object => .object

inductive ParamType.Holds (t : ParamType) : Value → Prop where
  | null (h : t.isOptional = true) : Holds t .null
  | array {items : List Value} (h : t.isArray = true) (hitems : ∀ item ∈ items, item.kind = t.base.kind) : Holds t (.array items)
  | base {v : Value} (h : t.isArray = false) (hv : v.kind = t.base.kind) : Holds t v

theorem BaseType.accepts_iff (b : BaseType) (v : Value) : b.accepts v = true ↔ v.kind = b.kind := by
  cases b <;> cases v <;> simp [accepts, Value.kind, kind]

theorem BaseType.kind_ne_null (b : BaseType) : b.kind ≠ .null := by
  cases b <;> simp [kind]

theorem ParamType.accepts_iff (t : ParamType) (v : Value) : t.accepts v = true ↔ t.Holds v := by
  constructor
  · intro h
    cases v with
    | null => exact .null h
    | array items =>
      cases harray : t.isArray with
      | true => exact .array harray (by simpa [accepts, harray, BaseType.accepts_iff] using h)
      | false => exact .base harray (by simpa [accepts, harray, BaseType.accepts_iff] using h)
    | _ =>
      obtain ⟨harray, hbase⟩ : t.isArray = false ∧ t.base.accepts _ = true := by simpa [accepts] using h
      exact .base harray ((BaseType.accepts_iff _ _).1 hbase)
  · rintro (h | ⟨harray, hitems⟩ | ⟨harray, hv⟩)
    · exact h
    · simpa [accepts, harray, BaseType.accepts_iff] using hitems
    · cases v with
      | null => exact absurd hv.symm t.base.kind_ne_null
      | _ => simp [accepts, harray, BaseType.accepts_iff, hv]

section Binding

variable (opts : Options) (env : Env)

/-- The value is that of the default of the first declaration of the name. -/
def FirstDefault (decls : List ParamDecl) (name : String) (v : Value) : Prop :=
  ∃ before d after e, decls = before ++ d :: after ∧ d.name = name ∧ name ∉ before.map ParamDecl.name ∧
    d.default? = some e ∧ evaluate opts env e = .ok v

/-- What the declarations have made of the given parameters: they have added entries to them. -/
structure Bound (given : Entries Value) (decls : List ParamDecl) (added : Entries Value) : Prop where
  typed : ∀ d ∈ decls, ∃ v, Entries.get? d.name (given ++ added) = some v ∧ d.type.Holds v
  missing : ∀ name ∈ added.keys, name ∉ given.keys
  distinct : added.keys.Nodup
  defaults : ∀ name v, (name, v) ∈ added → FirstDefault opts env decls name v

variable {opts env} {given added : Entries Value} {decls : List ParamDecl}

theorem Bound.nil (given : Entries Value) : Bound opts env given [] [] :=
  ⟨fun _ hd => absurd hd List.not_mem_nil, fun _ hname => absurd hname List.not_mem_nil, List.nodup_nil,
    fun _ _ hmem => absurd hmem List.not_mem_nil⟩

theorem FirstDefault.append {name : String} {v : Value} (h : FirstDefault opts env decls name v) (more : List ParamDecl) :
    FirstDefault opts env (decls ++ more) name v := by
  obtain ⟨before, d, after, e, rfl, hrest⟩ := h
  exact ⟨before, d, after ++ more, e, by simp, hrest⟩

/-- A name that has a value keeps it, and the value is of the type of one more declaration. -/
theorem Bound.of_present {d : ParamDecl} {v : Value} (h : Bound opts env given decls added)
    (hv : Entries.get? d.name (given ++ added) = some v) (htype : d.type.Holds v) :
    Bound opts env given (decls ++ [d]) added where
  typed other hother := by
    rcases List.mem_append.1 hother with hother | hother
    · exact h.typed other hother
    · cases List.mem_singleton.1 hother
      exact ⟨v, hv, htype⟩
  missing := h.missing
  distinct := h.distinct
  defaults name w hmem := (h.defaults name w hmem).append [d]

/-- A name without a value was not declared before, and gets its default. -/
theorem Bound.of_missing {d : ParamDecl} {e : Expr} {v : Value} (h : Bound opts env given decls added)
    (hnone : Entries.get? d.name (given ++ added) = none) (hdefault : d.default? = some e) (hv : evaluate opts env e = .ok v)
    (htype : d.type.Holds v) : Bound opts env given (decls ++ [d]) (added ++ [(d.name, v)]) := by
  have hkeys : d.name ∉ given.keys ∧ d.name ∉ added.keys := by
    simpa [Entries.keys] using Entries.notMem_keys_of_get? hnone
  have hadded : Entries.keys (added ++ [(d.name, v)]) = added.keys ++ [d.name] := by simp [Entries.keys]
  have hfirst : d.name ∉ decls.map ParamDecl.name := by
    intro hdeclared
    obtain ⟨other, hother, hname⟩ := List.mem_map.1 hdeclared
    obtain ⟨w, hw, -⟩ := h.typed other hother
    rw [hname, hnone] at hw
    cases hw
  refine ⟨fun other hother => ?_, fun name hname => ?_, ?_, fun name w hmem => ?_⟩
  · rw [← List.append_assoc, Entries.get?_append]
    rcases List.mem_append.1 hother with hother | hother
    · obtain ⟨w, hw, hholds⟩ := h.typed other hother
      exact ⟨w, by rw [hw, Option.some_or], hholds⟩
    · cases List.mem_singleton.1 hother
      exact ⟨v, by simp [hnone, Entries.get?], htype⟩
  · rw [hadded, List.mem_append] at hname
    rcases hname with hname | hname
    · exact h.missing name hname
    · cases List.mem_singleton.1 hname
      exact hkeys.1
  · rw [hadded, List.nodup_append]
    refine ⟨h.distinct, by simp, fun name hname other hother heq => ?_⟩
    cases List.mem_singleton.1 hother
    exact hkeys.2 (heq ▸ hname)
  · rcases List.mem_append.1 hmem with hmem | hmem
    · exact (h.defaults name w hmem).append [d]
    · cases List.mem_singleton.1 hmem
      exact ⟨decls, d, [], e, rfl, rfl, hfirst, hdefault, hv⟩

theorem Bound.step {d : ParamDecl} {v : Value} (h : Bound opts env given decls added)
    (hv : d.value opts env (given ++ added) = .ok v) (htype : d.type.accepts v = true) :
    ∃ added', Entries.insert d.name v (given ++ added) = given ++ added' ∧ Bound opts env given (decls ++ [d]) added' := by
  have hholds := (d.type.accepts_iff v).1 htype
  unfold ParamDecl.value at hv
  split at hv
  · next hget =>
    cases hv
    exact ⟨added, Entries.insert_of_get? hget, h.of_present hget hholds⟩
  · next hnone =>
    split at hv
    · next e hdefault =>
      refine ⟨added ++ [(d.name, v)], ?_, h.of_missing hnone hdefault hv hholds⟩
      rw [Entries.insert_of_notMem (Entries.notMem_keys_of_get? hnone), List.append_assoc]
    · cases hv

theorem bindDecls_bound (h : Bound opts env given decls added) (more : List ParamDecl) :
    Ensures (bindDecls opts env more (given ++ added)) fun bound =>
      ∃ added', bound = given ++ added' ∧ Bound opts env given (decls ++ more) added' := by
  induction more generalizing decls added with
  | nil => exact .ok ⟨added, rfl, by rwa [List.append_nil]⟩
  | cons d rest ih =>
    intro bound hbound
    obtain ⟨v, hv, hrest⟩ := bind_eq_ok.1 hbound
    split at hrest
    · next htype =>
      obtain ⟨added', hinsert, hstep⟩ := h.step hv htype
      rw [hinsert] at hrest
      obtain ⟨all, rfl, hall⟩ := ih hstep bound hrest
      exact ⟨all, rfl, by rwa [List.append_assoc] at hall⟩
    · cases hrest

theorem bindParams_bound {env' : Env} (h : bindParams opts decls env = .ok env') :
    ∃ added, env' = env.setSlot Slot.params (.object (env.params ++ added)) ∧ Bound opts env env.params decls added := by
  obtain ⟨bound, hbound, hset⟩ := bind_eq_ok.1 h
  cases hset
  rw [← List.append_nil env.params] at hbound
  obtain ⟨added, rfl, hadded⟩ := bindDecls_bound (.nil env.params) decls bound hbound
  exact ⟨added, rfl, hadded⟩

end Binding

/-- Declared parameters that are bound. Entries are added behind the given ones and nothing else changes. Every declared name has a value,
which is of the type of each declaration of the name; the added names are distinct, were missing and are declared, and have the
default of their first declaration, evaluated in the environment as it was. -/
theorem parameters_fit_their_declarations (opts : Options) (decls : List ParamDecl) (env env' : Env)
    (h : bindParams opts decls env = .ok env') :
    ∃ added : Entries Value, env' = env.setSlot Slot.params (.object (env.params ++ added)) ∧
      env'.slot? Slot.params = some (.object (env.params ++ added)) ∧
      (∀ d ∈ decls, ∃ v, Entries.get? d.name (env.params ++ added) = some v ∧ d.type.Holds v) ∧
      added.keys.Nodup ∧ (∀ name ∈ added.keys, name ∉ env.params.keys) ∧
      ∀ name v, (name, v) ∈ added → ∃ before d after e, decls = before ++ d :: after ∧ d.name = name ∧
        name ∉ before.map ParamDecl.name ∧ d.default? = some e ∧ evaluate opts env e = .ok v := by
  obtain ⟨added, rfl, hbound⟩ := bindParams_bound h
  exact ⟨added, rfl, Env.slot?_setSlot_self _ _ _, hbound.typed, hbound.distinct, hbound.missing, hbound.defaults⟩

/-- A parameter that is declared twice, with a type of its own each time, and one that the caller gives as null. -/
def surveyDecls : List ParamDecl := [
  ⟨"count", ⟨.number, false, false⟩, some (.call (.ident "pick") [.array [.num 3, .num 5]])⟩,
  ⟨"tags", ⟨.string, true, true⟩, none⟩,
  ⟨"count", ⟨.number, false, true⟩, some .null⟩]

def surveyParams : Entries Value :=
  [("tags", .null), ("extra", .bool true), ("pick", .function ⟨"pick", "items", [.ret (.index (.ident "items") (.num 0))]⟩)]

/-- The count is added behind what the caller gives, with the default of its first declaration. -/
theorem survey_fits : ∃ env' : Env, ∃ added : Entries Value,
    bindParams {} surveyDecls (Env.withParams surveyParams) = .ok env' ∧
    env'.slot? Slot.params = some (.object (surveyParams ++ added)) ∧ added = [("count", .num 3)] ∧
    (∀ d ∈ surveyDecls, ∃ v, Entries.get? d.name (surveyParams ++ added) = some v ∧ d.type.Holds v) := by
  obtain ⟨env', hbind, hparams⟩ : ∃ env', bindParams {} surveyDecls (Env.withParams surveyParams) = .ok env' ∧
      env'.slot? Slot.params = some (.object (surveyParams ++ [("count", .num 3)])) := ⟨_, rfl, rfl⟩
  obtain ⟨added, -, hslot, htyped, -⟩ := parameters_fit_their_declarations {} surveyDecls _ env' hbind
  have hadded : added = [("count", .num 3)] := by
    rw [hslot, Option.some.injEq, Value.object.injEq] at hparams
    exact List.append_cancel_left hparams
  exact ⟨env', added, hbind, hslot, hadded, htyped⟩

/-! One section beside two. -/

theorem Env.setSlot_setSlot (env : Env) (name : String) (first second : Value) :
    (env.setSlot name first).setSlot name second = env.setSlot name second := by
  simp only [setSlot, Entries.insert_insert]

theorem Env.slotMember?_params (env : Env) (name : String) : env.slotMember? Slot.params name = env.params.get? name := by
  unfold slotMember? params
  cases env.slotObject? Slot.params <;> rfl

/-- Added parameters change what their own names stand for, and the name of all parameters. -/
theorem Env.resolve?_of_added (env : Env) {added : Entries Value} {name : String} (hname : name ≠ Slot.params)
    (hadded : name ∉ added.keys) (order : List Scope) :
    (env.setSlot Slot.params (.object (env.params ++ added))).resolve? name order = env.resolve? name order := by
  have hlook : (env.setSlot Slot.params (.object (env.params ++ added))).lookIn name = env.lookIn name := by
    funext scope
    cases scope with
    | locals => rfl
    | slots => exact slot?_setSlot_of_ne hname env _
    | params =>
      simp only [lookIn, slotMember?_params, params_setSlot_params, Entries.get?_append, Entries.get?_eq_none hadded, Option.or_none]
    | context | metadata =>
      simp only [lookIn, slotMember?, slotObject?]
      rw [slot?_setSlot_of_ne (by decide)]
  rw [resolve?, hlook, resolve?]

theorem bindDecls_congr (opts : Options) {env env' : Env} {decls : List ParamDecl} {params : Entries Value}
    (h : ∀ d ∈ decls, d.name ∉ params.keys → ∀ e, d.default? = some e → evaluate opts env e = evaluate opts env' e) :
    bindDecls opts env decls params = bindDecls opts env' decls params := by
  induction decls generalizing params with
  | nil => rfl
  | cons d rest ih =>
    have hvalue : d.value opts env params = d.value opts env' params := by
      unfold ParamDecl.value
      split
      · rfl
      · next hnone =>
        split
        · next e hdefault => exact h d List.mem_cons_self (Entries.notMem_keys_of_get? hnone) e hdefault
        · rfl
    have hrest (v : Value) : bindDecls opts env rest (params.insert d.name v) = bindDecls opts env' rest (params.insert d.name v) := by
      refine ih fun other hother hmissing => h other (List.mem_cons_of_mem d hother) fun hmem => hmissing ?_
      rw [Entries.keys_insert]
      split
      · exact hmem
      · exact List.mem_append_left _ hmem
    simp only [bindDecls, hvalue, hrest]

/-- A section of parameters beside the same declarations in two sections. The one section evaluates the defaults of the second part as the
environment was before the first part, where two sections evaluate them after it. They do the same if the defaults that are missing
after the first part evaluate alike before and after it, as they do if they mention neither a parameter that the first part adds
nor the parameters as a whole. -/
theorem merged_declarations_see_the_start (opts : Options) (env : Env) (first second : List ParamDecl) :
    (bindParams opts (first ++ second) env = do
      let env₁ ← bindParams opts first env
      let params ← bindDecls opts env second env₁.params
      return env₁.setSlot Slot.params (.object params)) ∧
    ((∀ env₁, bindParams opts first env = .ok env₁ → ∀ d ∈ second, d.name ∉ env₁.params.keys →
        ∀ e, d.default? = some e → evaluate opts env e = evaluate opts env₁ e) →
      bindParams opts (first ++ second) env = bindParams opts first env >>= bindParams opts second) ∧
    ∀ env₁, bindParams opts first env = .ok env₁ →
      ∀ e : Expr, (∀ name ∈ e.names, name ≠ Slot.params ∧ (name ∈ env₁.params.keys → name ∈ env.params.keys)) →
        evaluate opts env e = evaluate opts env₁ e := by
  have hmerged : bindParams opts (first ++ second) env = (do
      let env₁ ← bindParams opts first env
      let params ← bindDecls opts env second env₁.params
      return env₁.setSlot Slot.params (.object params)) := by
    unfold bindParams
    rw [bindDecls_append]
    cases bindDecls opts env first env.params with
    | error e => rfl
    | ok params =>
      change (bindDecls opts env second params >>= _) = (bindDecls opts env second (Env.params _) >>= _)
      simp only [Env.params_setSlot_params, Env.setSlot_setSlot]
  refine ⟨hmerged, fun halike => ?_, fun env₁ hfirst e hnames => ?_⟩
  · rw [hmerged]
    cases hfirst : bindParams opts first env with
    | error e => rfl
    | ok env₁ =>
      change (bindDecls opts env second env₁.params >>= _) = bindParams opts second env₁
      rw [bindDecls_congr opts (halike env₁ hfirst)]
      rfl
  · obtain ⟨added, rfl, hbound⟩ := bindParams_bound hfirst
    rw [Env.params_setSlot_params] at hnames
    refine Expr.eval_agree _ e fun name hname => (env.resolve?_of_added (hnames name hname).1 (fun hadded => ?_) _).symm
    have hgiven : name ∈ env.params.keys := (hnames name hname).2 (by
      rw [Entries.keys, List.map_append]
      exact List.mem_append_right _ hadded)
    exact hbound.missing name hadded hgiven

def guest : ParamDecl := ⟨"guest", ⟨.string, false, false⟩, some (.str "friend")⟩

def salutation : ParamDecl := ⟨"salutation", ⟨.string, false, false⟩, some (.binary .add (.str "To the ") (.ident "title"))⟩

def farewell : ParamDecl := ⟨"farewell", ⟨.string, false, false⟩, some (.binary .add (.str "Yours, ") (.ident "guest"))⟩

def invitation : Env := Env.empty.setSlotField Slot.context "title" (.str "party")

/-- The salutation does not mention the guest, and is bound alike in one section with it and in a section of its own. -/
theorem invitation_salutation :
    (∀ env₁, bindParams {} [guest] invitation = .ok env₁ → ∀ name ∈ (Expr.binary .add (.str "To the ") (.ident "title")).names,
      name ≠ Slot.params ∧ (name ∈ env₁.params.keys → name ∈ invitation.params.keys)) ∧
    bindParams {} ([guest] ++ [salutation]) invitation = bindParams {} [guest] invitation >>= bindParams {} [salutation] ∧
    ∃ env', bindParams {} ([guest] ++ [salutation]) invitation = .ok env' ∧
      env'.params = [("guest", .str "friend"), ("salutation", .str "To the party")] := by
  obtain ⟨-, halike, hnames⟩ := merged_declarations_see_the_start {} invitation [guest] [salutation]
  have hunrelated : ∀ env₁, bindParams {} [guest] invitation = .ok env₁ →
      ∀ name ∈ (Expr.binary .add (.str "To the ") (.ident "title")).names,
      name ≠ Slot.params ∧ (name ∈ env₁.params.keys → name ∈ invitation.params.keys) := by
    intro env₁ hfirst name hname
    cases hfirst
    cases List.mem_singleton.1 hname
    exact ⟨by decide, fun hmem => absurd hmem (by decide)⟩
  refine ⟨hunrelated, halike fun env₁ hfirst d hd _ e he => ?_, _, rfl, rfl⟩
  cases List.mem_singleton.1 hd
  cases he
  exact hnames env₁ hfirst _ (hunrelated env₁ hfirst)

/-- The farewell names the guest. In a section after the guest's it is bound; in one section with the guest it sees no guest and is
refused, as a text cannot be joined with null. -/
theorem invitation_farewell_differs :
    (∃ env', (bindParams {} [guest] invitation >>= bindParams {} [farewell]) = .ok env' ∧
      env'.params = [("guest", .str "friend"), ("farewell", .str "Yours, friend")]) ∧
    bindParams {} ([guest] ++ [farewell]) invitation = .error (.mismatch (.operands .add .string .null)) :=
  ⟨⟨_, rfl, rfl⟩, rfl⟩

end PromptLang
