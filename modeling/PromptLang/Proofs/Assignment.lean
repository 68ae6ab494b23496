import PromptLang.Eval.Hook
import PromptLang.Proofs.Computation
import PromptLang.Proofs.PathWrites

/-! What an assignment makes visible. It looks for its name in the frames and then among the slots, while an identifier is looked up in
the frames, the parameters, the slots, the context and the metadata. So the value assigned to a name is read back, unless a
parameter of that name stands before the slot that was written. An assignment below a name keeps the other members that are
read through the name, unless the name stands for a member of the parameters, the context or the metadata, which an assignment
does not start from, or the assignment changes which value the name `params` stands for. -/

namespace PromptLang

namespace Env

/-! The value of a name after an assignment. -/

theorem updateFrames_eq_none_iff {name : String} {value : Value} {frames : List (Entries Value)} :
    updateFrames name value frames = none ↔ frames.findSome? (Entries.get? name) = none := by
  induction frames with
  | nil => simp [updateFrames]
  | cons frame outer ih =>
    cases hget : frame.get? name <;> simp [updateFrames, Entries.has, hget, ih]

theorem findSome?_updateFrames {name : String} {value : Value} {frames frames' : List (Entries Value)}
    (h : updateFrames name value frames = some frames') (other : String) :
    frames'.findSome? (Entries.get? other) = if other = name then some value else frames.findSome? (Entries.get? other) := by
  induction frames generalizing frames' with
  | nil => cases h
  | cons frame outer ih =>
    rw [updateFrames] at h
    split at h
    · cases h
      by_cases hother : other = name
      · simp [hother, Entries.get?_insert_self]
      · simp [hother, List.findSome?_cons, Entries.get?_insert_of_ne hother]
    · next hhas =>
      obtain ⟨outer', houter, rfl⟩ := Option.map_eq_some_iff.1 h
      have hframe : frame.get? name = none := by simpa [Entries.has] using hhas
      rw [List.findSome?_cons, List.findSome?_cons, ih houter]
      by_cases hother : other = name
      · simp [hother, hframe]
      · simp [hother]

theorem local?_bind (env : Env) (name : String) (value : Value) (other : String) :
    (env.bind name value).local? other = if other = name then some value else env.local? other := by
  unfold bind
  by_cases hother : other = name
  · subst hother
    cases hframes : env.frames <;> simp [local?, Entries.get?_insert_self]
  · cases hframes : env.frames <;> simp [local?, hframes, hother, List.findSome?_cons, Entries.get?_insert_of_ne hother]

theorem slots_bind (env : Env) (name : String) (value : Value) : (env.bind name value).slots = env.slots := by
  unfold bind
  cases env.frames <;> rfl

/-- An assignment writes a local binding, or the slot of a name that no frame binds. -/
theorem assign_cases (env : Env) (name : String) (value : Value) :
    ((env.local? name ≠ none ∨ env.slot? name = none) ∧ (env.assign name value).slots = env.slots ∧
      ∀ other, (env.assign name value).local? other = if other = name then some value else env.local? other) ∨
    (env.local? name = none ∧ env.slot? name ≠ none ∧ env.assign name value = env.setSlot name value) := by
  unfold assign
  cases hupdate : updateFrames name value env.frames with
  | some frames =>
    refine .inl ⟨.inl fun hnone => ?_, rfl, findSome?_updateFrames hupdate⟩
    rw [updateFrames_eq_none_iff.2 hnone] at hupdate
    cases hupdate
  | none =>
    have hlocal : env.local? name = none := updateFrames_eq_none_iff.1 hupdate
    cases hslot : env.slot? name with
    | some old =>
      have hhas : env.slots.has name = true := by rw [Entries.has, show env.slots.get? name = some old from hslot]; rfl
      exact .inr ⟨hlocal, Option.some_ne_none old, if_pos hhas⟩
    | none =>
      have hhas : ¬ env.slots.has name = true := by simp [Entries.has, show env.slots.get? name = none from hslot]
      dsimp only
      rw [if_neg hhas]
      exact .inl ⟨.inr rfl, slots_bind env name value, local?_bind env name value⟩

theorem current?_assign (env : Env) (name : String) (value : Value) (other : String) :
    (env.assign name value).current? other = if other = name then some value else env.current? other := by
  rcases assign_cases env name value with ⟨-, hslots, hlocal⟩ | ⟨hlocal, -, hassign⟩
  · rw [current?, hlocal, slot?, hslots]
    by_cases hother : other = name <;> simp [hother, current?, slot?]
  · rw [hassign, current?]
    by_cases hother : other = name
    · subst hother
      rw [slot?_setSlot_self, show (env.setSlot other value).local? other = none from hlocal]
      simp
    · rw [slot?_setSlot_of_ne hother, if_neg hother]
      rfl

theorem resolve?_cons (env : Env) (name : String) (scope : Scope) (order : List Scope) :
    env.resolve? name (scope :: order) = (env.lookIn name scope).or (env.resolve? name order) := by
  rw [resolve?, List.findSome?_cons]
  cases env.lookIn name scope <;> rfl

theorem resolve?_of_unbound {env : Env} {name : String} (h : env.local? name = none) :
    env.resolve? name Scope.defaultOrder = (env.slotMember? Slot.params name).or
      ((env.slot? name).or (env.resolve? name [.context, .metadata])) := by
  rw [Scope.defaultOrder, resolve?_cons, lookIn, h, Option.none_or, resolve?_cons, resolve?_cons]
  rfl

theorem resolve?_of_bound {env : Env} {name : String} {value : Value} (h : env.local? name = some value) :
    env.resolve? name Scope.defaultOrder = some value := by
  rw [Scope.defaultOrder, resolve?_cons, lookIn, h, Option.some_or]

theorem local?_eq_none_iff {env : Env} {name : String} :
    env.local? name = none ↔ ∀ frame ∈ env.frames, name ∉ Entries.keys frame := by
  rw [local?, List.findSome?_eq_none_iff]
  exact forall₂_congr fun frame _ => ⟨Entries.notMem_keys_of_get?, Entries.get?_eq_none⟩

theorem slot?_ne_none_iff {env : Env} {name : String} : env.slot? name ≠ none ↔ name ∈ env.slots.keys := by
  constructor
  · intro hslot
    exact Decidable.byContradiction fun hmem => hslot (Entries.get?_eq_none hmem)
  · intro hmem hnone
    exact Entries.notMem_keys_of_get? hnone hmem

/-- The parameter that hides a value assigned to a name: no frame binds the name, so that its slot was written, and after the
assignment the parameters are an object that has the name. -/
structure Hides (env : Env) (name : String) (value param : Value) : Prop where
  unbound : ∀ frame ∈ env.frames, name ∉ Entries.keys frame
  isSlot : name ∈ env.slots.keys
  isParam : ∃ params, (env.assign name value).slot? Slot.params = some (.object params) ∧ Entries.get? name params = some param

theorem slotMember?_eq_some_iff {env : Env} {slot name : String} {value : Value} :
    env.slotMember? slot name = some value ↔
      ∃ members, env.slot? slot = some (.object members) ∧ Entries.get? name members = some value := by
  rw [slotMember?, Option.bind_eq_some_iff]
  refine exists_congr fun members => and_congr_left fun _ => ?_
  rw [slotObject?, Option.bind_eq_some_iff]
  constructor
  · rintro ⟨v, hslot, hobject⟩
    cases v <;> cases hobject
    exact hslot
  · intro hslot
    exact ⟨_, hslot, rfl⟩

/-- What was assigned is the value that later assignments start from, and it is what the name stands for, except where a parameter
hides it. -/
theorem assigned_value_is_read (env : Env) (name : String) (value : Value) :
    (env.assign name value).current? name = some value ∧
    (∀ other, other ≠ name → (env.assign name value).current? other = env.current? other) ∧
    ((∀ param, ¬ env.Hides name value param) → (env.assign name value).resolve? name Scope.defaultOrder = some value) ∧
    ∀ param, env.Hides name value param → (env.assign name value).resolve? name Scope.defaultOrder = some param := by
  refine ⟨by simp [current?_assign], fun other hother => by simp [current?_assign, hother], ?_⟩
  rcases assign_cases env name value with ⟨hwhere, -, hlocal⟩ | ⟨hunbound, hslot, hassign⟩
  · refine ⟨fun _ => resolve?_of_bound (by simp [hlocal]), fun param hhides => ?_⟩
    rcases hwhere with hbound | hfree
    · exact absurd (local?_eq_none_iff.2 hhides.unbound) hbound
    · exact absurd hfree (slot?_ne_none_iff.2 hhides.isSlot)
  · have hread : (env.assign name value).resolve? name Scope.defaultOrder =
        ((env.assign name value).slotMember? Slot.params name).or (some value) := by
      have hstill : (env.setSlot name value).local? name = none := hunbound
      rw [hassign, resolve?_of_unbound hstill, slot?_setSlot_self, Option.some_or]
    rw [hread]
    refine ⟨fun hnone => ?_, fun param hhides => by rw [slotMember?_eq_some_iff.2 hhides.isParam, Option.some_or]⟩
    cases hparam : (env.assign name value).slotMember? Slot.params name with
    | none => rfl
    | some param =>
      exact absurd ⟨local?_eq_none_iff.1 hunbound, slot?_ne_none_iff.1 hslot, slotMember?_eq_some_iff.1 hparam⟩ (hnone param)

/-- A parameter and a slot of one name: the parameter hides what is assigned to the slot, and a loop variable of that name is read
back. -/
theorem notes_read :
    let env := (Env.withParams [("notes", .str "given")]).setSlot "notes" (.str "kept")
    env.Hides "notes" (.str "new") (.str "given") ∧
      (env.assign "notes" (.str "new")).resolve? "notes" Scope.defaultOrder = some (.str "given") ∧
      (env.assign "notes" (.str "new")).current? "notes" = some (.str "new") ∧
      (env.assign "notes" (.str "new")).current? "hooks" = some (.object []) ∧
      (∀ param, ¬ (env.extend "notes" .null).Hides "notes" (.str "new") param) ∧
      ((env.extend "notes" .null).assign "notes" (.str "new")).resolve? "notes" Scope.defaultOrder = some (.str "new") := by
  intro env
  have hhides : env.Hides "notes" (.str "new") (.str "given") :=
    ⟨fun frame hframe => absurd hframe List.not_mem_nil, by decide, _, rfl, rfl⟩
  have hbound : ∀ param, ¬ (env.extend "notes" .null).Hides "notes" (.str "new") param := fun param h =>
    h.unbound [("notes", .null)] (List.mem_cons_self ..) (by decide)
  obtain ⟨hcurrent, hother, -, hhidden⟩ := assigned_value_is_read env "notes" (.str "new")
  obtain ⟨-, -, hread, -⟩ := assigned_value_is_read (env.extend "notes" .null) "notes" (.str "new")
  exact ⟨hhides, hhidden _ hhides, hcurrent, hother "hooks" (by decide), hbound, hread hbound⟩

/-! Members of a name after an assignment below it. -/

def read (env : Env) (name : String) : Value := (env.resolve? name Scope.defaultOrder).getD .null

/-- The name is found only where an assignment does not look: in the parameters, the context or the metadata. -/
def Borrowed (env : Env) (name : String) : Prop :=
  env.current? name = none ∧ env.resolve? name Scope.defaultOrder ≠ none

/-- A write below the parameters that decides what `params` stands for when the member `m` is read. A parameter that is itself called
`params` is found before the slot, so a write to it counts where it is new, replaced or written at `m`. -/
structure Redirects (env : Env) (root key : String) (keys : List String) (m : String) : Prop where
  root : root = Slot.params
  key : key = Slot.params
  unbound : env.local? Slot.params = none
  isSlot : env.slot? Slot.params ≠ none
  seen : env.slotMember? Slot.params Slot.params = none ∨ ∀ next, keys.head? = some next → next = m

theorem member_writable (env : Env) (root m : String) :
    (env.writable root).member m = ((env.current? root).getD .null).member m := by
  unfold writable
  split
  · next h => rw [h]; rfl
  · next h => rw [h]; rfl
  · next v _ h => rw [h]; rfl

theorem slotMember?_of_writable {env : Env} {slot : String} (hunbound : env.local? slot = none) {members : Entries Value}
    (h : env.writable slot = .object members) (name : String) : env.slotMember? slot name = members.get? name := by
  have hcurrent : env.current? slot = env.slot? slot := by rw [current?, hunbound, Option.none_or]
  unfold writable at h
  rw [hcurrent] at h
  rw [slotMember?, slotObject?]
  split at h
  · next hslot => cases h; rw [hslot]; rfl
  · next hslot => cases h; rw [hslot]; rfl
  · next hslot => rw [hslot, h]; rfl

section MemberAssignment

variable {env : Env} {root key : String} {keys : List String} {value : Value}

/-- What a write at `root.key`, and below it at `keys`, leaves of the value that it starts from. -/
def written (env : Env) (root key : String) (keys : List String) (value : Value) : Value.Written :=
  Value.setPath value (.key key :: keys.map .key) (env.writable root)

theorem member_written {m : String} (hm : m ≠ key) (h : (env.written root key keys value).error? = none) :
    (env.written root key keys value).value.member m = ((env.current? root).getD .null).member m :=
  (Value.member_setPath_of_ne h hm).trans (member_writable env root m)

/-- The name goes on to stand for the written value, where it stood for the value that the write started from. -/
theorem read_assign_of_bound {old : Value} (hold : env.local? root = some old) (v : Value) :
    (env.assign root v).read root = v ∧ env.read root = (env.current? root).getD .null := by
  rcases assign_cases env root v with ⟨-, -, hlocal⟩ | ⟨hunbound, -⟩
  · have hbound : (env.assign root v).local? root = some v := by rw [hlocal, if_pos rfl]
    rw [read, read, resolve?_of_bound hbound, resolve?_of_bound hold, current?, hold]
    exact ⟨rfl, rfl⟩
  · rw [hold] at hunbound
    cases hunbound

theorem read_assign_of_absent (habsent : env.current? root = none) (v : Value) : (env.assign root v).read root = v := by
  rcases assign_cases env root v with ⟨-, -, hlocal⟩ | ⟨hunbound, hslot, -⟩
  · have hbound : (env.assign root v).local? root = some v := by rw [hlocal, if_pos rfl]
    rw [read, resolve?_of_bound hbound]
    rfl
  · rw [current?, hunbound, Option.none_or] at habsent
    exact absurd habsent hslot

theorem assign_of_slot (hunbound : env.local? root = none) (hslot : env.slot? root ≠ none) (v : Value) :
    env.assign root v = env.setSlot root v := by
  rcases assign_cases env root v with ⟨hbound | hfree, -⟩ | ⟨-, -, hassign⟩
  · exact absurd hunbound hbound
  · exact absurd hfree hslot
  · exact hassign

/-- Where the assignment goes to a slot, the name stands for the slot or for a parameter before and after it. -/
theorem member_read_of_slot {m : String} (hunbound : env.local? root = none) (hslot : env.slot? root ≠ none) (hm : m ≠ key)
    (h : (env.written root key keys value).error? = none)
    (hparam : (env.setSlot root (env.written root key keys value).value).slotMember? Slot.params root =
      env.slotMember? Slot.params root) :
    ((env.setSlot root (env.written root key keys value).value).read root).member m = (env.read root).member m := by
  have hstill : (env.setSlot root (env.written root key keys value).value).local? root = none := hunbound
  rw [read, read, resolve?_of_unbound hstill, resolve?_of_unbound hunbound, hparam, slot?_setSlot_self]
  cases env.slotMember? Slot.params root with
  | some param => rfl
  | none =>
    obtain ⟨old, hold⟩ := Option.ne_none_iff_exists'.1 hslot
    have hcurrent : env.current? root = some old := by rw [current?, hunbound, Option.none_or, hold]
    rw [Option.none_or, Option.none_or, hold, Option.some_or, Option.some_or, Option.getD_some, member_written hm h, hcurrent]

/-- A write below the parameters changes the parameter at its first key, by a write that starts from that parameter. -/
theorem slotMember?_written (hunbound : env.local? Slot.params = none)
    (h : (env.written Slot.params key keys value).error? = none) :
    ∃ members, (∀ name, env.slotMember? Slot.params name = Entries.get? name members) ∧
      (Value.setPath value (keys.map .key) ((members.get? key).getD (Value.fresh (keys.map .key)))).error? = none ∧
      ∀ name, (env.setSlot Slot.params (env.written Slot.params key keys value).value).slotMember? Slot.params name =
        (members.insert key
          (Value.setPath value (keys.map .key) ((members.get? key).getD (Value.fresh (keys.map .key)))).value).get? name := by
  obtain ⟨hadmits, hinner⟩ := Value.setPath_cons_succeeds h
  cases hwritable : env.writable Slot.params with
  | object members =>
    rw [hwritable] at hinner
    refine ⟨members, slotMember?_of_writable hunbound hwritable, hinner, fun name => ?_⟩
    rw [slotMember?, slotObject?, slot?_setSlot_self, written, hwritable]
    rfl
  | _ => rw [hwritable] at hadmits; cases hadmits

theorem read_params_written (hunbound : env.local? Slot.params = none) {own : Value}
    (hown : (env.setSlot Slot.params value).slotMember? Slot.params Slot.params = some own) :
    (env.setSlot Slot.params value).read Slot.params = own := by
  have hstill : (env.setSlot Slot.params value).local? Slot.params = none := hunbound
  rw [read, resolve?_of_unbound hstill, hown]
  rfl

/-- A slot that is written at another member than the one read, in all cases but the redirected ones. -/
theorem member_read_of_not_redirects {m : String} (hunbound : env.local? root = none) (hslot : env.slot? root ≠ none)
    (hm : m ≠ key) (h : (env.written root key keys value).error? = none) (hstays : ¬ env.Redirects root key keys m) :
    ((env.setSlot root (env.written root key keys value).value).read root).member m = (env.read root).member m := by
  by_cases hroot : root = Slot.params
  · subst hroot
    obtain ⟨members, hbefore, hinner, hafter⟩ := slotMember?_written hunbound h
    by_cases hkey : key = Slot.params
    · subst hkey
      -- the parameter `params` was there, and is written at a member other than `m`
      have hseen := fun hseen => hstays ⟨rfl, rfl, hunbound, hslot, hseen⟩
      obtain ⟨own, hown⟩ := Option.ne_none_iff_exists'.1 fun hnone => hseen (.inl hnone)
      have hread : env.read Slot.params = own := by rw [read, resolve?_of_unbound hunbound, hown]; rfl
      rw [read_params_written hunbound ((hafter Slot.params).trans (Entries.get?_insert_self ..)), hread]
      rw [← hbefore, hown] at hinner ⊢
      cases keys with
      | nil =>
        refine absurd (.inr fun next hnext => ?_) hseen
        cases hnext
      | cons next rest =>
        have hnext : m ≠ next := by
          intro heq
          refine hseen (.inr fun other hother => ?_)
          cases hother
          exact heq.symm
        exact Value.member_setPath_of_ne hinner hnext
    · refine member_read_of_slot hunbound hslot hm h ?_
      rw [hafter, hbefore, Entries.get?_insert_of_ne (Ne.symm hkey)]
  · refine member_read_of_slot hunbound hslot hm h ?_
    rw [slotMember?, slotObject?, slot?_setSlot_of_ne (Ne.symm hroot)]
    rfl

end MemberAssignment

end Env

/-! Targets that are chains of members. -/

theorem Expr.targetPath_members (opts : Options) (call : Caller) (env : Env) (whole : Expr) (names : List String) {e : Expr}
    {root : String} {path : List Step} (h : Expr.targetPath opts call env whole e = .ok (root, path)) :
    Expr.targetPath opts call env whole (names.foldl Expr.member e) = .ok (root, path ++ names.map .key) := by
  induction names generalizing e path with
  | nil => rw [List.foldl_nil, h, List.map_nil, List.append_nil]
  | cons name names ih =>
    have hmember : Expr.targetPath opts call env whole (e.member name) = .ok (root, path ++ [.key name]) := by
      rw [Expr.targetPath, h]
      rfl
    rw [List.foldl_cons, ih hmember, List.append_assoc]
    rfl

theorem Env.assignPath_cons {env env' : Env} {root : String} {step : Step} {rest : List Step} {value : Value}
    (h : env.assignPath root (step :: rest) value = .ok env') :
    (Value.setPath value (step :: rest) (env.writable root)).error? = none ∧
      env' = env.assign root (Value.setPath value (step :: rest) (env.writable root)).value := by
  simp only [assignPath, List.isEmpty_cons, Bool.false_eq_true, if_false] at h
  split at h
  · next hnone =>
    cases h
    exact ⟨hnone, rfl⟩
  · cases h

theorem assignTarget_members {opts : Options} {call : Caller} {env env' : Env} {root key : String} {keys : List String}
    {value : Value} (h : assignTarget opts call env ((key :: keys).foldl .member (.ident root)) value = .ok env') :
    (env.written root key keys value).error? = none ∧ env' = env.assign root (env.written root key keys value).value := by
  rw [assignTarget, Expr.targetPath_members opts call env _ (key :: keys) rfl] at h
  exact Env.assignPath_cons h

theorem eval_member_ident {opts : Options} (horder : opts.resolutionOrder = Scope.defaultOrder)
    (hlax : opts.strictIdentifiers = false) (call : Caller) (env : Env) (root m : String) :
    (Expr.member (.ident root) m).eval opts call env = .ok ((env.read root).member m) := by
  rw [Expr.eval, Expr.eval, resolveIdent, horder, Env.read]
  cases env.resolve? root Scope.defaultOrder with
  | some v => rfl
  | none => rw [hlax]; rfl

/-- An assignment below a name keeps every other member that is read through the name, if the name is not borrowed and does not come to
stand for another value. A borrowed name then stands for a new object, in which there is nothing else; and `params` stands for
the parameter of that name. -/
theorem member_assignment_keeps_others (opts : Options) (call : Caller) (env env' : Env) (root key : String) (keys : List String)
    (value : Value) (m : String) (horder : opts.resolutionOrder = Scope.defaultOrder) (hlax : opts.strictIdentifiers = false)
    (h : assignTarget opts call env ((key :: keys).foldl .member (.ident root)) value = .ok env') (hm : m ≠ key) :
    (¬ env.Borrowed root → ¬ env.Redirects root key keys m →
      (Expr.member (.ident root) m).eval opts call env' = (Expr.member (.ident root) m).eval opts call env) ∧
    (env.Borrowed root → (Expr.member (.ident root) m).eval opts call env' = .ok .null) ∧
    (env.Redirects root key keys m → ∃ own, env'.slotMember? Slot.params Slot.params = some own ∧
      (Expr.member (.ident root) m).eval opts call env' = .ok (own.member m)) := by
  obtain ⟨hwritten, rfl⟩ := assignTarget_members h
  simp only [eval_member_ident horder hlax, Except.ok.injEq]
  refine ⟨fun howned hstays => ?_, fun hborrowed => ?_, fun hredirects => ?_⟩
  · cases hlocal : env.local? root with
    | some old =>
      obtain ⟨hafter, hbefore⟩ := Env.read_assign_of_bound hlocal (env.written root key keys value).value
      rw [hafter, hbefore, Env.member_written hm hwritten]
    | none =>
      cases hslot : env.slot? root with
      | some old =>
        have hisSlot : env.slot? root ≠ none := hslot ▸ Option.some_ne_none old
        rw [Env.assign_of_slot hlocal hisSlot]
        exact Env.member_read_of_not_redirects hlocal hisSlot hm hwritten hstays
      | none =>
        have habsent : env.current? root = none := by rw [Env.current?, hlocal, hslot]; rfl
        have hnowhere : env.resolve? root Scope.defaultOrder = none :=
          Classical.byContradiction fun hsome => howned ⟨habsent, hsome⟩
        rw [Env.read_assign_of_absent habsent, Env.member_written hm hwritten, habsent, Env.read, hnowhere]
  · rw [Env.read_assign_of_absent hborrowed.1, Env.member_written hm hwritten, hborrowed.1]
    rfl
  · obtain ⟨rfl, rfl, hunbound, hslot, -⟩ := hredirects
    obtain ⟨members, -, -, hafter⟩ := Env.slotMember?_written hunbound hwritten
    rw [Env.assign_of_slot hunbound hslot]
    have hown := (hafter Slot.params).trans (Entries.get?_insert_self ..)
    exact ⟨_, hown, by rw [Env.read_params_written hunbound hown]⟩

def visit : Env :=
  (Env.withParams [("topic", .object [("title", .str "Tides"), ("level", .str "easy")])]).bind "user"
    (.object [("name", .str "Ada")])

/-- The name of the user is kept when a city is assigned below it; a topic that is borrowed loses its level when a title is assigned to
it; and `params` loses the topic when a parameter of its own name is assigned. -/
theorem visit_members :
    (∃ env', assignTarget {} (callHookAt {} 1) visit (["address", "city"].foldl .member (.ident "user")) (.str "Rome") = .ok env' ∧
      ¬ visit.Borrowed "user" ∧ ¬ visit.Redirects "user" "address" ["city"] "name" ∧
      (Expr.member (.ident "user") "name").eval {} (callHookAt {} 1) env' = .ok (.str "Ada")) ∧
    (∃ env', assignTarget {} (callHookAt {} 1) visit (["title"].foldl .member (.ident "topic")) (.str "Moons") = .ok env' ∧
      visit.Borrowed "topic" ∧ (Expr.member (.ident "topic") "level").eval {} (callHookAt {} 1) env' = .ok .null) ∧
    ∃ env', assignTarget {} (callHookAt {} 1) visit (["params"].foldl .member (.ident "params")) (.str "own") = .ok env' ∧
      visit.Redirects "params" "params" [] "topic" ∧ ∃ own, env'.slotMember? "params" "params" = some own ∧
      (Expr.member (.ident "params") "topic").eval {} (callHookAt {} 1) env' = .ok (own.member "topic") := by
  refine ⟨?_, ?_, ?_⟩
  · have howned : ¬ visit.Borrowed "user" := fun h => absurd h.1 (Option.some_ne_none _)
    have hstays : ¬ visit.Redirects "user" "address" ["city"] "name" := fun h => absurd h.root (by decide)
    obtain ⟨hkept, -⟩ := member_assignment_keeps_others {} (callHookAt {} 1) visit _ "user" "address" ["city"] (.str "Rome") "name"
      rfl rfl rfl (by decide)
    exact ⟨_, rfl, howned, hstays, hkept howned hstays⟩
  · have hborrowed : visit.Borrowed "topic" := ⟨rfl, Option.some_ne_none _⟩
    obtain ⟨-, hnew, -⟩ := member_assignment_keeps_others {} (callHookAt {} 1) visit _ "topic" "title" [] (.str "Moons") "level"
      rfl rfl rfl (by decide)
    exact ⟨_, rfl, hborrowed, hnew hborrowed⟩
  · have hredirects : visit.Redirects "params" "params" [] "topic" :=
      ⟨rfl, rfl, rfl, Option.some_ne_none _, .inl rfl⟩
    obtain ⟨-, -, hown⟩ := member_assignment_keeps_others {} (callHookAt {} 1) visit _ "params" "params" [] (.str "own") "topic"
      rfl rfl rfl (by decide)
    exact ⟨_, rfl, hredirects, hown hredirects⟩

/-- Other members do get lost: the level of the topic when its title is assigned, and the topic itself when a parameter called `params`
is assigned. -/
theorem visit_loses_members :
    (∃ env', assignTarget {} (callHookAt {} 1) visit (.member (.ident "topic") "title") (.str "Moons") = .ok env' ∧
      evaluate {} visit (.member (.ident "topic") "level") = .ok (.str "easy") ∧
      evaluate {} env' (.member (.ident "topic") "level") = .ok .null) ∧
    ∃ env', assignTarget {} (callHookAt {} 1) visit (.member (.ident "params") "params") (.str "own") = .ok env' ∧
      evaluate {} visit (.member (.ident "params") "topic") =
        .ok (.object [("title", .str "Tides"), ("level", .str "easy")]) ∧
      evaluate {} env' (.member (.ident "params") "topic") = .ok .null :=
  ⟨⟨_, rfl, rfl, rfl⟩, _, rfl, rfl, rfl⟩

end PromptLang
