import Mathlib.Data.List.Infix
import PromptLang.Batch
import PromptLang.Proofs.Computation

/-! Batches of calls, whatever the order in which their answers arrive. While a batch is under way, the calls that were sent are the first
ones of the batch, the answers that were taken are those to the first of these, and each of the others is in flight or has
arrived under its position. So a batch succeeds exactly where every call does, with the answers in the order of the calls, and
it fails with the first call that fails, after which fewer calls were sent than may be in flight. Neither depends on the schedule. -/

namespace PromptLang

/-- The log after calls with these prompts. -/
def Log.withCalls (log : Log) (constraints : Constraints) (prompts : List String) : Log :=
  { log with calls := log.calls ++ prompts.map (⟨·, constraints⟩) }

/-- The answers to prompts that are sent one after the other. -/
def replies (host : Host) (constraints : Constraints) (earlier : List Call) (prompts : List String) : List (Except String String) :=
  prompts.mapIdx fun i prompt => host.provider (earlier ++ (prompts.take i).map (⟨·, constraints⟩)) ⟨prompt, constraints⟩

@[simp] theorem length_replies (host : Host) (constraints : Constraints) (earlier : List Call) (prompts : List String) :
    (replies host constraints earlier prompts).length = prompts.length := List.length_mapIdx

theorem getElem?_replies (host : Host) (constraints : Constraints) (earlier : List Call) (prompts : List String) (i : Nat) :
    (replies host constraints earlier prompts)[i]? = prompts[i]?.map fun prompt =>
      host.provider (earlier ++ (prompts.take i).map (⟨·, constraints⟩)) ⟨prompt, constraints⟩ := List.getElem?_mapIdx

/-- How far a batch has come. -/
structure Underway (host : Host) (limit : Nat) (constraints : Constraints) (start : Log) (prompts : List String) (b : Batch)
    (log : Log) : Prop where
  sent_le : b.sent ≤ prompts.length
  taken_le : b.taken.length ≤ b.sent
  within : b.sent ≤ b.taken.length + limit
  waiting : b.waiting = prompts.drop b.sent
  log_eq : log = start.withCalls constraints (prompts.take b.sent)
  taken : b.taken.map Except.ok = (replies host constraints start.calls prompts).take b.taken.length
  positions : ((b.inFlight ++ b.arrived).map Prod.fst).Perm (List.range' b.taken.length (b.sent - b.taken.length))
  answers : ∀ p ∈ b.inFlight ++ b.arrived, (replies host constraints start.calls prompts)[p.1]? = some p.2

namespace Underway

variable {host : Host} {limit : Nat} {constraints : Constraints} {start : Log} {prompts : List String} {b : Batch} {log : Log}

theorem init (host : Host) (limit : Nat) (constraints : Constraints) (start : Log) (prompts : List String) :
    Underway host limit constraints start prompts { waiting := prompts } start where
  sent_le := Nat.zero_le _
  taken_le := Nat.le_refl _
  within := Nat.zero_le _
  waiting := rfl
  log_eq := by simp [Log.withCalls]
  taken := rfl
  positions := .refl _
  answers := by simp

theorem pending_length (h : Underway host limit constraints start prompts b log) :
    b.inFlight.length + b.arrived.length = b.sent - b.taken.length := by
  simpa using h.positions.length_eq

theorem positions_concat {taken sent : Nat} (h : taken ≤ sent) :
    List.range' taken (sent + 1 - taken) = List.range' taken (sent - taken) ++ [sent] := by
  rw [Nat.succ_sub h, List.range'_concat]
  congr 2
  omega

/-- The next call is sent, and its answer is on its way. -/
theorem sendNext (h : Underway host limit constraints start prompts b log) (hlt : b.sent < prompts.length)
    (hroom : b.inFlight.length + b.arrived.length < limit) :
    Underway host limit constraints start prompts
      { b with
        waiting := prompts.drop (b.sent + 1)
        sent := b.sent + 1
        inFlight := b.inFlight ++ [(b.sent, host.provider log.calls ⟨prompts[b.sent], constraints⟩)] }
      { log with calls := log.calls ++ [⟨prompts[b.sent], constraints⟩] } where
  sent_le := hlt
  taken_le := Nat.le_succ_of_le h.taken_le
  within := by
    have hpending := h.pending_length
    dsimp only
    omega
  waiting := rfl
  log_eq := by
    simp only [h.log_eq, Log.withCalls, List.take_succ_eq_append_getElem hlt, List.map_append, List.append_assoc, List.map_cons,
      List.map_nil]
  taken := h.taken
  positions := by
    rw [positions_concat h.taken_le]
    refine List.Perm.trans ?_ (h.positions.append_right [b.sent])
    simp only [List.map_append, List.append_assoc]
    exact List.perm_append_comm.append_left _
  answers := by
    intro p hp
    simp only [List.append_assoc, List.mem_append, List.mem_singleton] at hp
    rcases hp with hp | rfl | hp
    · exact h.answers p (List.mem_append_left _ hp)
    · rw [getElem?_replies, List.getElem?_eq_getElem hlt, h.log_eq]
      rfl
    · exact h.answers p (List.mem_append_right _ hp)

/-- After an attempt to send, the call whose answer is next to be taken was sent. -/
theorem send (h : Underway host limit constraints start prompts b log) (hlimit : 0 < limit) :
    ∃ b' log', b.send host limit constraints log = (.ok b', log') ∧
      Underway host limit constraints start prompts b' log' ∧ b'.taken = b.taken ∧
      (b.taken.length < prompts.length → b.taken.length < b'.sent) := by
  have hpending := h.pending_length
  have hwaiting := h.waiting
  unfold Batch.send
  by_cases hlt : b.sent < prompts.length
  · rw [List.drop_eq_getElem_cons hlt] at hwaiting
    simp only [hwaiting]
    by_cases hroom : b.inFlight.length + b.arrived.length < limit
    · rw [if_pos hroom]
      exact ⟨_, _, rfl, h.sendNext hlt hroom, rfl, fun _ => Nat.lt_succ_of_le h.taken_le⟩
    · rw [if_neg hroom]
      exact ⟨b, log, rfl, h, rfl, fun _ => by omega⟩
  · rw [List.drop_eq_nil_iff.2 (Nat.le_of_not_lt hlt)] at hwaiting
    simp only [hwaiting]
    exact ⟨b, log, rfl, h, rfl, fun hnext => by omega⟩

/-- An arrival moves an answer and loses none. -/
theorem pending_arrive_perm (b : Batch) (i : Nat) :
    ((b.arrive i).inFlight ++ (b.arrive i).arrived).Perm (b.inFlight ++ b.arrived) := by
  have hsplit : (b.inFlight.filter (·.1 = i) ++ b.inFlight.filter (·.1 ≠ i)).Perm b.inFlight := by
    simpa using List.filter_append_perm (·.1 = i) b.inFlight
  have hmoved : ((b.arrive i).inFlight ++ (b.arrive i).arrived).Perm
      (b.inFlight.filter (·.1 ≠ i) ++ (b.inFlight.filter (·.1 = i) ++ b.arrived)) := List.perm_append_comm.append_left _
  rw [← List.append_assoc] at hmoved
  exact hmoved.trans ((List.perm_append_comm.trans hsplit).append_right _)

theorem arrive (h : Underway host limit constraints start prompts b log) (i : Nat) :
    Underway host limit constraints start prompts (b.arrive i) log where
  sent_le := h.sent_le
  taken_le := h.taken_le
  within := h.within
  waiting := h.waiting
  log_eq := h.log_eq
  taken := h.taken
  positions := ((pending_arrive_perm b i).map Prod.fst).trans h.positions
  answers p hp := h.answers p ((pending_arrive_perm b i).mem_iff.1 hp)

theorem mem_arrived (h : Underway host limit constraints start prompts b log) (hsent : b.taken.length < b.sent) :
    b.taken.length ∈ (b.arrive b.taken.length).arrived.map Prod.fst := by
  have hrange : b.taken.length ∈ List.range' b.taken.length (b.sent - b.taken.length) := by
    rw [List.mem_range'_1]
    omega
  obtain ⟨p, hp, hposition⟩ := List.mem_map.1 (h.positions.mem_iff.2 hrange)
  refine List.mem_map.2 ⟨p, ?_, hposition⟩
  rcases List.mem_append.1 hp with hp | hp
  · exact List.mem_append_right _ (List.mem_filter.2 ⟨hp, by simpa using hposition⟩)
  · exact List.mem_append_left _ hp

theorem positions_filter {k n : Nat} {pending : List (Nat × Except String String)}
    (h : (pending.map Prod.fst).Perm (List.range' k (n + 1))) :
    ((pending.filter (·.1 ≠ k)).map Prod.fst).Perm (List.range' (k + 1) n) := by
  have hrest := h.filter (· ≠ k)
  have hlater : (List.range' (k + 1) n).filter (· ≠ k) = List.range' (k + 1) n := by
    refine List.filter_eq_self.2 fun i hi => ?_
    have hlt := (List.mem_range'_1.1 hi).1
    simp only [decide_eq_true_eq]
    omega
  rw [List.filter_map, List.range'_succ, List.filter_cons_of_neg (by simp), hlater] at hrest
  exact hrest

theorem ne_of_mem_inFlight (h : Underway host limit constraints start prompts b log) {i : Nat} {answer : Except String String}
    (harrived : (i, answer) ∈ b.arrived) {p : Nat × Except String String} (hp : p ∈ b.inFlight) : p.1 ≠ i := by
  have hnodup := h.positions.nodup_iff.2 List.nodup_range'
  rw [List.map_append, List.nodup_append] at hnodup
  exact hnodup.2.2 p.1 (List.mem_map_of_mem hp) i (List.mem_map_of_mem (f := Prod.fst) harrived)

theorem taken_lt_sent (h : Underway host limit constraints start prompts b log) {answer : Except String String}
    (harrived : (b.taken.length, answer) ∈ b.arrived) : b.taken.length < b.sent := by
  have hrange := h.positions.mem_iff.1 (List.mem_map_of_mem (List.mem_append_right b.inFlight harrived))
  rw [List.mem_range'_1] at hrange
  omega

/-- The next answer is taken from those that have arrived. -/
theorem takeNext (h : Underway host limit constraints start prompts b log) {text : String}
    (harrived : (b.taken.length, .ok text) ∈ b.arrived) :
    Underway host limit constraints start prompts
      { b with arrived := b.arrived.filter (·.1 ≠ b.taken.length), taken := b.taken ++ [text] } log := by
  have hsent := h.taken_lt_sent harrived
  have hwithin := h.within
  have hrest : b.inFlight ++ b.arrived.filter (·.1 ≠ b.taken.length) =
      (b.inFlight ++ b.arrived).filter (·.1 ≠ b.taken.length) := by
    have hkept : b.inFlight.filter (·.1 ≠ b.taken.length) = b.inFlight :=
      List.filter_eq_self.2 fun p hp => by simpa using h.ne_of_mem_inFlight harrived hp
    rw [List.filter_append, hkept]
  refine ⟨h.sent_le, ?_, ?_, h.waiting, h.log_eq, ?_, ?_, ?_⟩
  · rw [List.length_append, List.length_singleton]
    exact hsent
  · simp only [List.length_append, List.length_singleton]
    omega
  · have hreply := h.answers _ (List.mem_append_right _ harrived)
    rw [List.length_append, List.length_singleton, List.take_add_one, hreply, List.map_append, h.taken]
    rfl
  · obtain ⟨n, hn⟩ : ∃ n, b.sent - b.taken.length = n + 1 := ⟨b.sent - b.taken.length - 1, by omega⟩
    have hpositions := h.positions
    rw [hn] at hpositions
    simp only [List.length_append, List.length_singleton, hrest]
    rw [show b.sent - (b.taken.length + 1) = n by omega]
    exact positions_filter hpositions
  · intro p hp
    dsimp only at hp
    rw [hrest] at hp
    exact h.answers p (List.mem_filter.1 hp).1

/-- An answer that has arrived in its turn is taken, unless it is a failure. -/
theorem take (h : Underway host limit constraints start prompts b log) :
    (∃ b', b.take = .ok b' ∧ Underway host limit constraints start prompts b' log ∧ b.taken.length ≤ b'.taken.length ∧
      (b.taken.length ∈ b.arrived.map Prod.fst → b.taken.length < b'.taken.length)) ∨
    ∃ cause, b.take = .error (.providerFailed cause) ∧ b.taken.length < b.sent ∧
      (replies host constraints start.calls prompts)[b.taken.length]? = some (.error cause) := by
  unfold Batch.take
  cases hlookup : b.arrived.lookup b.taken.length with
  | none =>
    refine .inl ⟨b, rfl, h, Nat.le_refl _, fun hmem => ?_⟩
    obtain ⟨p, hp, hposition⟩ := List.mem_map.1 hmem
    have hother := List.lookup_eq_none_iff.1 hlookup p hp
    simp [hposition] at hother
  | some answer =>
    obtain ⟨front, back, hsplit, -⟩ := List.lookup_eq_some_iff.1 hlookup
    have harrived : (b.taken.length, answer) ∈ b.arrived := by simp [hsplit]
    cases answer with
    | error cause => exact .inr ⟨cause, rfl, h.taken_lt_sent harrived, h.answers _ (List.mem_append_right _ harrived)⟩
    | ok text => exact .inl ⟨_, rfl, h.takeNext harrived, by simp, fun _ => by simp⟩

end Underway

section Play

variable {host : Host} {limit : Nat} {constraints : Constraints} {start : Log} {prompts : List String}

/-- The first answer that is a failure. -/
structure FirstFailure (answers : List (Except String String)) (k : Nat) (cause : String) : Prop where
  failed : answers[k]? = some (.error cause)
  before : ∀ j < k, ∃ text, answers[j]? = some (.ok text)

/-- A batch fails with the first call that fails, when this call and fewer than `width` calls behind it were sent. -/
def BatchFails (host : Host) (width : Nat) (constraints : Constraints) (prompts : List String) (start log : Log)
    (cause : String) : Prop :=
  ∃ k m, k < m ∧ m ≤ k + width ∧ m ≤ prompts.length ∧ log = start.withCalls constraints (prompts.take m) ∧
    FirstFailure (replies host constraints start.calls prompts) k cause

theorem Underway.batchFails {b : Batch} {log : Log} {cause : String} (h : Underway host limit constraints start prompts b log)
    (hsent : b.taken.length < b.sent)
    (hfailed : (replies host constraints start.calls prompts)[b.taken.length]? = some (.error cause)) :
    BatchFails host limit constraints prompts start log cause := by
  refine ⟨b.taken.length, b.sent, hsent, h.within, h.sent_le, h.log_eq, hfailed, fun j hj => ⟨b.taken[j], ?_⟩⟩
  have htaken := congrArg (fun answers => answers[j]?) h.taken
  rw [List.getElem?_take_of_lt hj, List.getElem?_map, List.getElem?_eq_getElem hj] at htaken
  exact htaken.symm

/-- A batch goes on to a state with the property, or it fails with the first call that fails. -/
def Proceeds (host : Host) (limit : Nat) (constraints : Constraints) (start : Log) (prompts : List String) (P : Batch → Prop)
    (x : Except Error Batch × Log) : Prop :=
  (∃ b log, x = (.ok b, log) ∧ Underway host limit constraints start prompts b log ∧ P b) ∨
    ∃ cause log, x = (.error (.providerFailed cause), log) ∧ BatchFails host limit constraints prompts start log cause

theorem Proceeds.bind {P Q : Batch → Prop} {x : Run Batch} {f : Batch → Run Batch} {log : Log}
    (hx : Proceeds host limit constraints start prompts P (x log))
    (hf : ∀ b log', Underway host limit constraints start prompts b log' → P b →
      Proceeds host limit constraints start prompts Q (f b log')) :
    Proceeds host limit constraints start prompts Q ((x >>= f) log) := by
  rw [Run.bind_apply]
  rcases hx with ⟨b, log', hx, hb, hP⟩ | ⟨cause, log', hx, hfails⟩
  · rw [hx]
    exact hf b log' hb hP
  · rw [hx]
    exact .inr ⟨cause, log', rfl, hfails⟩

theorem Proceeds.mono {P Q : Batch → Prop} {x : Except Error Batch × Log} (hx : Proceeds host limit constraints start prompts P x)
    (h : ∀ b, P b → Q b) : Proceeds host limit constraints start prompts Q x := by
  rcases hx with ⟨b, log, hx, hb, hP⟩ | hfails
  · exact .inl ⟨b, log, hx, hb, h b hP⟩
  · exact .inr hfails

variable {b : Batch} {log : Log}

theorem proceeds_send (h : Underway host limit constraints start prompts b log) (hlimit : 0 < limit) :
    Proceeds host limit constraints start prompts (fun b' => b'.taken = b.taken ∧ (b.taken.length < prompts.length →
      b.taken.length < b'.sent)) (b.step host limit constraints .send log) := by
  obtain ⟨b', log', hsend, hb', htaken, hnext⟩ := h.send hlimit
  exact .inl ⟨b', log', hsend, hb', htaken, hnext⟩

theorem proceeds_take (h : Underway host limit constraints start prompts b log) :
    Proceeds host limit constraints start prompts (fun b' => b.taken.length ≤ b'.taken.length ∧
      (b.taken.length ∈ b.arrived.map Prod.fst → b.taken.length < b'.taken.length)) (b.step host limit constraints .take log) := by
  rcases h.take with ⟨b', htake, hb', hle, hnext⟩ | ⟨cause, htake, hsent, hfailed⟩
  · exact .inl ⟨b', log, by simp [Batch.step, htake], hb', hle, hnext⟩
  · exact .inr ⟨cause, log, by simp [Batch.step, htake], h.batchFails hsent hfailed⟩

theorem proceeds_step (h : Underway host limit constraints start prompts b log) (hlimit : 0 < limit) (event : Event) :
    Proceeds host limit constraints start prompts (fun b' => b.taken.length ≤ b'.taken.length)
      (b.step host limit constraints event log) := by
  cases event with
  | send => exact (proceeds_send h hlimit).mono fun _ hb' => Nat.le_of_eq (congrArg List.length hb'.1.symm)
  | arrive i => exact .inl ⟨b.arrive i, log, rfl, h.arrive i, Nat.le_refl _⟩
  | take => exact (proceeds_take h).mono fun _ hb' => hb'.1

/-- Whatever happens, no answer that was taken is lost. -/
theorem proceeds_play (hlimit : 0 < limit) (events : List Event) (h : Underway host limit constraints start prompts b log) :
    Proceeds host limit constraints start prompts (fun b' => b.taken.length ≤ b'.taken.length)
      (b.play host limit constraints events log) := by
  induction events generalizing b log with
  | nil => exact .inl ⟨b, log, rfl, h, Nat.le_refl _⟩
  | cons event rest ih =>
    refine (proceeds_step h hlimit event).bind fun b₁ log₁ h₁ hle => ?_
    exact (ih h₁).mono fun b₂ hmore => Nat.le_trans hle hmore

theorem play_append (b : Batch) (events more : List Event) :
    b.play host limit constraints (events ++ more) =
      b.play host limit constraints events >>= Batch.play host limit constraints more := List.foldlM_append

theorem proceeds_turn (hlimit : 0 < limit) {i : Nat} (hi : i < prompts.length) (hb : i ≤ b.taken.length)
    (h : Underway host limit constraints start prompts b log) :
    Proceeds host limit constraints start prompts (fun b' => i < b'.taken.length)
      (b.play host limit constraints [.send, .arrive i, .take] log) := by
  rcases Nat.lt_or_eq_of_le hb with hlt | rfl
  · exact (proceeds_play hlimit _ h).mono fun b' hmore => Nat.lt_of_lt_of_le hlt hmore
  · refine (proceeds_send h hlimit).bind fun b₁ log₁ h₁ hsent => ?_
    obtain ⟨htaken, hnext⟩ := hsent
    -- the answer that is next was sent by now, so it arrives and is taken
    rw [← htaken] at hnext hi ⊢
    have hmem := h₁.mem_arrived (hnext hi)
    have htake := (proceeds_take (h₁.arrive b₁.taken.length)).mono (Q := fun b' => b₁.taken.length < b'.taken.length)
      fun b' hb' => hb'.2 hmem
    exact htake.bind fun b₂ log₂ h₂ hb₂ => .inl ⟨b₂, log₂, rfl, h₂, hb₂⟩

theorem proceeds_inTurn (hlimit : 0 < limit) {n : Nat} (hn : n ≤ prompts.length)
    (h : Underway host limit constraints start prompts b log) :
    Proceeds host limit constraints start prompts (fun b' => n ≤ b'.taken.length)
      (b.play host limit constraints (Batch.inTurn n) log) := by
  induction n with
  | zero => exact .inl ⟨b, log, rfl, h, Nat.zero_le _⟩
  | succ n ih =>
    have hsplit : Batch.inTurn (n + 1) = Batch.inTurn n ++ [.send, .arrive n, .take] := by
      simp [Batch.inTurn, List.range_succ]
    rw [hsplit, play_append]
    exact (ih (by omega)).bind fun b₁ log₁ h₁ hb₁ => proceeds_turn hlimit hn hb₁ h₁

end Play

section Results

variable (host : Host) (limit : Nat) (constraints : Constraints) (prompts : List String) (log : Log)

/-- A batch succeeds with the answers to its calls, or fails with the first call that fails. -/
theorem generateAll_cases :
    (∃ answers, generateAll host limit constraints prompts log = (.ok answers, log.withCalls constraints prompts) ∧
      replies host constraints log.calls prompts = answers.map .ok) ∨
    ∃ cause log', generateAll host limit constraints prompts log = (.error (.providerFailed cause), log') ∧
      BatchFails host (max 1 limit) constraints prompts log log' cause := by
  have hlimit : 0 < max 1 limit := by omega
  have hstart := Underway.init host (max 1 limit) constraints log prompts
  have hplay := (proceeds_play hlimit (host.schedule log.calls) hstart).bind fun b log' h _ =>
    proceeds_inTurn hlimit (Nat.le_refl _) h
  rw [← play_append] at hplay
  unfold generateAll
  dsimp only
  rw [Run.bind_apply]
  rcases hplay with ⟨b, log', hplay, hb, hall⟩ | ⟨cause, log', hplay, hfails⟩
  · rw [hplay]
    have hlength : b.taken.length = prompts.length := Nat.le_antisymm (Nat.le_trans hb.taken_le hb.sent_le) hall
    have hsent : b.sent = prompts.length := Nat.le_antisymm hb.sent_le (hlength ▸ hb.taken_le)
    have hlog := hb.log_eq
    have htaken := hb.taken
    rw [hsent, List.take_length] at hlog
    rw [hlength, List.take_of_length_le (Nat.le_of_eq (length_replies ..))] at htaken
    exact .inl ⟨b.taken, by rw [hlog]; rfl, htaken.symm⟩
  · rw [hplay]
    exact .inr ⟨cause, log', rfl, hfails⟩

/-- However a batch ends, it sends the first of its prompts and nothing else. -/
theorem generateAll_log : ∃ m, (generateAll host limit constraints prompts log).2 = log.withCalls constraints (prompts.take m) := by
  rcases generateAll_cases host limit constraints prompts log with ⟨answers, hrun, -⟩ | ⟨cause, log', hrun, k, m, -, -, -, hlog, -⟩
  · exact ⟨prompts.length, by rw [hrun, List.take_length]⟩
  · exact ⟨m, by rw [hrun, hlog]⟩

/-- Whether a batch succeeds, and with which answers, depends neither on the schedule nor on the limit. -/
theorem generateAll_eq_ok {answers : List String} {log' : Log} :
    generateAll host limit constraints prompts log = (.ok answers, log') ↔
      replies host constraints log.calls prompts = answers.map .ok ∧ log' = log.withCalls constraints prompts := by
  rcases generateAll_cases host limit constraints prompts log with ⟨texts, hrun, hreplies⟩ | ⟨cause, log₁, hrun, hfails⟩
  · rw [hrun, hreplies, Prod.mk.injEq, Except.ok.injEq, eq_comm (a := log')]
    refine and_congr_left fun _ => ⟨fun h => by rw [h], fun h => ?_⟩
    exact List.map_injective_iff.2 (fun _ _ h => Except.ok.inj h) h
  · obtain ⟨k, m, -, -, -, -, hfirst⟩ := hfails
    refine iff_of_false (by simp [hrun]) fun h => ?_
    have hfailed := hfirst.failed
    rw [h.1, List.getElem?_map] at hfailed
    obtain ⟨text, -, htext⟩ := Option.map_eq_some_iff.1 hfailed
    cases htext

theorem generateAll_keeps (limit' : Nat) :
    Run.Keeps (generateAll host limit constraints prompts) (generateAll host limit' constraints prompts) := by
  intro log answers log' h
  exact (generateAll_eq_ok host limit' constraints prompts log).2 ((generateAll_eq_ok host limit constraints prompts log).1 h)

end Results

section AtOnce

variable (host : Host) (constraints : Constraints)

theorem play_turn_of_idle {limit : Nat} (hlimit : 0 < limit) (prompt : String) (rest taken : List String) :
    Batch.play host limit constraints [.send, .arrive taken.length, .take]
        { waiting := prompt :: rest, sent := taken.length, taken := taken } =
      generate host constraints prompt >>= fun text =>
        pure { waiting := rest, sent := taken.length + 1, taken := taken ++ [text] } := by
  funext log
  have hsend : Batch.send host limit constraints { waiting := prompt :: rest, sent := taken.length, taken := taken } log =
      (.ok { waiting := rest, sent := taken.length + 1, taken := taken,
              inFlight := [(taken.length, host.provider log.calls ⟨prompt, constraints⟩)] },
        log.withCalls constraints [prompt]) := by
    simp only [Batch.send, List.length_nil, hlimit, if_true]
    rfl
  simp only [Batch.play, List.foldlM_cons, List.foldlM_nil, Batch.step]
  rw [Run.bind_apply, Run.bind_apply, generate_apply, hsend]
  cases hanswer : host.provider log.calls ⟨prompt, constraints⟩ with
  | error cause => simp [Batch.arrive, Batch.take, Run.bind_apply, Log.withCalls]
  | ok text => simp [Batch.arrive, Batch.take, Run.bind_apply, Log.withCalls]

theorem play_turns_of_idle {limit : Nat} (hlimit : 0 < limit) (rest taken : List String) :
    Batch.play host limit constraints ((List.range' taken.length rest.length).flatMap fun i => [.send, .arrive i, .take])
        { waiting := rest, sent := taken.length, taken := taken } =
      Batch.play host 1 constraints ((List.range' taken.length rest.length).flatMap fun i => [.send, .arrive i, .take])
        { waiting := rest, sent := taken.length, taken := taken } := by
  induction rest generalizing taken with
  | nil => rfl
  | cons prompt rest ih =>
    rw [List.length_cons, List.range'_succ, List.flatMap_cons, play_append, play_append,
      play_turn_of_idle host constraints hlimit, play_turn_of_idle host constraints Nat.one_pos, bind_assoc, bind_assoc]
    refine congrArg (generate host constraints prompt >>= ·) (funext fun text => ?_)
    simpa using ih (taken ++ [text])

variable {host} in
theorem generateAll_of_atOnce {log : Log} (h : host.schedule log.calls = []) (limit : Nat) (prompts : List String) :
    generateAll host limit constraints prompts log = generateAll host 1 constraints prompts log := by
  have hturns := play_turns_of_idle host constraints (show 0 < max 1 limit by omega) prompts []
  rw [List.length_nil, ← List.range_eq_range'] at hturns
  unfold generateAll Batch.inTurn
  simp only [h, List.nil_append, Nat.max_self, hturns]

end AtOnce

/-- No more than `width` calls of a batch are under way at a time: the limit says so, or every call is answered before the next one is
sent. -/
def Host.KeepsWithin (host : Host) (limit width : Nat) : Prop :=
  max 1 limit ≤ width ∨ 1 ≤ width ∧ ∀ earlier, host.schedule earlier = []

theorem generateAll_eq_error {host : Host} {limit width : Nat} (hwidth : host.KeepsWithin limit width) {constraints : Constraints}
    {prompts : List String} {log log' : Log} {e : Error}
    (h : generateAll host limit constraints prompts log = (.error e, log')) :
    ∃ cause, e = .providerFailed cause ∧ BatchFails host width constraints prompts log log' cause := by
  have hfails (n : Nat) (hn : max 1 n ≤ width) (h : generateAll host n constraints prompts log = (.error e, log')) :
      ∃ cause, e = .providerFailed cause ∧ BatchFails host width constraints prompts log log' cause := by
    rcases generateAll_cases host n constraints prompts log with ⟨_, hrun, -⟩ | ⟨cause, _, hrun, k, m, hk, hm, hrest⟩
    · cases hrun.symm.trans h
    · cases hrun.symm.trans h
      exact ⟨cause, rfl, k, m, hk, by omega, hrest⟩
  rcases hwidth with hlimit | ⟨hone, hatOnce⟩
  · exact hfails limit hlimit h
  · exact hfails 1 hone (generateAll_of_atOnce constraints (hatOnce _) limit prompts ▸ h)

end PromptLang
