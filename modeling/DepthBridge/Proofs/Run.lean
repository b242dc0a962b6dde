import DepthBridge.Dispatch.Sample
import DepthBridge.Bus.Recording
import DepthBridge.Proofs.Gate

/-!
# Running sample handling

Sample handling runs in `Handling β`: it may refuse with an error, or halt, over the dispatcher's
state. Here every building block gets the equation of its run from a state, so that the run of a
handler is computed by rewriting with these equations and never by unfolding the monads:

* `Handling.run_bind`, `Handling.run_lift` and their companions for the plumbing;
* one equation for each state operation of `Dispatching` (`run_listened`, `run_publish`,
  `run_count`, `run_timed`, `run_resume`, ...);
* `Dispatching.paused_run`: on a valid gate a paused section leaves the gate as it found it and
  publishes no inertial message, whether its body returns or halts.

`Ends` says how a run ended, for statements about handlers that may refuse or halt; a failure
of the first part of a bind is the failure of the whole (`ends_bind_of_failure`), and a final
`pure` changes nothing of how the run ends (`ends_bind_pure`).
-/

namespace DepthBridge

/-- The state a run ends in, whatever its outcome. -/
def stateOf {ε σ α : Type} : EStateM.Result ε σ α → σ
  | .ok _ s => s
  | .error _ s => s

/-- The bus after `msgs` are published on it in order. -/
def MessageBus.publishAll {β : Type} [MessageBus β] (b : β) (msgs : List (Channel × Message)) :
    β :=
  msgs.foldl (fun b m => MessageBus.publish b m.1 m.2) b

@[simp] theorem MessageBus.publishAll_nil {β : Type} [MessageBus β] (b : β) :
    MessageBus.publishAll b [] = b := rfl

@[simp] theorem MessageBus.publishAll_cons {β : Type} [MessageBus β] (b : β) (c : Channel)
    (m : Message) (rest : List (Channel × Message)) :
    MessageBus.publishAll b ((c, m) :: rest) =
      MessageBus.publishAll (MessageBus.publish b c m) rest := rfl

theorem MessageBus.publishAll_append {β : Type} [MessageBus β] (b : β)
    (xs ys : List (Channel × Message)) :
    MessageBus.publishAll b (xs ++ ys) = MessageBus.publishAll (MessageBus.publishAll b xs) ys := by
  simp [MessageBus.publishAll, List.foldl_append]

/-- A recording bus keeps what is published on it, in order, after what it had. -/
theorem RecordingBus.publishAll_eq (b : RecordingBus) (msgs : List (Channel × Message)) :
    MessageBus.publishAll b msgs = { b with published := b.published ++ msgs } := by
  induction msgs generalizing b with
  | nil => simp
  | cons m rest ih =>
    obtain ⟨c, msg⟩ := m
    rw [MessageBus.publishAll_cons, ih]
    simp [MessageBus.publish]

@[simp] theorem estate_run_map {ε σ α γ : Type} (f : α → γ) (x : EStateM ε σ α) (s : σ) :
    (f <$> x).run s = match x.run s with
      | .ok a s => .ok (f a) s
      | .error e s => .error e s := rfl

@[simp] theorem except_map_ok {ε α γ : Type} (g : α → γ) (a : α) :
    Except.map g (.ok a : Except ε α) = .ok (g a) := rfl

@[simp] theorem except_map_error {ε α γ : Type} (g : α → γ) (e : ε) :
    Except.map g (.error e : Except ε α) = .error e := rfl

@[simp] theorem estate_run_throw {ε σ α : Type} (e : ε) (s : σ) :
    (throw e : EStateM ε σ α).run s = .error e s := rfl

namespace Dispatching

variable {β α : Type}

@[simp] theorem run_listened [MessageBus β] (c : Channel) (d : Dispatcher β) :
    (listened c).run d = .ok (MessageBus.hasSubscribers d.bus c) d := rfl

@[simp] theorem run_publish [MessageBus β] (c : Channel) (m : Message) (d : Dispatcher β) :
    (publish c m).run d = .ok () { d with bus := MessageBus.publish d.bus c m } := rfl

@[simp] theorem run_count (f : Metrics → Metrics) (d : Dispatcher β) :
    (count f).run d = .ok () { d with metrics := f d.metrics } := rfl

@[simp] theorem run_orHalt (x : Except Halt α) (d : Dispatcher β) :
    (orHalt x).run d = match x with
      | .ok a => .ok a d
      | .error h => .error h d := by
  cases x <;> rfl

/-- A computation on the bus clock advances the dispatcher's clock, or halts leaving it. -/
@[simp] theorem run_timed (f : Timed α) (d : Dispatcher β) :
    (timed f).run d = match f.run d.clock with
      | .ok (a, c) => .ok a { d with clock := c }
      | .error h => .error h d := by
  unfold timed
  simp only [EStateM.run_bind, EStateM.run_get]
  cases f.run d.clock with
  | ok r => rfl
  | error h => rfl

/-- Taking a guard pauses the gate once more; the guard is active when the gate is enabled. -/
@[simp] theorem run_takeGuard (d : Dispatcher β) :
    (takeGuard : Dispatching β Gate.Guard).run d =
      .ok ⟨d.gate.enabled⟩ { d with gate := d.gate.pause } := rfl

theorem run_resume [MessageBus β] (d : Dispatcher β) :
    (resume : Dispatching β (Except SyncError Nat)).run d =
      .ok ((d.gate.resume deliver).run d.bus).run.1.1
        { d with gate := ((d.gate.resume deliver).run d.bus).run.1.2
                 bus := ((d.gate.resume deliver).run d.bus).run.2 } := rfl

/-- A halt caught by a handler: the handler runs from the state the halt left. -/
@[simp] theorem run_tryCatch (x : Dispatching β α) (handle : Halt → Dispatching β α)
    (d : Dispatcher β) :
    (tryCatch x handle).run d = match x.run d with
      | .ok a d' => .ok a d'
      | .error h d' => (handle h).run d' := by
  show EStateM.tryCatch x handle d = _
  rw [show x.run d = x d from rfl]
  delta EStateM.tryCatch
  cases x d <;> rfl

/-- Discarding a result keeps how the run ended and where. -/
theorem run_discard {γ : Type} (x : Dispatching β γ) (d : Dispatcher β) :
    (discard x).run d = match x.run d with
      | .ok _ d' => .ok () d'
      | .error h d' => .error h d' := by
  show EStateM.map (Function.const _ ()) x d = _
  unfold EStateM.map
  rw [show x d = x.run d from rfl]
  cases x.run d <;> rfl

/-- Dropping a guard resumes, with the outcome of the flush dropped, when the guard is active,
and does nothing otherwise. -/
theorem run_dropGuard [MessageBus β] (guard : Gate.Guard) (d : Dispatcher β) :
    (dropGuard guard : Dispatching β Unit).run d =
      if guard.active then (discard (resume : Dispatching β (Except SyncError Nat))).run d
      else .ok () d := by
  obtain ⟨_ | _⟩ := guard <;> rfl

/-- Resuming a gate that was paused once more than a valid gate `g` brings `g` back and
publishes nothing. -/
theorem run_resume_of_paused [MessageBus β] (d : Dispatcher β) {g : Gate ImuMessage}
    (hg : g.Valid) (h : d.gate = g.pause) :
    (resume : Dispatching β (Except SyncError Nat)).run d = .ok (.ok 0) { d with gate := g } := by
  rw [run_resume, h, Gate.resume_pause hg]

/-- A paused section on a valid gate: the body runs with the gate paused once more, and when
the body leaves the gate so, the gate is back as it was afterwards, whether the body returns or
halts; resuming publishes nothing. -/
theorem paused_run [MessageBus β] (body : Dispatching β α) (d : Dispatcher β) (hg : d.gate.Valid)
    (hbody : (stateOf (body.run { d with gate := d.gate.pause })).gate = d.gate.pause) :
    (paused body).run d = match body.run { d with gate := d.gate.pause } with
      | .ok a d' => .ok (a, .ok 0) { d' with gate := d.gate }
      | .error h d' => .error h { d' with gate := d.gate } := by
  unfold paused
  simp only [EStateM.run_bind, run_takeGuard, run_tryCatch]
  generalize body.run { d with gate := d.gate.pause } = r at hbody ⊢
  cases r with
  | ok a d' =>
    simp only [stateOf] at hbody
    simp [run_resume_of_paused d' hg hbody]
  | error h d' =>
    simp only [stateOf] at hbody
    cases he : d.gate.enabled with
    | true =>
      -- the halt handler drops the active guard, which resumes before the halt goes on
      have hres := run_resume_of_paused d' hg hbody
      simp [run_dropGuard, run_discard, hres]
    | false =>
      -- a disabled gate never paused, so there is nothing to resume
      have hp : d.gate.pause = d.gate := by simp [Gate.pause, he]
      rw [hp] at hbody
      simp [run_dropGuard, ← hbody]

end Dispatching

namespace Handling

variable {β α γ : Type}

/-- The run of a bind: a refusal or a halt of the first part ends the run there. -/
@[simp] theorem run_bind (x : Handling β α) (f : α → Handling β γ) (d : Dispatcher β) :
    (x >>= f).run.run d =
      match x.run.run d with
      | .ok (.ok a) d' => (f a).run.run d'
      | .ok (.error e) d' => .ok (.error e) d'
      | .error h d' => .error h d' := by
  simp only [ExceptT.run_bind, EStateM.run_bind]
  rcases x.run.run d with ⟨_ | a, d'⟩ | ⟨h, d'⟩ <;> rfl

@[simp] theorem run_lift [MessageBus β] (x : Dispatching β α) (d : Dispatcher β) :
    (lift x : Handling β α).run.run d =
      match x.run d with
      | .ok a d' => .ok (.ok a) d'
      | .error h d' => .error h d' := by
  show EStateM.map Except.ok x d = _
  cases h : x d <;> simp [EStateM.map, EStateM.run, h]

@[simp] theorem run_throw (e : DispatchError) (d : Dispatcher β) :
    (throw e : Handling β α).run.run d = .ok (.error e) d := rfl

@[simp] theorem run_pure (a : α) (d : Dispatcher β) :
    (pure a : Handling β α).run.run d = .ok (.ok a) d := rfl

@[simp] theorem run_map (f : α → γ) (x : Handling β α) (d : Dispatcher β) :
    (f <$> x).run.run d =
      match x.run.run d with
      | .ok (.ok a) d' => .ok (.ok (f a)) d'
      | .ok (.error e) d' => .ok (.error e) d'
      | .error h d' => .error h d' := by
  rw [← bind_pure_comp, run_bind]
  rfl

end Handling

/-- Why the work on a frame fails: it is refused with an error, or it halts. -/
inductive Failure where
  | refused
  | halted (h : Halt)

/-- A run of handling ended as `failure` says (normally when there is none), in state `d'`. -/
def Ends {β α : Type} (r : EStateM.Result Halt (Dispatcher β) (Except DispatchError α)) :
    Option Failure → Dispatcher β → Prop
  | none, d' => ∃ a, r = .ok (.ok a) d'
  | some .refused, d' => ∃ e, r = .ok (.error e) d'
  | some (.halted h), d' => r = .error h d'

section Ends

variable {β α γ : Type}

theorem ends_stateOf {r : EStateM.Result Halt (Dispatcher β) (Except DispatchError α)}
    {o : Option Failure} {d' : Dispatcher β} (h : Ends r o d') : stateOf r = d' := by
  match o, h with
  | none, ⟨_, h⟩ => rw [h]; rfl
  | some .refused, ⟨_, h⟩ => rw [h]; rfl
  | some (.halted _), h => rw [h]; rfl

theorem ends_bind_of_failure (x : Handling β α) (f : α → Handling β γ) {d d' : Dispatcher β}
    {e : Failure} (h : Ends (x.run.run d) (some e) d') :
    Ends ((x >>= f).run.run d) (some e) d' := by
  cases e with
  | refused =>
    obtain ⟨err, h⟩ := h
    exact ⟨err, by simp [h]⟩
  | halted hl =>
    simp only [Ends] at h ⊢
    simp [h]

theorem ends_bind_pure (x : Handling β α) (g : α → γ) {d d' : Dispatcher β}
    {o : Option Failure} (h : Ends (x.run.run d) o d') :
    Ends ((x >>= fun a => pure (g a)).run.run d) o d' := by
  match o, h with
  | none, ⟨a, h⟩ => exact ⟨g a, by simp [h]⟩
  | some .refused, ⟨err, h⟩ => exact ⟨err, by simp [h]⟩
  | some (.halted hl), h =>
    simp only [Ends] at h ⊢
    simp [h]

end Ends

end DepthBridge
