import DepthBridge.Proofs.Invariant

/-!
# Hoare triples for sample handling

`Keeps I x` asks the same property of the state before and after `x`. Some properties are
broken for a moment between two operations that belong together: a frame is published and
only then counted, and whether it is counted depends on what the publication returned. A triple
`Triple P x Q R` says where every run of `x` from a state with `P` ends: in a state with `Q a`
when it returns `a`, and in a state with `R` when it halts, or, for a handler, when it refuses.

Triples are glued as the programs are, one rule per way of gluing (`Triple.bind`,
`triple_tryCatch`, `triple_paused`, ...), and `Triple.of_keeps` brings in every invariant kept
by a computation.
-/

namespace DepthBridge

/-- How a run ended, judged by `Q` on the value and the state it returned, and by `R` on the
state it halted in. -/
def Ended {σ α : Type} (Q : α → σ → Prop) (R : σ → Prop) : EStateM.Result Halt σ α → Prop
  | .ok a s => Q a s
  | .error _ s => R s

namespace Dispatching

variable {β α γ : Type} {P R : Dispatcher β → Prop} {Q : α → Dispatcher β → Prop}

/-- Every run of `x` from a state with `P` returns some `a` in a state with `Q a`, or halts in
a state with `R`. -/
def Triple (P : Dispatcher β → Prop) (x : Dispatching β α) (Q : α → Dispatcher β → Prop)
    (R : Dispatcher β → Prop) : Prop :=
  ∀ d, P d → Ended Q R (x.run d)

theorem Triple.bind {x : Dispatching β α} {f : α → Dispatching β γ} {S : γ → Dispatcher β → Prop}
    (hx : Triple P x Q R) (hf : ∀ a, Triple (Q a) (f a) S R) : Triple P (x >>= f) S R := by
  intro d hd
  have h := hx d hd
  rw [EStateM.run_bind]
  cases hr : x.run d with
  | ok a d' =>
    rw [hr] at h
    exact hf a d' h
  | error e d' =>
    rw [hr] at h
    exact h

theorem Triple.mono {x : Dispatching β α} {P' R' : Dispatcher β → Prop}
    {Q' : α → Dispatcher β → Prop} (hx : Triple P x Q R) (hP : ∀ d, P' d → P d)
    (hQ : ∀ a d, Q a d → Q' a d) (hR : ∀ d, R d → R' d) : Triple P' x Q' R' := by
  intro d hd
  have h := hx d (hP d hd)
  cases hr : x.run d with
  | ok a d' =>
    rw [hr] at h
    exact hQ a d' h
  | error e d' =>
    rw [hr] at h
    exact hR d' h

/-- A run ends in a state with `I` when each way of ending gives `I`. -/
theorem Triple.stateOf {I : Dispatcher β → Prop} {x : Dispatching β α} (hx : Triple P x Q R)
    (hQ : ∀ a d, Q a d → I d) (hR : ∀ d, R d → I d) {d : Dispatcher β} (hd : P d) :
    I (DepthBridge.stateOf (x.run d)) := by
  have h := hx d hd
  cases hr : x.run d with
  | ok a d' =>
    rw [hr] at h
    exact hQ a d' h
  | error e d' =>
    rw [hr] at h
    exact hR d' h

/-- An invariant is a triple with the invariant on every side. -/
theorem Triple.of_keeps {I : Dispatcher β → Prop} {x : Dispatching β α} (hx : Keeps I x) :
    Triple I x (fun _ => I) I := by
  intro d hd
  have h := hx d hd
  cases hr : x.run d <;> (rw [hr] at h; exact h)

theorem triple_throw (h : Halt) : Triple R (throw h : Dispatching β α) Q R := fun _ hd => hd

/-- What follows a read of the state may rely on the precondition of the state it read. -/
theorem triple_get_bind {f : Dispatcher β → Dispatching β α} (hf : ∀ d, P d → Triple P (f d) Q R) :
    Triple P (get >>= f) Q R :=
  fun d hd => hf d hd d hd

theorem triple_tryCatch {x : Dispatching β α} {handle : Halt → Dispatching β α}
    {R' : Dispatcher β → Prop} (hx : Triple P x Q R') (hh : ∀ h, Triple R' (handle h) Q R) :
    Triple P (tryCatch x handle) Q R := by
  intro d hd
  have h := hx d hd
  rw [run_tryCatch]
  cases hr : x.run d with
  | ok a d' =>
    rw [hr] at h
    exact h
  | error e d' =>
    rw [hr] at h
    exact hh e d' h

/-- A paused section: taking the guard, the body, then the resume, whose result `S` judges
beside the body's; a body that halts is unwound by dropping the guard. -/
theorem triple_paused [MessageBus β] {body : Dispatching β α} {P' : Dispatcher β → Prop}
    (S : α → Except SyncError Nat → Dispatcher β → Prop)
    (htake : Triple P (takeGuard : Dispatching β Gate.Guard) (fun _ => P') R)
    (hbody : Triple P' body Q R) (hunwind : Keeps R (resume : Dispatching β (Except SyncError Nat)))
    (hresume : ∀ a, Triple (Q a) (resume : Dispatching β (Except SyncError Nat)) (S a) R) :
    Triple P (paused body) (fun r => S r.1 r.2) R := by
  unfold paused
  refine htake.bind fun guard =>
    (triple_tryCatch hbody fun h => ?_).bind fun a => (hresume a).bind fun r _ hd => hd
  -- the halt goes on, after the guard is dropped
  exact (Triple.of_keeps (keeps_dropGuard hunwind guard)).bind fun _ => triple_throw h

end Dispatching

/-- The value of a handler's run, judged by `Q` when it is a result and by `R` when it is a
refusal. -/
def Outcome {β α : Type} (Q : α → Dispatcher β → Prop) (R : Dispatcher β → Prop) :
    Except DispatchError α → Dispatcher β → Prop
  | .ok a => Q a
  | .error _ => R

namespace Handling

variable {β α γ : Type} {P R : Dispatcher β → Prop} {Q : α → Dispatcher β → Prop}

/-- Every run of the handler `x` from a state with `P` returns some `a` in a state with `Q a`,
or refuses or halts in a state with `R`. -/
def Triple (P : Dispatcher β → Prop) (x : Handling β α) (Q : α → Dispatcher β → Prop)
    (R : Dispatcher β → Prop) : Prop :=
  Dispatching.Triple P x.run (Outcome Q R) R

theorem Triple.bind {x : Handling β α} {f : α → Handling β γ} {S : γ → Dispatcher β → Prop}
    (hx : Triple P x Q R) (hf : ∀ a, Triple (Q a) (f a) S R) : Triple P (x >>= f) S R := by
  intro d hd
  have h := hx d hd
  show Ended (Outcome S R) R ((x >>= f).run.run d)
  rw [run_bind]
  rcases hr : x.run.run d with ⟨_ | a, d'⟩ | ⟨e, d'⟩ <;> rw [hr] at h
  · exact h
  · exact hf a d' h
  · exact h

theorem Triple.mono {x : Handling β α} {P' R' : Dispatcher β → Prop}
    {Q' : α → Dispatcher β → Prop} (hx : Triple P x Q R) (hP : ∀ d, P' d → P d)
    (hQ : ∀ a d, Q a d → Q' a d) (hR : ∀ d, R d → R' d) : Triple P' x Q' R' := by
  intro d hd
  have h := hx d (hP d hd)
  rcases hr : x.run.run d with ⟨_ | a, d'⟩ | ⟨e, d'⟩ <;> rw [hr] at h
  · exact hR d' h
  · exact hQ a d' h
  · exact hR d' h

/-- The run of a handler, as a computation that cannot refuse, ends as the handler's triple
says. -/
theorem Triple.run {x : Handling β α} (hx : Triple P x Q R) :
    Dispatching.Triple P x.run (Outcome Q R) R := hx

/-- An invariant is a triple with the invariant on every side. -/
theorem Triple.of_keeps {I : Dispatcher β → Prop} {x : Handling β α} (hx : Keeps I x) :
    Triple I x (fun _ => I) I := by
  intro d hd
  have h := hx d hd
  rcases hr : x.run.run d with ⟨_ | a, d'⟩ | ⟨e, d'⟩ <;> (rw [hr] at h; exact h)

/-- A triple with one condition on every side is an invariant. -/
theorem Triple.keeps {I : Dispatcher β → Prop} {x : Handling β α} (hx : Triple I x (fun _ => I) I) :
    Keeps I x := by
  intro d hd
  have h := hx d hd
  rcases hr : x.run.run d with ⟨_ | a, d'⟩ | ⟨e, d'⟩ <;> (rw [hr] at h; exact h)

/-- A publication that, when it sends, reaches a state with `E`, and otherwise leaves the state
as it was, ends in one of the two. -/
theorem Triple.stays_or_sends {x : Handling β Bool} {d : Dispatcher β} {E : Dispatcher β → Prop}
    (hx : Triple (· = d) x (fun sent d' => if sent then E d' else d' = d) (· = d)) :
    DepthBridge.stateOf (x.run.run d) = d ∨ E (DepthBridge.stateOf (x.run.run d)) := by
  have h := hx d rfl
  generalize x.run.run d = r at h ⊢
  rcases r with ⟨_ | (_ | _), d'⟩ | ⟨e, d'⟩
  · exact .inl h
  · exact .inl h
  · exact .inr h
  · exact .inl h

theorem triple_throw (e : DispatchError) : Triple R (throw e : Handling β α) Q R := fun _ hd => hd

theorem triple_lift [MessageBus β] {x : Dispatching β α} (hx : Dispatching.Triple P x Q R) :
    Triple P (lift x) Q R := by
  intro d hd
  have h := hx d hd
  show Ended (Outcome Q R) R ((lift x : Handling β α).run.run d)
  rw [run_lift]
  cases hr : x.run d <;> (rw [hr] at h; exact h)

/-- What follows a read of the state starts from the state it read. -/
theorem triple_lift_get_bind [MessageBus β] {f : Dispatcher β → Handling β α}
    (hf : ∀ d, P d → Triple (fun d' => P d' ∧ d' = d) (f d) Q R) : Triple P (lift get >>= f) Q R :=
  fun d hd => hf d hd d ⟨hd, rfl⟩

theorem triple_ite {p : Prop} [Decidable p] {x y : Handling β α} (hx : Triple P x Q R)
    (hy : Triple P y Q R) : Triple P (if p then x else y) Q R := by
  split
  · exact hx
  · exact hy

/-- The outcome of an inner handler taken up again: a refusal goes on, a result is returned. -/
theorem triple_liftM_bind {x : Except DispatchError α} {f : α → Handling β γ}
    {S : γ → Dispatcher β → Prop} (hf : ∀ a, x = .ok a → Triple P (f a) S R)
    (hR : ∀ e, x = .error e → ∀ d, P d → R d) : Triple P (liftM x >>= f) S R := by
  cases x with
  | error e => exact fun d hd => hR e rfl d hd
  | ok a => exact hf a rfl

end Handling

end DepthBridge
