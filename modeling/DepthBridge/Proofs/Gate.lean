import DepthBridge.Sync.Gate

/-!
# What the pausable gate delivers

A gate is driven by its callers: they pause it, resume it, publish through it, and take pause
guards that they later drop or resume through. Here every such sequence of calls is run against
a publisher that writes down what it is handed and answers as it likes, and the gate's promises
are proved for all of them.

* `Valid`: the queue stays within the bound, it is empty unless the gate is paused, and a
  disabled gate is never paused. `create` gives a valid gate and every operation keeps it valid.
* `publish_refused_iff`: a publication is refused with an overflow exactly when the gate is
  paused and its queue full, and the refusal changes nothing.
* `perform_quiet`: an operation that leaves the gate paused hands nothing to the publisher.
* `runOps_conserves`: what the publisher was handed, followed by the queue, is always what was
  handed before, followed by the old queue and the accepted publications.
* `gate_delivers_accepted_once`: all of it for the gates that `create` makes.
-/

namespace DepthBridge
namespace Gate

variable {α σ : Type} {p : α → StateM σ (Except ContractError Unit)}

/-! ## One lemma per operation -/

@[simp] theorem pending_pause (g : Gate α) : g.pause.pending = g.pending := by
  unfold Gate.pause
  split <;> rfl

theorem resume_run_of_open (g : Gate α) (s : σ) (h : g.depth = 0) :
    ((g.resume p).run s).run = ((.ok 0, g), s) := by
  simp [resume, h]

theorem resume_run_of_nested (g : Gate α) (s : σ) (h : 1 < g.depth) :
    ((g.resume p).run s).run = ((.ok 0, { g with depth := g.depth - 1 }), s) := by
  have h0 : g.depth ≠ 0 := by omega
  simp [resume, h, h0]

/-- The resume that closes the last pause empties the queue through the publisher. -/
theorem resume_run_of_last (g : Gate α) (s : σ) (h : g.depth = 1) :
    ((g.resume p).run s).run.1.2 = { g with depth := 0, pending := [] } ∧
      ((g.resume p).run s).run.2 = ((deliverAll p g.pending).run s).run.2 := by
  simp only [resume, h, Nat.one_ne_zero, if_false, gt_iff_lt, Nat.lt_irrefl]
  simp only [StateT.run_bind, Id.run_bind]
  constructor <;> split <;> rfl

/-- An open gate hands the message straight over; a failure it reports is the publisher's. -/
theorem publish_run_of_open (g : Gate α) (s : σ) (msg : α) (h : g.depth = 0) :
    ((g.publish p msg).run s).run.1.2 = g ∧
      ((g.publish p msg).run s).run.2 = ((p msg).run s).run.2 ∧
      ∀ e, ((g.publish p msg).run s).run.1.1 = .error e → ∃ c, e = .contract c := by
  simp only [publish, h, if_true, StateT.run_bind, Id.run_bind]
  refine ⟨?_, ?_, ?_⟩
  · split <;> rfl
  · split <;> rfl
  · intro e he
    split at he
    · cases he
    · exact ⟨_, (Except.error.inj he).symm⟩

theorem publish_run_of_full (g : Gate α) (s : σ) (msg : α) (h : g.depth ≠ 0)
    (hfull : g.capacity ≤ g.pending.length) :
    ((g.publish p msg).run s).run =
      ((.error (.queueOverflow g.name g.pending.length g.capacity), g), s) := by
  simp [publish, h, hfull]

theorem publish_run_of_room (g : Gate α) (s : σ) (msg : α) (h : g.depth ≠ 0)
    (hroom : g.pending.length < g.capacity) :
    ((g.publish p msg).run s).run = ((.ok (), { g with pending := g.pending ++ [msg] }), s) := by
  have hfits : ¬ g.capacity ≤ g.pending.length := by omega
  simp [publish, h, hfits]

/-! ## The invariant -/

/-- What a gate made by `create` keeps whatever is done to it. -/
structure Valid (g : Gate α) : Prop where
  capacity_pos : 0 < g.capacity
  length_le : g.pending.length ≤ g.capacity
  pending_of_open : g.depth = 0 → g.pending = []
  open_of_disabled : g.enabled = false → g.depth = 0

theorem valid_create (name : String) (capacity : Nat) (enabled : Bool) :
    Valid (create name capacity enabled : Gate α) where
  capacity_pos := by simp only [create]; omega
  length_le := by simp [create]
  pending_of_open := fun _ => rfl
  open_of_disabled := fun _ => rfl

theorem Valid.pause {g : Gate α} (hg : Valid g) : Valid g.pause := by
  unfold Gate.pause
  split
  · exact ⟨hg.capacity_pos, hg.length_le, by simp, by simp_all⟩
  · exact hg

theorem Valid.resume {g : Gate α} (hg : Valid g) (s : σ) :
    Valid ((g.resume p).run s).run.1.2 := by
  rcases Nat.lt_trichotomy g.depth 1 with hlt | heq | hgt
  · rw [resume_run_of_open g s (by omega)]
    exact hg
  · rw [(resume_run_of_last g s heq).1]
    exact ⟨hg.capacity_pos, by simp, fun _ => rfl, fun _ => rfl⟩
  · rw [resume_run_of_nested g s hgt]
    refine ⟨hg.capacity_pos, hg.length_le, fun h => ?_, fun h => ?_⟩
    · simp at h
      omega
    · have := hg.open_of_disabled h
      omega

theorem Valid.publish {g : Gate α} (hg : Valid g) (s : σ) (msg : α) :
    Valid ((g.publish p msg).run s).run.1.2 := by
  by_cases h : g.depth = 0
  · rw [(publish_run_of_open g s msg h).1]
    exact hg
  · by_cases hfull : g.capacity ≤ g.pending.length
    · rw [publish_run_of_full g s msg h hfull]
      exact hg
    · rw [publish_run_of_room g s msg h (by omega)]
      refine ⟨hg.capacity_pos, ?_, fun h' => absurd h' h,
        fun h' => absurd (hg.open_of_disabled h') h⟩
      simp only [List.length_append, List.length_singleton]
      omega

/-- On a valid gate a pause followed by a resume changes nothing and publishes nothing: the
queue can only be flushed by the resume that closes the last pause, and a valid gate that was
open had nothing queued. -/
theorem resume_pause {g : Gate α} (hg : Valid g) (s : σ) :
    ((g.pause.resume p).run s).run = ((.ok 0, g), s) := by
  cases he : g.enabled with
  | false =>
    have hp : g.pause = g := by simp [Gate.pause, he]
    rw [hp, resume_run_of_open g s (hg.open_of_disabled he)]
  | true =>
    have hp : g.pause = { g with depth := g.depth + 1 } := by simp [Gate.pause, he]
    rw [hp]
    cases hd : g.depth with
    | zero =>
      have hq := hg.pending_of_open hd
      obtain ⟨name, enabled, capacity, depth, pending⟩ := g
      simp only at hd hq
      subst hd hq
      rfl
    | succ n =>
      rw [resume_run_of_nested _ s (by simp)]
      simp [← hd]

/-! ## Operations -/

/-- What a caller can do to a gate: pause it, resume it, publish through it, take a pause guard,
and end a guard by dropping it or by resuming through it. -/
inductive Op (α : Type) where
  | pause
  | resume
  | publish (msg : α)
  | takeGuard
  | dropGuard
  | resumeGuard

/-- The error an outcome reports, if any. -/
def reported {β : Type} : Except SyncError β → Option SyncError
  | .ok _ => none
  | .error e => some e

/-- Whether a reported error is the refusal of a full queue. -/
def overflowed : Option SyncError → Bool
  | some (.queueOverflow ..) => true
  | _ => false

/-- Performs one operation; returns the error it reports, if any. Resuming through a guard is a
plain resume. A guard is dropped as it was taken: a gate's `enabled` never changes, so the
guard a call took is the one the gate would give now. -/
def Op.perform (p : α → StateM σ (Except ContractError Unit)) :
    Op α → Gate α → StateM σ (Option SyncError × Gate α)
  | .pause, g => pure (none, g.pause)
  | .takeGuard, g => pure (none, g.takeGuard.2)
  | .resume, g | .resumeGuard, g => do
    let (r, g) ← g.resume p
    pure (reported r, g)
  | .publish msg, g => do
    let (r, g) ← g.publish p msg
    pure (reported r, g)
  | .dropGuard, g => do
    pure (none, ← g.takeGuard.1.drop p g)

/-- Performs the operations in order: the errors they reported, and the gate after them. -/
def runOps (p : α → StateM σ (Except ContractError Unit)) :
    List (Op α) → Gate α → StateM σ (List (Option SyncError) × Gate α)
  | [], g => pure ([], g)
  | op :: rest, g => do
    let (e, g) ← op.perform p g
    let (es, g) ← runOps p rest g
    pure (e :: es, g)

/-- The messages published by the operations and not refused as an overflow, in order, given
the error each operation reported. -/
def accepted : List (Op α) → List (Option SyncError) → List α
  | .publish msg :: ops, e :: es => (if overflowed e then [] else [msg]) ++ accepted ops es
  | _ :: ops, _ :: es => accepted ops es
  | _, _ => []

theorem accepted_cons (op : Op α) (ops : List (Op α)) (e : Option SyncError)
    (es : List (Option SyncError)) :
    accepted (op :: ops) (e :: es) = accepted [op] [e] ++ accepted ops es := by
  cases op <;> simp [accepted]

theorem runOps_cons (op : Op α) (rest : List (Op α)) (g : Gate α) (s : σ) :
    ((runOps p (op :: rest) g).run s).run =
      let first := ((op.perform p g).run s).run
      let after := ((runOps p rest first.1.2).run first.2).run
      ((first.1.1 :: after.1.1, after.1.2), after.2) := by
  simp only [runOps, StateT.run_bind, Id.run_bind]
  rfl

section perform

variable (p) (g : Gate α) (s : σ)

theorem perform_pause : ((Op.pause.perform p g).run s).run = ((none, g.pause), s) := rfl

theorem perform_takeGuard : ((Op.takeGuard.perform p g).run s).run = ((none, g.pause), s) := rfl

theorem perform_resume :
    ((Op.resume.perform p g).run s).run =
      ((reported ((g.resume p).run s).run.1.1, ((g.resume p).run s).run.1.2),
        ((g.resume p).run s).run.2) := rfl

theorem perform_resumeGuard :
    ((Op.resumeGuard.perform p g).run s).run = ((Op.resume.perform p g).run s).run := rfl

theorem perform_publish (msg : α) :
    (((Op.publish msg).perform p g).run s).run =
      ((reported ((g.publish p msg).run s).run.1.1, ((g.publish p msg).run s).run.1.2),
        ((g.publish p msg).run s).run.2) := rfl

theorem perform_dropGuard :
    ((Op.dropGuard.perform p g).run s).run =
      if g.enabled then ((none, ((g.resume p).run s).run.1.2), ((g.resume p).run s).run.2)
      else ((none, g), s) := by
  by_cases he : g.enabled
  · simp only [Op.perform, Gate.takeGuard, Guard.drop, he, if_true]
    rfl
  · simp only [Op.perform, Gate.takeGuard, Guard.drop, he, Bool.false_eq_true, if_false]
    rfl

end perform

theorem Valid.perform {g : Gate α} (hg : Valid g) (s : σ) (op : Op α) :
    Valid ((op.perform p g).run s).run.1.2 := by
  cases op with
  | pause => exact hg.pause
  | takeGuard => exact hg.pause
  | resume => exact hg.resume s
  | resumeGuard => exact hg.resume s
  | publish msg => exact hg.publish s msg
  | dropGuard =>
    rw [perform_dropGuard]
    split
    · exact hg.resume s
    · exact hg

theorem Valid.runOps {g : Gate α} (hg : Valid g) (s : σ) (ops : List (Op α)) :
    Valid ((runOps p ops g).run s).run.1.2 := by
  induction ops generalizing g s with
  | nil => exact hg
  | cons op rest ih =>
    rw [runOps_cons]
    exact ih (hg.perform s op) _

/-- Whether `g'` has the name, switch and bound of `g`: no operation changes them. -/
def SameSetup (g g' : Gate α) : Prop :=
  g'.name = g.name ∧ g'.enabled = g.enabled ∧ g'.capacity = g.capacity

theorem SameSetup.trans {g g' g'' : Gate α} (h : SameSetup g g') (h' : SameSetup g' g'') :
    SameSetup g g'' :=
  ⟨h'.1.trans h.1, h'.2.1.trans h.2.1, h'.2.2.trans h.2.2⟩

theorem sameSetup_pause (g : Gate α) : SameSetup g g.pause := by
  unfold Gate.pause
  split <;> exact ⟨rfl, rfl, rfl⟩

theorem sameSetup_resume (g : Gate α) (s : σ) : SameSetup g ((g.resume p).run s).run.1.2 := by
  rcases Nat.lt_trichotomy g.depth 1 with hlt | heq | hgt
  · rw [resume_run_of_open g s (by omega)]
    exact ⟨rfl, rfl, rfl⟩
  · rw [(resume_run_of_last g s heq).1]
    exact ⟨rfl, rfl, rfl⟩
  · rw [resume_run_of_nested g s hgt]
    exact ⟨rfl, rfl, rfl⟩

theorem sameSetup_publish (g : Gate α) (s : σ) (msg : α) :
    SameSetup g ((g.publish p msg).run s).run.1.2 := by
  by_cases h0 : g.depth = 0
  · rw [(publish_run_of_open g s msg h0).1]
    exact ⟨rfl, rfl, rfl⟩
  · by_cases hfull : g.capacity ≤ g.pending.length
    · rw [publish_run_of_full g s msg h0 hfull]
      exact ⟨rfl, rfl, rfl⟩
    · rw [publish_run_of_room g s msg h0 (by omega)]
      exact ⟨rfl, rfl, rfl⟩

theorem sameSetup_perform (g : Gate α) (s : σ) (op : Op α) :
    SameSetup g ((op.perform p g).run s).run.1.2 := by
  cases op with
  | pause => exact sameSetup_pause g
  | takeGuard => exact sameSetup_pause g
  | resume => exact sameSetup_resume g s
  | resumeGuard => exact sameSetup_resume g s
  | publish msg => exact sameSetup_publish g s msg
  | dropGuard =>
    rw [perform_dropGuard]
    split
    · exact sameSetup_resume g s
    · exact ⟨rfl, rfl, rfl⟩

theorem sameSetup_runOps (g : Gate α) (s : σ) (ops : List (Op α)) :
    SameSetup g ((runOps p ops g).run s).run.1.2 := by
  induction ops generalizing g s with
  | nil => exact ⟨rfl, rfl, rfl⟩
  | cons op rest ih =>
    rw [runOps_cons]
    exact (sameSetup_perform g s op).trans (ih _ _)

/-! ## Nothing goes out while the gate stays paused -/

theorem resume_quiet (g : Gate α) (s : σ) (h : 0 < ((g.resume p).run s).run.1.2.depth) :
    ((g.resume p).run s).run.2 = s := by
  rcases Nat.lt_trichotomy g.depth 1 with hlt | heq | hgt
  · rw [resume_run_of_open g s (by omega)]
  · rw [(resume_run_of_last g s heq).1] at h
    simp at h
  · rw [resume_run_of_nested g s hgt]

theorem publish_quiet (g : Gate α) (s : σ) (msg : α)
    (h : 0 < ((g.publish p msg).run s).run.1.2.depth) :
    ((g.publish p msg).run s).run.2 = s := by
  by_cases h0 : g.depth = 0
  · rw [(publish_run_of_open g s msg h0).1] at h
    omega
  · by_cases hfull : g.capacity ≤ g.pending.length
    · rw [publish_run_of_full g s msg h0 hfull]
    · rw [publish_run_of_room g s msg h0 (by omega)]

/-- An operation that leaves the gate paused hands nothing to the publisher. -/
theorem perform_quiet (g : Gate α) (s : σ) (op : Op α)
    (h : 0 < ((op.perform p g).run s).run.1.2.depth) :
    ((op.perform p g).run s).run.2 = s := by
  cases op with
  | pause => rfl
  | takeGuard => rfl
  | resume => exact resume_quiet g s h
  | resumeGuard => exact resume_quiet g s h
  | publish msg => exact publish_quiet g s msg h
  | dropGuard =>
    rw [perform_dropGuard] at h ⊢
    split
    · rename_i he
      simp only [he, if_true] at h
      exact resume_quiet g s h
    · rfl

/-! ## Refusal -/

/-- A valid gate refuses a publication with an overflow exactly when it is paused with a full
queue; the refusal names the full depth and the bound, and changes nothing. -/
theorem publish_refused_iff {g : Gate α} (hg : Valid g) (s : σ) (msg : α) :
    ((∃ n d m, ((g.publish p msg).run s).run.1.1 = .error (.queueOverflow n d m)) ↔
      0 < g.depth ∧ g.pending.length = g.capacity) ∧
    (0 < g.depth ∧ g.pending.length = g.capacity →
      ((g.publish p msg).run s).run =
        ((.error (.queueOverflow g.name g.capacity g.capacity), g), s)) := by
  by_cases h0 : g.depth = 0
  · obtain ⟨-, -, hc⟩ := publish_run_of_open (p := p) g s msg h0
    refine ⟨⟨?_, fun h => by omega⟩, fun h => by omega⟩
    rintro ⟨n, d, m, he⟩
    obtain ⟨c, hc'⟩ := hc _ he
    cases hc'
  · by_cases hfull : g.capacity ≤ g.pending.length
    · have heq : g.pending.length = g.capacity := Nat.le_antisymm hg.length_le hfull
      rw [publish_run_of_full g s msg h0 hfull, heq]
      exact ⟨⟨fun _ => ⟨by omega, rfl⟩, fun _ => ⟨_, _, _, rfl⟩⟩, fun _ => rfl⟩
    · rw [publish_run_of_room g s msg h0 (by omega)]
      refine ⟨⟨?_, fun h => by omega⟩, fun h => by omega⟩
      rintro ⟨n, d, m, he⟩
      cases he

/-! ## What the publisher is handed -/

/-- A publisher that writes down every message it is handed and answers as `verdict` says of
the message and of what it was handed before. Whatever a publisher answers over one run, some
`verdict` answers the same. -/
def recorder (verdict : List α → α → Except ContractError Unit) (x : α) :
    StateM (List α) (Except ContractError Unit) :=
  modifyGet fun log => (verdict log x, log ++ [x])

variable {v : List α → α → Except ContractError Unit}

/-- A delivery hands every message over, in order, whatever the publisher answers. -/
theorem deliverAll_recorder (xs log : List α) :
    ((deliverAll (recorder v) xs).run log).run.2 = log ++ xs := by
  induction xs generalizing log with
  | nil => simp [deliverAll]
  | cons x rest ih =>
    simp only [deliverAll, recorder, StateT.run_bind, StateT.run_modifyGet]
    cases v log x <;> simp [ih]

theorem drain_recorder (g : Gate α) (log : List α) :
    ((g.drain (recorder v)).run log).run = ({ g with pending := [] }, log ++ g.pending) := by
  simp [drain, deliverAll_recorder]

theorem resume_conserves (g : Gate α) (log : List α) :
    ((g.resume (recorder v)).run log).run.2 ++ ((g.resume (recorder v)).run log).run.1.2.pending =
      log ++ g.pending := by
  rcases Nat.lt_trichotomy g.depth 1 with hlt | heq | hgt
  · rw [resume_run_of_open g log (by omega)]
  · obtain ⟨hg', hl⟩ := resume_run_of_last (p := recorder v) g log heq
    rw [hg', hl, deliverAll_recorder]
    simp
  · rw [resume_run_of_nested g log hgt]

theorem publish_conserves {g : Gate α} (hg : Valid g) (log : List α) (msg : α) :
    let out := ((g.publish (recorder v) msg).run log).run
    out.2 ++ out.1.2.pending = log ++ g.pending ++ accepted [.publish msg] [reported out.1.1] := by
  intro out
  by_cases h0 : g.depth = 0
  · obtain ⟨hgate, hlog, hc⟩ := publish_run_of_open (p := recorder v) g log msg h0
    -- a message handed straight over was not refused, whatever the publisher said
    have hnot : overflowed (reported out.1.1) = false := by
      cases hr : out.1.1 with
      | ok _ => rfl
      | error e =>
        obtain ⟨c, rfl⟩ := hc e hr
        rfl
    -- and it goes out behind nothing, since an open valid gate holds no queue
    rw [hgate, hlog, hg.pending_of_open h0]
    simp [recorder, accepted, hnot]
  · by_cases hfull : g.capacity ≤ g.pending.length
    · have hout : out = ((.error (.queueOverflow g.name g.pending.length g.capacity), g), log) :=
        publish_run_of_full g log msg h0 hfull
      rw [hout]
      simp [reported, overflowed, accepted]
    · have hout : out = ((.ok (), { g with pending := g.pending ++ [msg] }), log) :=
        publish_run_of_room g log msg h0 (by omega)
      rw [hout]
      simp [reported, overflowed, accepted]

theorem perform_conserves {g : Gate α} (hg : Valid g) (log : List α) (op : Op α) :
    let out := ((op.perform (recorder v) g).run log).run
    out.2 ++ out.1.2.pending = log ++ g.pending ++ accepted [op] [out.1.1] := by
  intro out
  cases op with
  | pause => simp [out, perform_pause, accepted]
  | takeGuard => simp [out, perform_takeGuard, accepted]
  | resume => simpa [out, perform_resume, accepted] using resume_conserves g log
  | resumeGuard =>
    simpa [out, perform_resumeGuard, perform_resume, accepted] using resume_conserves g log
  | publish msg =>
    have h := publish_conserves (v := v) hg log msg
    simp only at h
    simpa [out, perform_publish] using h
  | dropGuard =>
    -- dropping a guard resumes only when the gate is enabled
    simp only [out, perform_dropGuard]
    split
    · simpa [accepted] using resume_conserves g log
    · simp [accepted]

/-- Along any run the publisher's log followed by the queue grows by exactly the accepted
publications. -/
theorem runOps_conserves {g : Gate α} (hg : Valid g) (log : List α) (ops : List (Op α)) :
    let out := ((runOps (recorder v) ops g).run log).run
    out.2 ++ out.1.2.pending = log ++ g.pending ++ accepted ops out.1.1 := by
  -- induction on the operations, from any valid gate and log: the first operation conserves,
  -- and the rest of the run starts from the gate and log it left
  induction ops generalizing g log with
  | nil => simp [runOps, accepted]
  | cons op rest ih =>
    intro out
    have hstep := perform_conserves (v := v) hg log op
    have hrest := ih (hg.perform (p := recorder v) log op)
      (((op.perform (recorder v) g).run log).run.2)
    simp only at hstep hrest
    simp only [out, runOps_cons]
    rw [accepted_cons, hrest, hstep]
    simp

/-- A gate made by `create`, whatever its callers do to it by pauses, resumes, publications and
pause guards in any order, keeps its queue within its bound and empty unless paused; a
publication is refused with an overflow exactly when the gate is paused and its queue full, and
is then without effect; no operation that leaves the gate paused hands anything to the
publisher; and when the gate goes away, the publisher has been handed every publication that
was not refused, once each and in order, whatever it answered. -/
theorem gate_delivers_accepted_once (name : String) (capacity : Nat) (enabled : Bool)
    (verdict : List α → α → Except ContractError Unit) (ops : List (Op α)) :
    let run := ((runOps (recorder verdict) ops (create name capacity enabled)).run []).run
    let g := run.1.2
    g.pending.length ≤ max capacity 1 ∧ (g.depth = 0 → g.pending = []) ∧
    (∀ msg, let out := ((g.publish (recorder verdict) msg).run run.2).run
      ((∃ n d m, out.1.1 = .error (.queueOverflow n d m)) ↔
        0 < g.depth ∧ g.pending.length = max capacity 1) ∧
      (0 < g.depth ∧ g.pending.length = max capacity 1 →
        out = ((.error (.queueOverflow name (max capacity 1) (max capacity 1)), g), run.2))) ∧
    (∀ op : Op α, let out := ((op.perform (recorder verdict) g).run run.2).run
      0 < out.1.2.depth → out.2 = run.2) ∧
    ((g.drain (recorder verdict)).run run.2).run.2 = accepted ops run.1.1 := by
  intro run g
  have hvalid : Valid g := (valid_create name capacity enabled).runOps [] ops
  obtain ⟨hname, -, hcap⟩ :=
    sameSetup_runOps (p := recorder verdict) (create name capacity enabled) [] ops
  have hcap' : g.capacity = max capacity 1 := hcap
  have hname' : g.name = name := hname
  refine ⟨hcap' ▸ hvalid.length_le, hvalid.pending_of_open, fun msg => ?_, fun op => ?_, ?_⟩
  · have h := publish_refused_iff (p := recorder verdict) hvalid run.2 msg
    rw [hcap', hname'] at h
    exact h
  · exact perform_quiet g run.2 op
  · -- the run started from an empty log and an empty queue, and the drop flushes the queue
    have hcons := runOps_conserves (v := verdict) (valid_create name capacity enabled) [] ops
    rw [drain_recorder]
    exact hcons

end Gate
end DepthBridge
