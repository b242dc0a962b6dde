import DepthBridge.Dispatch.Pipeline

/-!
# Switching pipeline stages

A pipeline runs its enabled stages in their configured order, each on what the one before gave,
and the first refusal stops it (`process_cons`, `process_append`). Switching a tag acts on the
first stage with that tag (`setEnabled_append`) and changes nothing but that stage's switch
(`off_switchAll`); a tag is enabled when any stage with it is. `SwitchingLaws` collects these
laws, which every pipeline obeys (`switchingLaws`).

So when a tag names at most one configured stage, which the configuration's rule against
repeated stages ensures for every tag, the last switch of the tag decides whether its block
runs, in its configured place among the other stages (`switch_decides_stage`). A tag listed twice
breaks this: switching it off leaves the second stage on (`repeated_stage_stays_enabled`).
-/

namespace DepthBridge

/-- The stage with its switch off: all that switching cannot change. -/
def Stage.off (st : Stage) : Stage := { st with enabled := false }

@[simp] theorem Stage.tag_off (st : Stage) : st.off.tag = st.tag := rfl

namespace Pipeline

/-- The pipeline after a run of switch requests, in order, their answers dropped. -/
def switchAll (p : Pipeline) : List (StageTag × Bool) → Pipeline
  | [] => p
  | (t, on) :: rest => (p.setEnabled t on).2.switchAll rest

theorem switchAll_append (p : Pipeline) (xs ys : List (StageTag × Bool)) :
    p.switchAll (xs ++ ys) = (p.switchAll xs).switchAll ys := by
  induction xs generalizing p with
  | nil => rfl
  | cons c rest ih => exact ih _

/-! ## Running the stages -/

/-- The first stage runs on the frameset when it is switched on, and the other stages run on
what it gives. -/
theorem process_cons (st : Stage) (rest : List Stage) (s : Frameset) :
    (⟨st :: rest⟩ : Pipeline).process s =
      (if st.enabled then st.block.process s else pure s) >>= (⟨rest⟩ : Pipeline).process := by
  cases h : st.enabled
  · simp [process, h]
  · simp only [process, List.filter_cons, h, ↓reduceIte, List.foldlM_cons]
    rfl

/-- Stages listed one after the other run one after the other. -/
theorem process_append (xs ys : List Stage) (s : Frameset) :
    (⟨xs ++ ys⟩ : Pipeline).process s =
      (⟨xs⟩ : Pipeline).process s >>= (⟨ys⟩ : Pipeline).process := by
  simp only [process, List.filter_append, List.foldlM_append]
  rfl

/-- The stage between `pre` and `post` runs on what the enabled stages of `pre` give, when it is
switched on, and `post` runs on its output. -/
theorem process_around (pre post : List Stage) (st : Stage) (s : Frameset) :
    (⟨pre ++ st :: post⟩ : Pipeline).process s =
      (⟨pre⟩ : Pipeline).process s >>= fun s₁ =>
        (if st.enabled then st.block.process s₁ else pure s₁) >>= (⟨post⟩ : Pipeline).process := by
  rw [process_append]
  congr 1
  funext s₁
  exact process_cons st post s₁

/-! ## Switching -/

/-- Switching acts on the first stage when it has the tag, and passes the request on to the
other stages when it does not. -/
theorem setEnabled_cons (st : Stage) (rest : List Stage) (t : StageTag) (on : Bool) :
    (⟨st :: rest⟩ : Pipeline).setEnabled t on =
      if st.tag = t then (true, ⟨{ st with enabled := on } :: rest⟩)
      else (((⟨rest⟩ : Pipeline).setEnabled t on).1,
        ⟨st :: ((⟨rest⟩ : Pipeline).setEnabled t on).2.stages⟩) := by
  unfold setEnabled
  rw [List.findIdx?_cons]
  by_cases h : st.tag = t
  · simp [h]
  · cases rest.findIdx? (·.tag == t) <;> simp [h]

/-- Switching stages listed one after the other acts in the first list when a stage there has
the tag, and in the second otherwise. -/
theorem setEnabled_append (xs ys : List Stage) (t : StageTag) (on : Bool) :
    (⟨xs ++ ys⟩ : Pipeline).setEnabled t on =
      if xs.any (·.tag == t) then (true, ⟨((⟨xs⟩ : Pipeline).setEnabled t on).2.stages ++ ys⟩)
      else (((⟨ys⟩ : Pipeline).setEnabled t on).1,
        ⟨xs ++ ((⟨ys⟩ : Pipeline).setEnabled t on).2.stages⟩) := by
  induction xs with
  | nil => rfl
  | cons x rest ih =>
    rw [List.cons_append, setEnabled_cons, setEnabled_cons, ih]
    by_cases hx : x.tag = t
    · simp [hx]
    · by_cases hr : rest.any (·.tag == t) <;> simp [hx, hr]

/-- A switch request is answered `true` exactly when some stage has the tag. -/
theorem setEnabled_fst (p : Pipeline) (t : StageTag) (on : Bool) :
    (p.setEnabled t on).1 = p.stages.any (·.tag == t) := by
  obtain ⟨stages⟩ := p
  induction stages with
  | nil => rfl
  | cons st rest ih =>
    rw [setEnabled_cons]
    by_cases h : st.tag = t <;> simp [h, ih]

/-- Switching changes no stage but in its switch. -/
theorem off_setEnabled (p : Pipeline) (t : StageTag) (on : Bool) :
    (p.setEnabled t on).2.stages.map Stage.off = p.stages.map Stage.off := by
  obtain ⟨stages⟩ := p
  induction stages with
  | nil => rfl
  | cons st rest ih =>
    rw [setEnabled_cons]
    by_cases h : st.tag = t
    · simp [h, Stage.off]
    · simp [h, ih]

theorem off_switchAll (p : Pipeline) (calls : List (StageTag × Bool)) :
    (p.switchAll calls).stages.map Stage.off = p.stages.map Stage.off := by
  induction calls generalizing p with
  | nil => rfl
  | cons c rest ih => exact (ih _).trans (off_setEnabled p c.1 c.2)

/-- Stages with the same shape carry the same tags. -/
theorem tags_eq_of_off_eq {xs ys : List Stage} (h : xs.map Stage.off = ys.map Stage.off) :
    xs.map (·.tag) = ys.map (·.tag) := by
  have h' := congrArg (List.map Stage.tag) h
  simpa only [List.map_map, Function.comp_def, Stage.tag_off] using h'

/-- No stage of `xs` has the tag `t`. -/
def Free (t : StageTag) (xs : List Stage) : Prop := ∀ x ∈ xs, x.tag ≠ t

theorem free_of_off_eq {t : StageTag} {xs ys : List Stage} (h : xs.map Stage.off = ys.map Stage.off)
    (hys : Free t ys) : Free t xs := by
  intro x hx hxt
  have hmem : t ∈ ys.map (·.tag) := by
    rw [← tags_eq_of_off_eq h]
    exact List.mem_map.2 ⟨x, hx, hxt⟩
  obtain ⟨y, hy, hyt⟩ := List.mem_map.1 hmem
  exact hys y hy hyt

theorem any_tag_eq_false {t : StageTag} {xs : List Stage} (h : Free t xs) :
    xs.any (·.tag == t) = false := by
  simpa [Free] using h

/-- Switching the one stage with a tag sets its switch and leaves the stages around it. -/
theorem setEnabled_isolated {t : StageTag} {pre post : List Stage} {st : Stage} (hpre : Free t pre)
    (hst : st.tag = t) (on : Bool) :
    (⟨pre ++ st :: post⟩ : Pipeline).setEnabled t on =
      (true, ⟨pre ++ { st with enabled := on } :: post⟩) := by
  rw [setEnabled_append, any_tag_eq_false hpre, setEnabled_cons, if_pos hst]
  rfl

/-- Switching another tag leaves the one stage with tag `t` as it is, between stages that still
lack the tag. -/
theorem setEnabled_keeps_isolated {t t' : StageTag} (hne : t' ≠ t) {pre post : List Stage}
    {st : Stage} (hpre : Free t pre) (hpost : Free t post) (hst : st.tag = t) (on : Bool) :
    ∃ pre' post', ((⟨pre ++ st :: post⟩ : Pipeline).setEnabled t' on).2.stages =
      pre' ++ st :: post' ∧ Free t pre' ∧ Free t post' := by
  have hst' : ¬ st.tag = t' := fun h => hne (h.symm.trans hst)
  rw [setEnabled_append]
  by_cases hin : pre.any (·.tag == t')
  · -- the request is answered in `pre`
    refine ⟨_, post, by simp only [hin, ↓reduceIte]; rfl, ?_, hpost⟩
    exact free_of_off_eq (off_setEnabled ⟨pre⟩ t' on) hpre
  · -- the request passes `pre` and `st`, and is answered in `post`
    refine ⟨pre, ((⟨post⟩ : Pipeline).setEnabled t' on).2.stages, ?_, hpre, ?_⟩
    · simp only [hin, Bool.false_eq_true, ↓reduceIte, setEnabled_cons, hst']
    · exact free_of_off_eq (off_setEnabled ⟨post⟩ t' on) hpost

/-- Requests for other tags leave the one stage with tag `t` as it is. -/
theorem switchAll_keeps_isolated {t : StageTag} (later : List (StageTag × Bool))
    (hlater : ∀ c ∈ later, c.1 ≠ t) {pre post : List Stage} {st : Stage} (hpre : Free t pre)
    (hpost : Free t post) (hst : st.tag = t) :
    ∃ pre' post', ((⟨pre ++ st :: post⟩ : Pipeline).switchAll later).stages =
      pre' ++ st :: post' ∧ Free t pre' ∧ Free t post' := by
  induction later generalizing pre post with
  | nil => exact ⟨pre, post, rfl, hpre, hpost⟩
  | cons c rest ih =>
    obtain ⟨pre₁, post₁, h₁, hpre₁, hpost₁⟩ :=
      setEnabled_keeps_isolated (hlater c List.mem_cons_self) hpre hpost hst c.2
    have hrest := ih (fun c' hc' => hlater c' (List.mem_cons_of_mem c hc')) hpre₁ hpost₁
    simp only [switchAll]
    rw [show (⟨pre ++ st :: post⟩ : Pipeline).setEnabled c.1 c.2 =
      (((⟨pre ++ st :: post⟩ : Pipeline).setEnabled c.1 c.2).1, ⟨pre₁ ++ st :: post₁⟩) by
        rw [← h₁]]
    exact hrest

/-- A list in which at most one stage has the tag, and one does, has that stage between two
lists that lack the tag. -/
theorem exists_isolated {t : StageTag} {xs : List Stage} (hle : xs.countP (·.tag == t) ≤ 1)
    (hany : xs.any (·.tag == t) = true) :
    ∃ pre st post, xs = pre ++ st :: post ∧ st.tag = t ∧ Free t pre ∧ Free t post := by
  induction xs with
  | nil => cases hany
  | cons x rest ih =>
    rw [List.countP_cons] at hle
    by_cases hx : x.tag = t
    · -- the first stage has the tag, so no later one does
      rw [if_pos (by simp [hx])] at hle
      have hzero : rest.countP (·.tag == t) = 0 := by omega
      refine ⟨[], x, rest, rfl, hx, ?_, ?_⟩
      · intro y hy
        cases hy
      · intro y hy hyt
        have hpos : 0 < rest.countP (·.tag == t) := List.countP_pos_iff.2 ⟨y, hy, by simp [hyt]⟩
        omega
    · rw [if_neg (by simp [hx])] at hle
      obtain ⟨pre, st, post, h, hst, hpre, hpost⟩ :=
        ih (by omega) (by simpa [hx] using hany)
      refine ⟨x :: pre, st, post, by rw [h]; rfl, hst, ?_, hpost⟩
      intro y hy
      rcases List.mem_cons.1 hy with rfl | hy
      · exact hx
      · exact hpre y hy

/-- A tag is enabled exactly when the one stage with it is. -/
theorem isEnabled_isolated {t : StageTag} {pre post : List Stage} {st : Stage} (hpre : Free t pre)
    (hpost : Free t post) (hst : st.tag = t) :
    (⟨pre ++ st :: post⟩ : Pipeline).isEnabled t = st.enabled := by
  have hp := any_tag_eq_false hpre
  have hq := any_tag_eq_false hpost
  simp only [List.any_eq_false, beq_iff_eq] at hp hq
  simp only [isEnabled, List.any_append, List.any_cons, hst, beq_self_eq_true, Bool.true_and]
  cases h : st.enabled <;> simp_all

/-- A request for a tag no stage has leaves the pipeline as it is. -/
theorem setEnabled_of_any_eq_false (p : Pipeline) {t : StageTag} (h : p.stages.any (·.tag == t) = false)
    (on : Bool) : p.setEnabled t on = (false, p) := by
  have hnone : p.stages.findIdx? (·.tag == t) = none := by
    rw [List.findIdx?_eq_none_iff]
    simpa using h
  simp only [setEnabled, hnone]

/-- What switching and processing do on any pipeline: a request is answered `true` exactly when
some stage has the tag, switches the first such stage and no other, and leaves every stage's
place, tag and block; a tag is enabled when any stage with it is; processing runs every enabled
stage once, in the configured order, each on what the one before gave, and the first refusal or
halt ends it. -/
structure SwitchingLaws (p : Pipeline) : Prop where
  answer : ∀ t on, (p.setEnabled t on).1 = p.stages.any (·.tag == t)
  first_only : ∀ t on pre st post, p.stages = pre ++ st :: post → Free t pre → st.tag = t →
    (p.setEnabled t on).2.stages = pre ++ { st with enabled := on } :: post
  untouched : ∀ t on, p.stages.any (·.tag == t) = false → (p.setEnabled t on).2 = p
  shape : ∀ t on, (p.setEnabled t on).2.stages.map Stage.off = p.stages.map Stage.off
  enabled_iff : ∀ t, p.isEnabled t = true ↔ ∃ st ∈ p.stages, st.tag = t ∧ st.enabled = true
  in_order : ∀ s, p.process s =
    p.stages.foldlM (fun acc st => if st.enabled then st.block.process acc else pure acc) s

theorem switchingLaws (p : Pipeline) : p.SwitchingLaws where
  answer := setEnabled_fst p
  first_only t on pre st post hsplit hpre hst := by
    obtain ⟨stages⟩ := p
    subst hsplit
    rw [setEnabled_isolated hpre hst on]
  untouched t on h := congrArg Prod.snd (setEnabled_of_any_eq_false p h on)
  shape := off_setEnabled p
  enabled_iff t := by simp [isEnabled]
  in_order s := List.foldlM_filter

/-- A configuration entry becomes at most one stage. -/
theorem countP_tag_ofConfig_le (filters : List FilterConfig) (device : Device)
    (pc : PointCloudConfig) (t : StageTag) :
    (ofConfig filters device pc).stages.countP (·.tag == t) ≤ filters.countP (·.name == t) := by
  induction filters with
  | nil => exact Nat.le_refl 0
  | cons f rest ih =>
    simp only [ofConfig] at ih ⊢
    rw [List.filterMap_cons, List.countP_cons]
    cases device.block f.name with
    | none =>
      simp only [Option.map_none]
      omega
    | some b =>
      simp only [Option.map_some, List.countP_cons]
      by_cases hc : (f.name == t) = true
      · simp only [hc, ↓reduceIte]
        omega
      · simp only [hc, Bool.false_eq_true, ↓reduceIte]
        omega

/-- Every pipeline obeys the switching laws (`SwitchingLaws`). And with a tag listed at most
once in the configuration, a switch request for it that is answered `true` decides whether its
block runs, until the tag is switched again: whatever requests came before and whatever requests
for other tags come after, the tag is enabled as the request said, and processing runs the
enabled stages before the tag's stage, then that stage's block when the request switched it on,
then the enabled stages after it. Switching leaves every stage in its configured place with its
block. -/
theorem switch_decides_stage (filters : List FilterConfig) (device : Device) (pc : PointCloudConfig)
    {t : StageTag} (ht : filters.countP (·.name == t) ≤ 1) (calls later : List (StageTag × Bool))
    (hlater : ∀ c ∈ later, c.1 ≠ t) (on : Bool)
    (hfound : (((ofConfig filters device pc).switchAll calls).setEnabled t on).1 = true) :
    let q := (ofConfig filters device pc).switchAll (calls ++ (t, on) :: later)
    (∀ p : Pipeline, p.SwitchingLaws) ∧
    q.stages.map Stage.off = (ofConfig filters device pc).stages.map Stage.off ∧
    q.isEnabled t = on ∧
    ∃ pre st post, q.stages = pre ++ st :: post ∧ st.tag = t ∧ Free t pre ∧ Free t post ∧
      ∀ s, q.process s = (⟨pre⟩ : Pipeline).process s >>= fun s₁ =>
        (if on then st.block.process s₁ else pure s₁) >>= (⟨post⟩ : Pipeline).process := by
  intro q
  let p := (ofConfig filters device pc).switchAll calls
  -- at most one stage of `p` has the tag, as switching keeps the configured tags
  have hle : p.stages.countP (·.tag == t) ≤ 1 := by
    have htags := tags_eq_of_off_eq (off_switchAll (ofConfig filters device pc) calls)
    have hcount : p.stages.countP (·.tag == t) =
        (ofConfig filters device pc).stages.countP (·.tag == t) := by
      have h := congrArg (List.countP (· == t)) htags
      simpa only [List.countP_map, Function.comp_def] using h
    exact hcount ▸ Nat.le_trans (countP_tag_ofConfig_le filters device pc t) ht
  rw [setEnabled_fst] at hfound
  obtain ⟨pre, st, post, hsplit, hst, hpre, hpost⟩ := exists_isolated hle hfound
  -- the request switches that stage, and later requests leave it
  have hset : p.setEnabled t on = (true, ⟨pre ++ { st with enabled := on } :: post⟩) := by
    rw [show p = ⟨pre ++ st :: post⟩ from congrArg Pipeline.mk hsplit]
    exact setEnabled_isolated hpre hst on
  obtain ⟨pre', post', hq, hpre', hpost'⟩ :=
    switchAll_keeps_isolated later hlater hpre hpost
      (show ({ st with enabled := on } : Stage).tag = t from hst)
  have hqs : q.stages = pre' ++ { st with enabled := on } :: post' := by
    have hq' : q = (p.setEnabled t on).2.switchAll later := by
      show (ofConfig filters device pc).switchAll (calls ++ (t, on) :: later) = _
      rw [switchAll_append]
      rfl
    rw [hq', hset]
    exact hq
  have hqe : q = ⟨pre' ++ { st with enabled := on } :: post'⟩ := congrArg Pipeline.mk hqs
  refine ⟨switchingLaws, off_switchAll _ _, ?_, pre', { st with enabled := on }, post', hqs, hst,
    hpre', hpost', fun s => ?_⟩
  · rw [hqe]
    exact isEnabled_isolated hpre' hpost' hst
  · rw [hqe, process_around]

/-- A camera with a block for every stage, each passing framesets through. -/
def passThroughCamera : Device :=
  { (default : Device) with block := fun t => some (.passThrough t.name) }

/-- Decimation on and the colorizer off: after the colorizer is switched on, switching
decimation off keeps it off while the colorizer is switched off again. -/
theorem switch_decides_stage_decimation :
    let filters := [FilterConfig.mk .decimation true, ⟨.colorizer, false⟩]
    filters.countP (·.name == .decimation) ≤ 1 ∧
      (((ofConfig filters passThroughCamera {}).switchAll [(.colorizer, true)]).setEnabled
        .decimation false).1 = true ∧
      ((ofConfig filters passThroughCamera {}).switchAll
        ([(.colorizer, true)] ++ (.decimation, false) :: [(.colorizer, false)])).isEnabled
          .decimation = false :=
  ⟨by decide, rfl,
    (switch_decides_stage [FilterConfig.mk .decimation true, ⟨.colorizer, false⟩] passThroughCamera
      {} (by decide) [(.colorizer, true)] [(.colorizer, false)] (by decide) false rfl).2.2.1⟩

/-- A colorizer stage listed twice: switching the colorizer off is answered `true` but reaches
only the first stage, so the colorizer stays enabled and the second stage still runs. -/
theorem repeated_stage_stays_enabled :
    let p := ofConfig [⟨.colorizer, true⟩, ⟨.colorizer, true⟩] passThroughCamera {}
    (p.setEnabled .colorizer false).1 = true ∧
      (p.setEnabled .colorizer false).2.isEnabled .colorizer = true ∧
      ((p.setEnabled .colorizer false).2.stages.filter (·.enabled)).map (·.tag) = [.colorizer] :=
  ⟨rfl, rfl, rfl⟩

end Pipeline
end DepthBridge
