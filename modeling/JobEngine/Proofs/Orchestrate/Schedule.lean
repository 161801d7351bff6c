import Mathlib.Data.List.Nodup
import JobEngine.Orchestrate.Plan
import JobEngine.Orchestrate.Progress

/-!
# The schedule of an orchestration

An orchestration starts a step once every step it reads has an output, and it takes the
reports of its running steps in batches, in any order. This module proves the scheduling
invariant behind that: each step is pending, running or done, the pending steps wait only for
steps that have no output yet, and a step that starts or reports moves from one place to the
next. A ready step therefore has all its inputs, and its input expression evaluates.

## Main Definitions

* `Plan.WellFormed` — each task sits at its own index and depends on the steps its input reads.
* `Progress.absorbAll`, `Progress.startAll` — a batch of successful reports taken in; steps
  started with their sub-jobs.
* `Progress.Sound` — the scheduling invariant.

## Main Statements

* `Plan.build_wellFormed` — every plan that `Plan.build` accepts is well formed.
* `Spec.eval_ok_of_deps` — an expression whose steps all have outputs evaluates.
* `Progress.Sound.absorbAll`, `Progress.Sound.startAll` — taking in reports of distinct running
  steps, and starting ready steps, keep the invariant.
* `Progress.Sound.ready_eval` — a ready step's dependencies all have outputs, and its input
  evaluates.
-/

namespace JobEngine

/-! ## Expressions evaluate once the steps they read have outputs -/

theorem mem_insertAscending {d n : Nat} {l : List Nat} :
    d ∈ insertAscending n l ↔ d = n ∨ d ∈ l := by
  induction l with
  | nil => simp [insertAscending]
  | cons m rest ih =>
    unfold insertAscending
    split
    · simp
    · split
      · next same =>
        subst same
        simp
      · simp [ih, or_left_comm]

namespace Spec

-- The three collectors only ever add to what they were given.
mutual
theorem subset_collect (acc : List Nat) : (s : Spec) → ∀ d ∈ acc, d ∈ collect acc s
  | .literal _, _, kept => kept
  | .input _, _, kept => kept
  | .const _, _, kept => kept
  | .step _ _, _, kept => mem_insertAscending.mpr (.inr kept)
  | .object fields, d, kept => subset_collectFields acc fields d kept
  | .list items, d, kept => subset_collectItems acc items d kept

theorem subset_collectItems (acc : List Nat) :
    (items : List Spec) → ∀ d ∈ acc, d ∈ collectItems acc items
  | [], _, kept => kept
  | s :: rest, d, kept => subset_collectItems (collect acc s) rest d (subset_collect acc s d kept)

theorem subset_collectFields (acc : List Nat) :
    (fields : List (String × Spec)) → ∀ d ∈ acc, d ∈ collectFields acc fields
  | [], _, kept => kept
  | (_, s) :: rest, d, kept =>
    subset_collectFields (collect acc s) rest d (subset_collect acc s d kept)
end

-- Evaluation fails only at a step reference without an output, and each reference is
-- collected; an item's collection is part of its list's, by `subset_collectItems`.
mutual
theorem eval_ok_of_collect (e : Env) (acc : List Nat) : (s : Spec) →
    (∀ d ∈ collect acc s, (e.output? d).isSome) → ∃ v, s.eval e = .ok v
  | .literal v, _ => ⟨v, rfl⟩
  | .input p, _ => ⟨lookup e.input p, rfl⟩
  | .const v, _ => ⟨v, rfl⟩
  | .step i p, recorded => by
    obtain ⟨v, found⟩ := Option.isSome_iff_exists.mp
      (recorded i (mem_insertAscending.mpr (.inl rfl)))
    exact ⟨lookup v p, by simp [eval, found, pure, Except.pure]⟩
  | .object fields, recorded => by
    obtain ⟨vs, evaluated⟩ := evalFields_ok_of_collect e acc fields recorded
    exact ⟨.obj vs, by simp [eval, evaluated, Functor.map, Except.map]⟩
  | .list items, recorded => by
    obtain ⟨vs, evaluated⟩ := evalItems_ok_of_collect e acc items recorded
    exact ⟨.arr vs, by simp [eval, evaluated, Functor.map, Except.map]⟩

theorem evalItems_ok_of_collect (e : Env) (acc : List Nat) : (items : List Spec) →
    (∀ d ∈ collectItems acc items, (e.output? d).isSome) → ∃ vs, evalItems e items = .ok vs
  | [], _ => ⟨[], rfl⟩
  | s :: rest, recorded => by
    obtain ⟨v, first⟩ := eval_ok_of_collect e acc s fun d read =>
      recorded d (subset_collectItems _ rest d read)
    obtain ⟨vs, others⟩ := evalItems_ok_of_collect e (collect acc s) rest recorded
    exact ⟨v :: vs, by simp [evalItems, first, others, pure, Except.pure, bind, Except.bind]⟩

theorem evalFields_ok_of_collect (e : Env) (acc : List Nat) :
    (fields : List (String × Spec)) →
      (∀ d ∈ collectFields acc fields, (e.output? d).isSome) → ∃ vs, evalFields e fields = .ok vs
  | [], _ => ⟨[], rfl⟩
  | (k, s) :: rest, recorded => by
    obtain ⟨v, first⟩ := eval_ok_of_collect e acc s fun d read =>
      recorded d (subset_collectFields _ rest d read)
    obtain ⟨vs, others⟩ := evalFields_ok_of_collect e (collect acc s) rest recorded
    exact ⟨(k, v) :: vs, by simp [evalFields, first, others, pure, Except.pure, bind, Except.bind]⟩
end

/-- **An expression whose steps all have outputs evaluates.** -/
theorem eval_ok_of_deps {e : Env} {s : Spec} (recorded : ∀ d ∈ s.deps, (e.output? d).isSome) :
    ∃ v, s.eval e = .ok v :=
  eval_ok_of_collect e [] s recorded

end Spec

/-! ## Plans that `Plan.build` accepts -/

namespace Plan

/-- **A well-formed plan**: each task sits at its own index and depends on exactly the steps
its input reads. -/
structure WellFormed (p : Plan) : Prop where
  index : ∀ (i : Nat) (t : Task), p.tasks[i]? = some t → t.index = i
  deps : ∀ (i : Nat) (t : Task), p.tasks[i]? = some t → t.deps = t.input.deps

theorem buildTask_ok {i : Nat} {raw : Value} {t : Task} (built : buildTask i raw = .ok t) :
    t.index = i ∧ t.deps = t.input.deps := by
  unfold buildTask at built
  simp only [bind, Except.bind] at built
  repeat' split at built
  all_goals simp_all [pure, Except.pure]
  -- what is left is the one branch that builds the task
  subst built
  exact ⟨rfl, rfl⟩

/-- A built task sits at the position of the raw step it was built from. -/
theorem buildTasks_getElem? {i : Nat} {raws : List Value} {ts : List Task}
    (built : buildTasks i raws = .ok ts) :
    ∀ k (t : Task), ts[k]? = some t → ∃ raw, buildTask (i + k) raw = .ok t := by
  induction raws generalizing i ts with
  | nil =>
    simp only [buildTasks, pure, Except.pure, Except.ok.injEq] at built
    subst built
    simp
  | cons raw rest ih =>
    simp only [buildTasks, bind, Except.bind, pure, Except.pure] at built
    split at built
    · cases built
    · next t first =>
      split at built
      · cases built
      · next ts' others =>
        simp only [Except.ok.injEq] at built
        subst built
        intro k t' found
        cases k with
        | zero =>
          simp only [List.getElem?_cons_zero, Option.some.injEq] at found
          subst found
          exact ⟨raw, first⟩
        | succ k =>
          simp only [List.getElem?_cons_succ] at found
          obtain ⟨raw', task⟩ := ih others k t' found
          exact ⟨raw', by rwa [show i + (k + 1) = i + 1 + k by omega]⟩

theorem buildTasks_ok {i : Nat} {raws : List Value} {ts : List Task}
    (built : buildTasks i raws = .ok ts) :
    ∀ k (t : Task), ts[k]? = some t → t.index = i + k ∧ t.deps = t.input.deps := by
  intro k t found
  obtain ⟨raw, task⟩ := buildTasks_getElem? built k t found
  exact buildTask_ok task

theorem build_tasks {md : Metadata} {input : Value} {p : Plan}
    (built : build md input = .ok p) : ∃ raws, buildTasks 0 raws = .ok p.tasks := by
  unfold build at built
  simp only [bind, Except.bind, pure, Except.pure] at built
  repeat' split at built
  all_goals simp_all
  -- the branches that build a plan, with or without a result expression
  all_goals
    subst built
    exact ⟨_, ‹_›⟩

/-- **Every plan that `build` accepts is well formed.** -/
theorem build_wellFormed {md : Metadata} {input : Value} {p : Plan}
    (built : build md input = .ok p) : p.WellFormed := by
  obtain ⟨raws, fromSteps⟩ := build_tasks built
  have steps := buildTasks_ok fromSteps
  exact ⟨fun i t found => by simpa using (steps i t found).1,
    fun i t found => (steps i t found).2⟩

end Plan

/-! ## Recording outputs -/

namespace Env

theorem output?_setOutput_self {e : Env} {i : Nat} (inside : i < e.outputs.length) (v : Value) :
    (e.setOutput i v).output? i = some v := by
  simp [output?, setOutput, inside]

theorem isSome_output?_setOutput {e : Env} {d : Nat} (recorded : (e.output? d).isSome)
    (i : Nat) (v : Value) : ((e.setOutput i v).output? d).isSome := by
  by_cases same : i = d
  · subst same
    have inside : i < e.outputs.length := by
      by_contra outside
      simp [output?, List.getElem?_eq_none (Nat.le_of_not_lt outside)] at recorded
    simp [output?, setOutput, inside]
  · simpa [output?, setOutput, List.getElem?_set, same] using recorded

theorem length_setOutput (e : Env) (i : Nat) (v : Value) :
    (e.setOutput i v).outputs.length = e.outputs.length := by
  simp [setOutput]

end Env

/-! ## The scheduling invariant -/

namespace Progress

/-- The progress after taking in the outputs of a batch of reports, in order, as an
orchestration takes a batch that all succeeded. -/
def absorbAll (g : Progress) (outs : List (Nat × Value)) : Progress :=
  outs.foldl (fun g o => (g.settle o.1).record o.1 o.2) g

/-- The progress after starting steps with their sub-jobs, in order. -/
def startAll (g : Progress) (started : List (Nat × Nat)) : Progress :=
  started.foldl (fun g s => (g.take s.1).launch s.1 s.2) g

/-- The pending steps. -/
def pendingIds (g : Progress) : List Nat := g.pending.map (·.1)

/-- The running steps. -/
def runningIds (g : Progress) : List Nat := g.running.map (·.1)

variable {p : Plan} {g : Progress}

/-- **The scheduling invariant** of an orchestration of plan `p`: no step is pending or running
twice or both at once, a running step is a step of the plan, and every pending step waits at
least for each of its dependencies that has no output yet. -/
structure Sound (p : Plan) (g : Progress) : Prop where
  size : g.env.outputs.length = p.tasks.length
  pendingNodup : g.pendingIds.Nodup
  runningNodup : g.runningIds.Nodup
  apart : ∀ i ∈ g.pendingIds, i ∉ g.runningIds
  runningInPlan : ∀ i ∈ g.runningIds, i < p.tasks.length
  waits : ∀ i ds, (i, ds) ∈ g.pending →
    ∃ t, p.tasks[i]? = some t ∧ ∀ d ∈ t.deps, d ∈ ds ∨ (g.env.output? d).isSome

@[simp] theorem pendingIds_settle (i : Nat) (g : Progress) :
    (g.settle i).pendingIds = g.pendingIds := rfl

@[simp] theorem pendingIds_record (i : Nat) (out : Value) (g : Progress) :
    (g.record i out).pendingIds = g.pendingIds := by
  simp [pendingIds, record, Function.comp_def]

@[simp] theorem runningIds_record (i : Nat) (out : Value) (g : Progress) :
    (g.record i out).runningIds = g.runningIds := rfl

@[simp] theorem runningIds_settle (i : Nat) (g : Progress) :
    (g.settle i).runningIds = g.runningIds.filter (· != i) := by
  simp [runningIds, settle, List.filter_map, Function.comp_def]

@[simp] theorem pendingIds_take (i : Nat) (g : Progress) :
    (g.take i).pendingIds = g.pendingIds.filter (· != i) := by
  simp [pendingIds, take, List.filter_map, Function.comp_def]

@[simp] theorem runningIds_take (i : Nat) (g : Progress) :
    (g.take i).runningIds = g.runningIds := rfl

@[simp] theorem pendingIds_launch (i sub : Nat) (g : Progress) :
    (g.launch i sub).pendingIds = g.pendingIds := rfl

@[simp] theorem runningIds_launch (i sub : Nat) (g : Progress) :
    (g.launch i sub).runningIds = g.runningIds ++ [i] := by
  simp [runningIds, launch]

theorem ready_sublist (g : Progress) : g.ready.Sublist g.pendingIds :=
  (List.filter_sublist).map _

theorem mem_pending_of_ready {i : Nat} (ready : i ∈ g.ready) : (i, []) ∈ g.pending := by
  simp only [Progress.ready, List.mem_map, List.mem_filter, List.isEmpty_iff] at ready
  obtain ⟨⟨k, ds⟩, ⟨found, empty⟩, same⟩ := ready
  simp only at empty same
  subst same empty
  exact found

@[simp] theorem absorbAll_nil (g : Progress) : g.absorbAll [] = g := rfl

@[simp] theorem absorbAll_cons (g : Progress) (o : Nat × Value) (outs : List (Nat × Value)) :
    g.absorbAll (o :: outs) = ((g.settle o.1).record o.1 o.2).absorbAll outs := rfl

@[simp] theorem startAll_nil (g : Progress) : g.startAll [] = g := rfl

@[simp] theorem startAll_cons (g : Progress) (s : Nat × Nat) (started : List (Nat × Nat)) :
    g.startAll (s :: started) = ((g.take s.1).launch s.1 s.2).startAll started := rfl

theorem pendingIds_absorbAll (g : Progress) (outs : List (Nat × Value)) :
    (g.absorbAll outs).pendingIds = g.pendingIds := by
  induction outs generalizing g with
  | nil => rfl
  | cons o outs ih => simp [ih]

theorem pendingIds_startAll (g : Progress) (started : List (Nat × Nat)) :
    (g.startAll started).pendingIds = g.pendingIds.filter (· ∉ started.map (·.1)) := by
  induction started generalizing g with
  | nil => simp
  | cons s started ih =>
    simp only [startAll_cons, ih, pendingIds_launch, pendingIds_take, List.filter_filter,
      List.map_cons, List.mem_cons, not_or]
    congr 1
    funext k
    by_cases same : k = s.1 <;> simp [same]

theorem runningIds_startAll (g : Progress) (started : List (Nat × Nat)) :
    (g.startAll started).runningIds = g.runningIds ++ started.map (·.1) := by
  induction started generalizing g with
  | nil => simp
  | cons s started ih => simp [ih]

theorem env_startAll (g : Progress) (started : List (Nat × Nat)) :
    (g.startAll started).env = g.env := by
  induction started generalizing g with
  | nil => rfl
  | cons s started ih => exact ih _

/-- Before any step started, the pending steps are the plan's steps, in order. -/
theorem pendingIds_start (wf : p.WellFormed) :
    (Progress.start p).pendingIds = List.range p.tasks.length := by
  -- each task's index is its position
  apply List.ext_getElem
  · simp [pendingIds, Progress.start]
  · intro j inside _
    simpa [pendingIds, Progress.start] using
      wf.index j _ (List.getElem?_eq_getElem (by simpa [pendingIds, Progress.start] using inside))

/-- Before any step started, each step waits for all its dependencies. -/
theorem mem_pending_start (wf : p.WellFormed) {i : Nat} {ds : List Nat}
    (entry : (i, ds) ∈ (Progress.start p).pending) : ∃ t, p.tasks[i]? = some t ∧ ds = t.deps := by
  simp only [Progress.start, List.mem_map, Prod.mk.injEq] at entry
  obtain ⟨t, member, index, deps⟩ := entry
  obtain ⟨j, found⟩ := List.mem_iff_getElem?.mp member
  have atIndex : j = i := by
    rw [← index]
    exact (wf.index j t found).symm
  subst atIndex
  exact ⟨t, found, deps.symm⟩

namespace Sound

/-- The progress of a well-formed plan before any step started is sound. -/
theorem start (wf : p.WellFormed) : Sound p (Progress.start p) where
  size := by simp [Progress.start, Env.start]
  pendingNodup := by
    rw [pendingIds_start wf]
    exact List.nodup_range
  runningNodup := by simp [runningIds, Progress.start]
  apart := by simp [runningIds, Progress.start]
  runningInPlan := by simp [runningIds, Progress.start]
  waits i ds entry := by
    obtain ⟨t, found, rfl⟩ := mem_pending_start wf entry
    exact ⟨t, found, fun d dep => .inl dep⟩

/-- **A running step's successful report keeps the invariant**: the step is done, and no
pending step waits for it any more. -/
theorem settle_record (sound : Sound p g) {i : Nat} (running : i ∈ g.runningIds)
    (out : Value) : Sound p ((g.settle i).record i out) where
  size := by
    simp only [record, settle, Env.length_setOutput]
    exact sound.size
  pendingNodup := by
    simp only [pendingIds_record, pendingIds_settle]
    exact sound.pendingNodup
  runningNodup := by
    simp only [runningIds_record, runningIds_settle]
    exact sound.runningNodup.filter _
  apart k pending := by
    simp only [pendingIds_record, pendingIds_settle] at pending
    simp only [runningIds_record, runningIds_settle, List.mem_filter, not_and]
    exact fun runningK => absurd runningK (sound.apart k pending)
  runningInPlan k runningK := by
    simp only [runningIds_record, runningIds_settle, List.mem_filter] at runningK
    exact sound.runningInPlan k runningK.1
  waits k ds' entry := by
    simp only [record, settle, List.mem_map] at entry
    obtain ⟨⟨k', ds⟩, found, same⟩ := entry
    simp only [Prod.mk.injEq] at same
    obtain ⟨rfl, rfl⟩ := same
    obtain ⟨t, task, waiting⟩ := sound.waits k' ds found
    refine ⟨t, task, fun d dep => ?_⟩
    have inside : i < g.env.outputs.length := by
      rw [sound.size]
      exact sound.runningInPlan i running
    rcases waiting d dep with stillWaits | recorded
    · by_cases reported : d = i
      · -- the report itself records the dependency
        subst reported
        right
        simp [record, settle, Env.output?_setOutput_self inside]
      · exact .inl (List.mem_filter.mpr ⟨stillWaits, by simpa using reported⟩)
    · exact .inr (Env.isSome_output?_setOutput recorded i out)

/-- **Starting a pending step keeps the invariant**: it runs, and no longer waits. -/
theorem take_launch (sound : Sound p g) {i : Nat} (pending : i ∈ g.pendingIds) (sub : Nat) :
    Sound p ((g.take i).launch i sub) where
  size := sound.size
  pendingNodup := by
    simp only [pendingIds_launch, pendingIds_take]
    exact sound.pendingNodup.filter _
  runningNodup := by
    simp only [runningIds_launch, runningIds_take]
    exact sound.runningNodup.append (List.nodup_singleton i)
      (by simpa using sound.apart i pending)
  apart k pendingK := by
    simp only [pendingIds_launch, pendingIds_take, List.mem_filter, bne_iff_ne] at pendingK
    simp only [runningIds_launch, runningIds_take, List.mem_append, List.mem_singleton,
      not_or]
    exact ⟨sound.apart k pendingK.1, pendingK.2⟩
  runningInPlan k runningK := by
    simp only [runningIds_launch, runningIds_take, List.mem_append, List.mem_singleton]
      at runningK
    rcases runningK with old | rfl
    · exact sound.runningInPlan k old
    · -- a pending step has a task
      obtain ⟨⟨k', ds⟩, found, same⟩ := List.mem_map.mp pending
      simp only at same
      subst same
      obtain ⟨t, task, _⟩ := sound.waits k' ds found
      exact (List.getElem?_eq_some_iff.mp task).1
  waits k ds entry := by
    simp only [launch, take, List.mem_filter] at entry
    exact sound.waits k ds entry.1

/-- Once the first of a batch of reports of distinct running steps is taken in, the others
are still of running steps. -/
theorem running_of_absorbed {o : Nat × Value} {outs : List (Nat × Value)}
    (distinct : ((o :: outs).map (·.1)).Nodup) (running : ∀ o' ∈ o :: outs, o'.1 ∈ g.runningIds) :
    ∀ o' ∈ outs, o'.1 ∈ ((g.settle o.1).record o.1 o.2).runningIds := by
  simp only [List.map_cons, List.nodup_cons] at distinct
  intro o' member
  simp only [runningIds_record, runningIds_settle, List.mem_filter, bne_iff_ne]
  refine ⟨running o' (by simp [member]), fun same => distinct.1 ?_⟩
  rw [← same]
  exact List.mem_map_of_mem member

/-- Taking in the successful reports of distinct running steps keeps the invariant. -/
theorem absorbAll (sound : Sound p g) {outs : List (Nat × Value)}
    (distinct : (outs.map (·.1)).Nodup) (running : ∀ o ∈ outs, o.1 ∈ g.runningIds) :
    Sound p (g.absorbAll outs) := by
  induction outs generalizing g with
  | nil => exact sound
  | cons o outs ih =>
    rw [absorbAll_cons]
    apply ih (sound.settle_record (running o (by simp)) o.2) (List.nodup_cons.mp distinct).2
    exact running_of_absorbed distinct running

/-- Each report taken in stops one running step. -/
theorem length_runningIds_absorbAll (sound : Sound p g) {outs : List (Nat × Value)}
    (distinct : (outs.map (·.1)).Nodup) (running : ∀ o ∈ outs, o.1 ∈ g.runningIds) :
    (g.absorbAll outs).runningIds.length + outs.length = g.runningIds.length := by
  induction outs generalizing g with
  | nil => simp
  | cons o outs ih =>
    have member := running o (by simp)
    -- the settled step is running once, so settling it drops one entry
    have settled : ((g.settle o.1).record o.1 o.2).runningIds.length + 1 = g.runningIds.length := by
      rw [runningIds_record, runningIds_settle, ← sound.runningNodup.erase_eq_filter,
        List.length_erase_of_mem member]
      have := List.length_pos_of_mem member
      omega
    rw [absorbAll_cons, List.length_cons, ← settled,
      ← ih (sound.settle_record member o.2) (List.nodup_cons.mp distinct).2
        (running_of_absorbed distinct running)]
    omega

/-- Starting distinct pending steps keeps the invariant. -/
theorem startAll (sound : Sound p g) {started : List (Nat × Nat)}
    (distinct : (started.map (·.1)).Nodup) (pending : ∀ s ∈ started, s.1 ∈ g.pendingIds) :
    Sound p (g.startAll started) := by
  induction started generalizing g with
  | nil => exact sound
  | cons s started ih =>
    simp only [List.map_cons, List.nodup_cons] at distinct
    rw [startAll_cons]
    apply ih (sound.take_launch (pending s (by simp)) s.2) distinct.2
    intro s' member
    simp only [pendingIds_launch, pendingIds_take, List.mem_filter, bne_iff_ne]
    refine ⟨pending s' (by simp [member]), fun same => distinct.1 ?_⟩
    rw [← same]
    exact List.mem_map_of_mem member

/-- A pending step is a step of the plan. -/
theorem pending_task (sound : Sound p g) {i : Nat} (pending : i ∈ g.pendingIds) :
    (p.tasks[i]?).isSome := by
  obtain ⟨⟨k, ds⟩, entry, rfl⟩ := List.mem_map.mp pending
  obtain ⟨t, task, _⟩ := sound.waits k ds entry
  simp [task]

/-- The ready steps are distinct. -/
theorem ready_nodup (sound : Sound p g) : g.ready.Nodup :=
  (ready_sublist g).nodup sound.pendingNodup

/-- **A ready step's dependencies all have outputs.** -/
theorem ready_deps (sound : Sound p g) {i : Nat} (ready : i ∈ g.ready) :
    ∃ t, p.tasks[i]? = some t ∧ ∀ d ∈ t.deps, (g.env.output? d).isSome := by
  obtain ⟨t, task, waiting⟩ := sound.waits i [] (mem_pending_of_ready ready)
  exact ⟨t, task, fun d dep => (waiting d dep).resolve_left (List.not_mem_nil)⟩

/-- **A ready step's input evaluates**, so starting it never fails on its input. -/
theorem ready_eval (wf : p.WellFormed) (sound : Sound p g) {i : Nat} (ready : i ∈ g.ready) :
    ∃ t, p.tasks[i]? = some t ∧ (∀ d ∈ t.deps, (g.env.output? d).isSome) ∧
      ∃ v, t.input.eval g.env = .ok v := by
  obtain ⟨t, task, recorded⟩ := sound.ready_deps ready
  refine ⟨t, task, recorded, Spec.eval_ok_of_deps ?_⟩
  rw [← wf.deps i t task]
  exact recorded

end Sound

end Progress

end JobEngine
