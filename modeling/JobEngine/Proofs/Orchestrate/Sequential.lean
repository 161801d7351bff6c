import Mathlib.Data.Nat.Find
import JobEngine.Proofs.Orchestrate.Schedule

/-!
# The sequential run of an orchestration

An orchestration is written as a list of steps, each reading the outputs of earlier steps, and
a result expression. Its meaning is the sequential run: step `i`, in order, is invoked with its
input evaluated over the outputs of steps `0 … i-1`, its output is recorded, and the result
expression is evaluated over all outputs. This module defines that run as a left-to-right fold
and proves what the concurrent scheduler needs of it:

* expressions read only the steps they name (`Spec.eval_congr`), so a step's input has the same
  value over any environment that holds the outputs of its dependencies;
* every plan that `Plan.build` accepts is in step order (`Plan.build_ordered`), so the
  sequential run of such a plan never fails, whatever the steps output (`Plan.sequential_ok`);
* the accounting of the scheduler (`Progress.Accounted`): every step is pending, running or
  done, a wait list names only steps without an output, and the outstanding count is the
  number of steps pending or running. Together with the step order this rules out a round in
  which steps are outstanding but none is ready and none runs (`Progress.Accounted.progresses`).

## Main Definitions

* `Plan.Ordered` — every step reads only earlier steps, and the result only steps of the plan.
* `Plan.envBefore` — the environment of the sequential run before a step.
* `Plan.sequential` — the sequential run: each step's input, and the result.
* `Progress.Accounted` — the scheduler's accounting of the steps.

## Main Statements

* `Spec.eval_congr` — evaluation depends only on the input and the outputs of the steps read.
* `Plan.build_ordered` — the plans `Plan.build` accepts are in step order.
* `Plan.sequential_ok` — the sequential run of an ordered plan gives every step's input and
  the result.
* `Progress.Accounted.progresses` — with steps outstanding, one is ready or one runs.

## Design Notes

The sequential run takes the steps' outputs as a list `outs`, one per step: the outputs come
from sub-jobs, which the orchestration does not compute, so both runs are compared for the
same outputs. The environment before step `k` is written out (`Plan.envBefore`) instead of
being read off the fold, so that a step's input over it can be compared with its input over
the scheduler's environment by `Spec.eval_congr` alone.
-/

namespace JobEngine

/-! ## Expressions read only the steps they name -/

namespace Spec

-- Evaluation reads the environment only at the steps it collects, and the input.
mutual
theorem eval_congr_of_collect {e e' : Env} (input : e.input = e'.input) (acc : List Nat) :
    (s : Spec) → (∀ d ∈ collect acc s, e.output? d = e'.output? d) → s.eval e = s.eval e'
  | .literal _, _ => rfl
  | .input _, _ => by simp [eval, input]
  | .const _, _ => rfl
  | .step i _, agree => by simp [eval, agree i (mem_insertAscending.mpr (.inl rfl))]
  | .object fields, agree => by simp [eval, evalFields_congr_of_collect input acc fields agree]
  | .list items, agree => by simp [eval, evalItems_congr_of_collect input acc items agree]

theorem evalItems_congr_of_collect {e e' : Env} (input : e.input = e'.input) (acc : List Nat) :
    (items : List Spec) → (∀ d ∈ collectItems acc items, e.output? d = e'.output? d) →
      evalItems e items = evalItems e' items
  | [], _ => rfl
  | s :: rest, agree => by
    have first := eval_congr_of_collect input acc s fun d read =>
      agree d (subset_collectItems _ rest d read)
    simp [evalItems, first, evalItems_congr_of_collect input (collect acc s) rest agree]

theorem evalFields_congr_of_collect {e e' : Env} (input : e.input = e'.input) (acc : List Nat) :
    (fields : List (String × Spec)) → (∀ d ∈ collectFields acc fields, e.output? d = e'.output? d) →
      evalFields e fields = evalFields e' fields
  | [], _ => rfl
  | (_, s) :: rest, agree => by
    have first := eval_congr_of_collect input acc s fun d read =>
      agree d (subset_collectFields _ rest d read)
    simp [evalFields, first, evalFields_congr_of_collect input (collect acc s) rest agree]
end

/-- **An expression reads only the input and the steps it names**: over two environments that
agree there, it has the same value, or fails the same way. -/
theorem eval_congr {e e' : Env} {s : Spec} (input : e.input = e'.input)
    (agree : ∀ d ∈ s.deps, e.output? d = e'.output? d) : s.eval e = s.eval e' :=
  eval_congr_of_collect input [] s agree

end Spec

/-! ## The plans `Plan.build` accepts are in step order -/

namespace Plan

/-- **A plan in step order**: every step reads only earlier steps, and the result reads only
steps of the plan. -/
structure Ordered (p : Plan) : Prop where
  tasks : ∀ (i : Nat) (t : Task), p.tasks[i]? = some t → ∀ d ∈ t.deps, d < i
  result : ∀ d ∈ p.result.deps, d < p.tasks.length

theorem buildTask_deps_lt {i : Nat} {raw : Value} {t : Task} (built : buildTask i raw = .ok t) :
    ∀ d ∈ t.deps, d < i := by
  unfold buildTask at built
  simp only [bind, Except.bind] at built
  repeat' split at built
  all_goals simp_all [pure, Except.pure]
  -- the branch that builds the task found no dependency at or after the step
  subst built
  exact ‹∀ d ∈ _, d < i›

theorem build_result_deps_lt {md : Metadata} {input : Value} {p : Plan}
    (built : build md input = .ok p) : ∀ d ∈ p.result.deps, d < p.tasks.length := by
  unfold build at built
  simp only [bind, Except.bind, pure, Except.pure] at built
  repeat' split at built
  all_goals simp_all
  all_goals subst built
  · -- a result expression was given: it reads no step past the last
    exact ‹∀ d ∈ _, d < _›
  · -- no steps: the result is `null`
    simp [Spec.deps, Spec.collect]
  · -- the default result reads the last step
    simp only [Spec.deps, Spec.collect, insertAscending, List.mem_singleton, forall_eq]
    have steps := List.length_pos_iff.mpr ‹_ ≠ []›
    omega

/-- **Every plan that `build` accepts is in step order.** -/
theorem build_ordered {md : Metadata} {input : Value} {p : Plan}
    (built : build md input = .ok p) : p.Ordered := by
  obtain ⟨raws, fromSteps⟩ := build_tasks built
  refine ⟨fun i t found => ?_, build_result_deps_lt built⟩
  obtain ⟨raw, task⟩ := buildTasks_getElem? fromSteps i t found
  simpa using buildTask_deps_lt task

end Plan

/-! ## The sequential run -/

namespace Env

/-- Two environments with the same input and the same output for every step are equal. -/
theorem ext_output? {e e' : Env} (input : e.input = e'.input)
    (length : e.outputs.length = e'.outputs.length) (outputs : ∀ j, e.output? j = e'.output? j) :
    e = e' := by
  obtain ⟨x, os⟩ := e
  obtain ⟨x', os'⟩ := e'
  simp only at input length
  subst input
  congr 1
  apply List.ext_getElem length
  intro j inside inside'
  have same := outputs j
  simp only [output?, List.getElem?_eq_getElem inside, List.getElem?_eq_getElem inside',
    Option.getD_some] at same
  exact same

theorem output?_setOutput (e : Env) (i : Nat) (v : Value) (j : Nat) :
    (e.setOutput i v).output? j = if j = i ∧ i < e.outputs.length then some v else e.output? j := by
  by_cases same : j = i
  · subst same
    by_cases inside : j < e.outputs.length
    · simp [output?, setOutput, inside]
    · simp [output?, setOutput, inside]
  · simp [output?, setOutput, Ne.symm same, same]

end Env

namespace Plan

variable {p : Plan} {outs : List Value}

/-- The environment of the sequential run of `p` before step `k`, when the steps output `outs`:
the orchestration input, and the output of every step before `k`. -/
def envBefore (p : Plan) (outs : List Value) (k : Nat) : Env :=
  ⟨p.input, (List.range p.tasks.length).map fun j => if j < k then outs[j]? else none⟩

/-- One step of the sequential run when the steps output `outs`: the step's input is evaluated
over the outputs so far and kept, then the step's output is recorded. -/
def seqStep (outs : List Value) (acc : Except Fault (List Value × Env)) (t : Task) :
    Except Fault (List Value × Env) := do
  let (ins, e) ← acc
  let v ← t.input.eval e
  return (ins ++ [v], e.setOutput t.index (outs.getD t.index .null))

/-- **The sequential run** of a plan whose steps output `outs`: every step, in order, is invoked
with its input over the outputs of the steps before it, and the result expression is evaluated
over all outputs. Gives each step's input, in step order, and the result. -/
def sequential (p : Plan) (outs : List Value) : Except Fault (List Value × Value) := do
  let (ins, e) ← p.tasks.foldl (seqStep outs) (.ok ([], Env.start p.input p.tasks.length))
  return (ins, ← p.result.eval e)

@[simp] theorem envBefore_input (outs : List Value) (k : Nat) : (p.envBefore outs k).input = p.input :=
  rfl

@[simp] theorem length_envBefore (outs : List Value) (k : Nat) :
    (p.envBefore outs k).outputs.length = p.tasks.length := by
  simp [envBefore]

theorem output?_envBefore (outs : List Value) (k j : Nat) :
    (p.envBefore outs k).output? j = if j < k ∧ j < p.tasks.length then outs[j]? else none := by
  by_cases inside : j < p.tasks.length
  · by_cases before : j < k <;> simp [envBefore, Env.output?, inside, before]
  · simp [envBefore, Env.output?, inside]

theorem envBefore_zero (outs : List Value) : p.envBefore outs 0 = Env.start p.input p.tasks.length :=
  Env.ext_output? rfl (by simp [Env.start]) fun j => by
    rw [output?_envBefore]
    simp only [Nat.not_lt_zero, false_and, if_false, Env.start, Env.output?,
      List.getElem?_replicate]
    split <;> rfl

/-- Recording step `k`'s output moves the sequential environment past step `k`. -/
theorem setOutput_envBefore (counted : outs.length = p.tasks.length) {k : Nat}
    (inside : k < p.tasks.length) :
    (p.envBefore outs k).setOutput k (outs[k]?.getD .null) = p.envBefore outs (k + 1) := by
  refine Env.ext_output? rfl (by simp [Env.length_setOutput]) fun j => ?_
  rw [Env.output?_setOutput, output?_envBefore, output?_envBefore, length_envBefore]
  by_cases same : j = k
  · subst same
    simp [inside, List.getElem?_eq_getElem (counted ▸ inside)]
  · by_cases before : j < k
    · simp [same, before, show j < k + 1 by omega]
    · simp [same, before, show ¬j < k + 1 by omega]

/-- Once every step has run, the sequential environment holds every step's output. -/
theorem output?_envBefore_length (counted : outs.length = p.tasks.length) (j : Nat) :
    (p.envBefore outs p.tasks.length).output? j = outs[j]? := by
  rw [output?_envBefore]
  by_cases inside : j < p.tasks.length
  · simp [inside]
  · simp [inside, List.getElem?_eq_none (show outs.length ≤ j by omega)]

theorem isSome_output?_envBefore (counted : outs.length = p.tasks.length) {k d : Nat}
    (before : d < k) (inside : d < p.tasks.length) : ((p.envBefore outs k).output? d).isSome := by
  simp [output?_envBefore, before, inside, counted]

section Ordered

variable (wf : p.WellFormed) (ordered : p.Ordered) (counted : outs.length = p.tasks.length)
include wf ordered counted

/-- In the sequential run a step's input evaluates: it reads only earlier steps. -/
theorem eval_envBefore_ok {i : Nat} {t : Task} (found : p.tasks[i]? = some t) :
    ∃ u, t.input.eval (p.envBefore outs i) = .ok u := by
  apply Spec.eval_ok_of_deps
  intro d read
  rw [← wf.deps i t found] at read
  have inside : i < p.tasks.length := (List.getElem?_eq_some_iff.mp found).1
  have before := ordered.tasks i t found d read
  exact isSome_output?_envBefore counted before (by omega)

/-- The first `k` steps of the sequential run give the inputs of the steps before `k`, and leave
the environment before step `k`. -/
theorem foldl_seqStep : ∀ k ≤ p.tasks.length, ∃ ins : List Value, ins.length = k ∧
    (∀ i < k, ∃ t u, p.tasks[i]? = some t ∧ ins[i]? = some u ∧
      t.input.eval (p.envBefore outs i) = .ok u) ∧
    (p.tasks.take k).foldl (seqStep outs) (.ok ([], Env.start p.input p.tasks.length)) =
      .ok (ins, p.envBefore outs k)
  | 0, _ => ⟨[], rfl, by simp, by simp [envBefore_zero]⟩
  | k + 1, within => by
    obtain ⟨ins, length, inputs, folded⟩ := foldl_seqStep k (by omega)
    obtain ⟨t, found⟩ : ∃ t, p.tasks[k]? = some t :=
      ⟨p.tasks[k], List.getElem?_eq_getElem (by omega)⟩
    obtain ⟨u, evaluated⟩ := eval_envBefore_ok wf ordered counted found
    refine ⟨ins ++ [u], by simp [length], fun i before => ?_, ?_⟩
    · by_cases last : i = k
      · subst last
        exact ⟨t, u, found, by simp [length], evaluated⟩
      · obtain ⟨t', u', found', kept, evaluated'⟩ := inputs i (by omega)
        refine ⟨t', u', found', ?_, evaluated'⟩
        rw [List.getElem?_append_left (by omega)]
        exact kept
    · -- step `k` evaluates its input, then records its output
      rw [List.take_add_one, found, Option.toList_some, List.foldl_append, folded]
      simp [seqStep, evaluated, bind, Except.bind, pure, Except.pure, wf.index k t found,
        setOutput_envBefore counted (show k < p.tasks.length by omega)]

/-- **The sequential run of an ordered plan never fails**: whatever the steps output, every
step's input evaluates over the outputs of the steps before it, and the result over all
outputs. -/
theorem sequential_ok : ∃ ins v, p.sequential outs = .ok (ins, v) ∧
    (∀ (i : Nat) (t : Task), p.tasks[i]? = some t → ∃ u, ins[i]? = some u ∧
      t.input.eval (p.envBefore outs i) = .ok u) ∧
    p.result.eval (p.envBefore outs p.tasks.length) = .ok v := by
  obtain ⟨ins, _, inputs, folded⟩ := foldl_seqStep wf ordered counted p.tasks.length (Nat.le_refl _)
  rw [List.take_length] at folded
  obtain ⟨v, result⟩ : ∃ v, p.result.eval (p.envBefore outs p.tasks.length) = .ok v :=
    Spec.eval_ok_of_deps fun d read =>
      isSome_output?_envBefore counted (ordered.result d read) (ordered.result d read)
  refine ⟨ins, v, ?_, fun i t found => ?_, result⟩
  · simp [sequential, folded, result, bind, Except.bind, pure, Except.pure]
  · obtain ⟨t', u, found', kept, evaluated⟩ := inputs i (List.getElem?_eq_some_iff.mp found).1
    obtain rfl : t' = t := Option.some.inj (found'.symm.trans found)
    exact ⟨u, kept, evaluated⟩

end Ordered

-- Two steps in a chain: the second is invoked with the first's output, and the result is the
-- second's output.
example :
    ({ input := .str "in", result := .step 1 [],
       tasks := [⟨0, "echo", .input [], []⟩, ⟨1, "echo", .step 0 [], [0]⟩] } : Plan).sequential
        [.str "a", .str "b"] = .ok ([.str "in", .str "a"], .str "b") := rfl

end Plan

/-! ## The scheduler's accounting -/

@[simp] theorem Env.output?_start (input : Value) (n j : Nat) :
    (Env.start input n).output? j = none := by
  simp only [Env.start, Env.output?, List.getElem?_replicate]
  split <;> rfl

namespace Progress

variable {p : Plan} {g : Progress}

@[simp] theorem env_settle (i : Nat) (g : Progress) : (g.settle i).env = g.env := rfl

@[simp] theorem env_record (i : Nat) (out : Value) (g : Progress) :
    (g.record i out).env = g.env.setOutput i out := rfl

@[simp] theorem env_take (i : Nat) (g : Progress) : (g.take i).env = g.env := rfl

@[simp] theorem env_launch (i sub : Nat) (g : Progress) : (g.launch i sub).env = g.env := rfl

@[simp] theorem outstanding_settle (i : Nat) (g : Progress) :
    (g.settle i).outstanding = g.outstanding := rfl

@[simp] theorem outstanding_record (i : Nat) (out : Value) (g : Progress) :
    (g.record i out).outstanding = g.outstanding - 1 := rfl

@[simp] theorem outstanding_take (i : Nat) (g : Progress) :
    (g.take i).outstanding = g.outstanding := rfl

@[simp] theorem outstanding_launch (i sub : Nat) (g : Progress) :
    (g.launch i sub).outstanding = g.outstanding := rfl

theorem mem_ready_of_pending {i : Nat} (entry : (i, []) ∈ g.pending) : i ∈ g.ready :=
  List.mem_map_of_mem (List.mem_filter.mpr ⟨entry, rfl⟩)

/-- **The scheduler's accounting** of the steps of plan `p`: the environment holds the plan's
input; every step is pending, running or done; a pending or running step has no output yet; a
wait list names only dependencies of its step that have no output yet; and the outstanding
count is the number of steps pending or running. -/
structure Accounted (p : Plan) (g : Progress) : Prop where
  input : g.env.input = p.input
  placed : ∀ j < p.tasks.length, j ∈ g.pendingIds ∨ j ∈ g.runningIds ∨ (g.env.output? j).isSome
  pendingOpen : ∀ j ∈ g.pendingIds, g.env.output? j = none
  runningOpen : ∀ j ∈ g.runningIds, g.env.output? j = none
  waitsOpen : ∀ i ds, (i, ds) ∈ g.pending → ∀ d ∈ ds,
    g.env.output? d = none ∧ ∃ t, p.tasks[i]? = some t ∧ d ∈ t.deps
  outstanding : g.outstanding = g.pendingIds.length + g.runningIds.length

/-- A running step's report records its output, and changes no other. -/
theorem Sound.output?_setOutput (sound : Sound p g) {i : Nat} (running : i ∈ g.runningIds)
    (out : Value) (j : Nat) :
    (g.env.setOutput i out).output? j = if j = i then some out else g.env.output? j := by
  have inside : i < g.env.outputs.length := by
    rw [sound.size]
    exact sound.runningInPlan i running
  simp [Env.output?_setOutput, inside]

namespace Accounted

/-- Before any step started, every step is pending and waits for its dependencies. -/
theorem start (wf : p.WellFormed) : Accounted p (Progress.start p) where
  input := rfl
  placed j inside := .inl (by simpa [pendingIds_start wf] using inside)
  pendingOpen _ _ := by simp [Progress.start]
  runningOpen _ running := by simp [runningIds, Progress.start] at running
  waitsOpen i ds entry d dep := by
    obtain ⟨t, found, rfl⟩ := mem_pending_start wf entry
    exact ⟨by simp [Progress.start], t, found, dep⟩
  outstanding := by
    rw [pendingIds_start wf]
    simp [runningIds, Progress.start]

section Report

variable (acc : Accounted p g) (sound : Sound p g) {i : Nat} (running : i ∈ g.runningIds)
include acc sound running

theorem output?_settle_record_eq_some (out : Value) (j : Nat) (v : Value) :
    ((g.settle i).record i out).env.output? j = some v ↔
      g.env.output? j = some v ∨ (j, v) = (i, out) := by
  rw [env_record, env_settle, sound.output?_setOutput running]
  by_cases same : j = i
  · subst same
    simp [acc.runningOpen j running, eq_comm]
  · simp [same]

/-- **A running step's successful report keeps the accounting**: it moves from running to
done, and one step fewer is outstanding. -/
theorem settle_record (out : Value) : Accounted p ((g.settle i).record i out) where
  input := acc.input
  placed j inside := by
    simp only [pendingIds_record, pendingIds_settle, runningIds_record, runningIds_settle,
      List.mem_filter, bne_iff_ne, env_record, env_settle, sound.output?_setOutput running]
    by_cases same : j = i
    · simp [same]
    · rcases acc.placed j inside with waiting | running' | done
      · exact .inl waiting
      · exact .inr (.inl ⟨running', same⟩)
      · exact .inr (.inr (by simpa [same] using done))
  pendingOpen j waiting := by
    simp only [pendingIds_record, pendingIds_settle] at waiting
    have other : j ≠ i := fun same => sound.apart j waiting (same ▸ running)
    simpa [sound.output?_setOutput running, other] using acc.pendingOpen j waiting
  runningOpen j running' := by
    simp only [runningIds_record, runningIds_settle, List.mem_filter, bne_iff_ne] at running'
    simpa [sound.output?_setOutput running, running'.2] using acc.runningOpen j running'.1
  waitsOpen k ds' entry d dep := by
    simp only [record, settle, List.mem_map] at entry
    obtain ⟨⟨k', ds⟩, found, same⟩ := entry
    simp only [Prod.mk.injEq] at same
    obtain ⟨rfl, rfl⟩ := same
    simp only [List.mem_filter, bne_iff_ne] at dep
    obtain ⟨open_, dependency⟩ := acc.waitsOpen k' ds found d dep.1
    exact ⟨by simpa [sound.output?_setOutput running, dep.2] using open_, dependency⟩
  outstanding := by
    -- the reported step is running once, so one entry leaves the running steps
    have settled : (g.runningIds.filter (· != i)).length + 1 = g.runningIds.length := by
      rw [← sound.runningNodup.erase_eq_filter, List.length_erase_of_mem running]
      have := List.length_pos_of_mem running
      omega
    have counted := acc.outstanding
    simp only [outstanding_record, outstanding_settle, pendingIds_record, pendingIds_settle,
      runningIds_record, runningIds_settle]
    omega

end Report

/-- **Starting a pending step keeps the accounting**: it moves from pending to running. -/
theorem take_launch (acc : Accounted p g) (sound : Sound p g) {i : Nat}
    (pending : i ∈ g.pendingIds) (sub : Nat) : Accounted p ((g.take i).launch i sub) where
  input := acc.input
  placed j inside := by
    simp only [pendingIds_launch, pendingIds_take, runningIds_launch, runningIds_take,
      List.mem_filter, bne_iff_ne, List.mem_append, List.mem_singleton, env_launch, env_take]
    by_cases same : j = i
    · exact .inr (.inl (.inr same))
    · rcases acc.placed j inside with waiting | running | done
      · exact .inl ⟨waiting, same⟩
      · exact .inr (.inl (.inl running))
      · exact .inr (.inr done)
  pendingOpen j waiting := by
    simp only [pendingIds_launch, pendingIds_take, List.mem_filter] at waiting
    exact acc.pendingOpen j waiting.1
  runningOpen j running := by
    simp only [runningIds_launch, runningIds_take, List.mem_append, List.mem_singleton] at running
    rcases running with old | rfl
    · exact acc.runningOpen j old
    · exact acc.pendingOpen j pending
  waitsOpen k ds entry := by
    simp only [launch, take, List.mem_filter] at entry
    exact acc.waitsOpen k ds entry.1
  outstanding := by
    -- the started step is pending once, so one entry leaves the pending steps
    have taken : (g.pendingIds.filter (· != i)).length + 1 = g.pendingIds.length := by
      rw [← sound.pendingNodup.erase_eq_filter, List.length_erase_of_mem pending]
      have := List.length_pos_of_mem pending
      omega
    have counted := acc.outstanding
    simp only [outstanding_launch, outstanding_take, pendingIds_launch, pendingIds_take,
      runningIds_launch, runningIds_take, List.length_append, List.length_singleton]
    omega

/-- Taking in the successful reports of distinct running steps keeps the accounting. -/
theorem absorbAll (acc : Accounted p g) (sound : Sound p g) {outs : List (Nat × Value)}
    (distinct : (outs.map (·.1)).Nodup) (running : ∀ o ∈ outs, o.1 ∈ g.runningIds) :
    Accounted p (g.absorbAll outs) := by
  induction outs generalizing g with
  | nil => exact acc
  | cons o outs ih =>
    have member := running o (by simp)
    rw [absorbAll_cons]
    exact ih (acc.settle_record sound member o.2) (sound.settle_record member o.2)
      (List.nodup_cons.mp distinct).2 (Sound.running_of_absorbed distinct running)

/-- **The outputs after a batch of reports** are those before and those reported. -/
theorem output?_absorbAll (acc : Accounted p g) (sound : Sound p g) {outs : List (Nat × Value)}
    (distinct : (outs.map (·.1)).Nodup) (running : ∀ o ∈ outs, o.1 ∈ g.runningIds) (j : Nat)
    (v : Value) : (g.absorbAll outs).env.output? j = some v ↔ g.env.output? j = some v ∨ (j, v) ∈ outs := by
  induction outs generalizing g with
  | nil => simp
  | cons o outs ih =>
    have member := running o (by simp)
    rw [absorbAll_cons, ih (acc.settle_record sound member o.2) (sound.settle_record member o.2)
      (List.nodup_cons.mp distinct).2 (Sound.running_of_absorbed distinct running),
      acc.output?_settle_record_eq_some sound member]
    simp [or_assoc, Prod.ext_iff]

/-- Starting distinct pending steps keeps the accounting. -/
theorem startAll (acc : Accounted p g) (sound : Sound p g) {started : List (Nat × Nat)}
    (distinct : (started.map (·.1)).Nodup) (pending : ∀ s ∈ started, s.1 ∈ g.pendingIds) :
    Accounted p (g.startAll started) := by
  induction started generalizing g with
  | nil => exact acc
  | cons s started ih =>
    simp only [List.map_cons, List.nodup_cons] at distinct
    have member := pending s (by simp)
    rw [startAll_cons]
    apply ih (acc.take_launch sound member s.2) (sound.take_launch member s.2) distinct.2
    intro s' later
    simp only [pendingIds_launch, pendingIds_take, List.mem_filter, bne_iff_ne]
    refine ⟨pending s' (by simp [later]), fun same => distinct.1 ?_⟩
    rw [← same]
    exact List.mem_map_of_mem later

/-- **An ordered plan never stalls**: while steps are outstanding, one of them is ready or one
runs. -/
theorem progresses (ordered : p.Ordered) (acc : Accounted p g) (more : 0 < g.outstanding) : g.ready ≠ [] ∨ g.runningIds ≠ [] := by
  by_cases idle : g.runningIds = []
  · left
    have waiting : ∃ m, m ∈ g.pendingIds := by
      have counted := acc.outstanding
      rw [idle, List.length_nil] at counted
      exact List.exists_mem_of_length_pos (by omega)
    -- the first pending step waits for nothing: a step it waits for has no output, so it is
    -- pending or running, and it comes earlier
    have first : Nat.find waiting ∈ g.pendingIds := Nat.find_spec waiting
    obtain ⟨⟨m, ds⟩, entry, same⟩ := List.mem_map.mp first
    simp only at same
    have empty : ds = [] := by
      apply List.eq_nil_iff_forall_not_mem.mpr
      intro d dep
      obtain ⟨open_, t, task, read⟩ := acc.waitsOpen m ds entry d dep
      have before := ordered.tasks m t task d read
      have inside := (List.getElem?_eq_some_iff.mp task).1
      rcases acc.placed d (by omega) with pending | running | done
      · exact absurd (Nat.find_min' waiting pending) (by omega)
      · simp [idle] at running
      · simp [open_] at done
    subst empty
    exact List.ne_nil_of_mem (mem_ready_of_pending entry)
  · exact .inr idle

/-- With nothing outstanding, no step is pending or running, and every step has its output. -/
theorem recorded_of_done (acc : Accounted p g) (done : g.outstanding = 0) :
    g.pendingIds = [] ∧ g.runningIds = [] ∧ ∀ j < p.tasks.length, (g.env.output? j).isSome := by
  have counted := acc.outstanding
  have noPending : g.pendingIds = [] := List.eq_nil_of_length_eq_zero (by omega)
  have noRunning : g.runningIds = [] := List.eq_nil_of_length_eq_zero (by omega)
  refine ⟨noPending, noRunning, fun j inside => ?_⟩
  rcases acc.placed j inside with pending | running | recorded
  · simp [noPending] at pending
  · simp [noRunning] at running
  · exact recorded

end Accounted

end Progress

end JobEngine
