import JobEngine.Proofs.Orchestrate.Expressions

/-!
# The orchestrations a plan is built from

`Plan.build` reads the `operation` section of a composite operation: a list of steps, each a
map naming an operation and giving an input expression, and an optional result expression.
It accepts the section exactly when the steps form a list, each step names a non-empty
operation and has an input that parses and reads only earlier steps, and a result entry, if
there is one (even `null`), parses and reads only steps of the plan. The plan it builds keeps
each step at its position with the steps its input reads, in increasing order; a rejection is
a validation error naming the field of the first fault (`Plan.build_accepts_valid`).

## Main Definitions

* `Plan.StepAccepted`, `Plan.ResultAccepted` — the steps and result entries `build` accepts.
* `Plan.BuiltFrom`, `Plan.ResultFrom` — what it makes of them.
* `Plan.StepFault`, `Plan.FaultAt` — the field naming the first fault of a step, of a section.

## Design Notes

The checks run in order: the steps entry, then each step in turn (its shape, its operation, its
input), then the result entry. `FaultAt` follows that order, so it names one field: a step's
fault counts only after every earlier step was accepted, and the result's only after all were.
-/

namespace JobEngine

namespace Plan

/-! ## Steps -/

/-- The input expression of a raw step, parsed: `null` when the step has none. -/
def stepInput (fields : List (String × Value)) : Except Fault Spec :=
  Spec.parse ((fields.lookup "input").getD .null)

/-- A raw step that `build` accepts at position `i`: a map naming a non-empty operation, whose
input parses and reads only earlier steps. -/
def StepAccepted (i : Nat) (raw : Value) : Prop :=
  ∃ fields op s, raw = .obj fields ∧ fields.lookup "op" = some (.str op) ∧ op ≠ "" ∧
    stepInput fields = .ok s ∧ ∀ d ∈ s.deps, d < i

/-- Task `t` is what `build` makes of the raw step `raw` at position `i`. -/
def BuiltFrom (i : Nat) (raw : Value) (t : Task) : Prop :=
  ∃ fields, raw = .obj fields ∧ fields.lookup "op" = some (.str t.op) ∧ t.op ≠ "" ∧
    stepInput fields = .ok t.input ∧ (∀ d ∈ t.input.deps, d < i) ∧ t.index = i ∧
    t.deps = t.input.deps

/-- The first fault of the raw step `raw` at position `i` lies in `field`: the step itself when it
is no map, its `op` when that is no non-empty string, else its `input`, which fails to parse or
reads a step that is not earlier. -/
def StepFault (i : Nat) (raw : Value) (field : String) : Prop :=
  (raw.asObject? = none ∧ field = stepField i "") ∨
  (∃ fields, raw = .obj fields ∧ (∀ op, fields.lookup "op" = some (.str op) → op = "") ∧
    field = stepField i "op") ∨
  (∃ fields op, raw = .obj fields ∧ fields.lookup "op" = some (.str op) ∧ op ≠ "" ∧
    (∀ s, stepInput fields = .ok s → ∃ d ∈ s.deps, i ≤ d) ∧ field = stepField i "input")

theorem BuiltFrom.accepted {i : Nat} {raw : Value} {t : Task} (built : BuiltFrom i raw t) :
    StepAccepted i raw := by
  obtain ⟨fields, rfl, op, nonempty, parsed, lt, -, -⟩ := built
  exact ⟨fields, t.op, t.input, rfl, op, nonempty, parsed, lt⟩

theorem StepFault.not_accepted {i : Nat} {raw : Value} {field : String}
    (fault : StepFault i raw field) : ¬StepAccepted i raw := by
  rintro ⟨fields, op, s, rfl, named, nonempty, parsed, lt⟩
  rcases fault with ⟨shape, -⟩ | ⟨fields', same, unnamed, -⟩ | ⟨fields', op', same, -, -, late, -⟩
  · simp [Value.asObject?] at shape
  · cases same
    exact nonempty (unnamed op named)
  · cases same
    obtain ⟨d, read, le⟩ := late s parsed
    exact absurd (lt d read) (Nat.not_lt.mpr le)

/-- `buildTask` builds the task of an accepted step, and names the first fault of any other. -/
theorem buildTask_cases (i : Nat) (raw : Value) :
    (∃ t, buildTask i raw = .ok t ∧ BuiltFrom i raw t) ∨
    ∃ field message, buildTask i raw = .error (.validation field message) ∧ StepFault i raw field := by
  cases raw with
  | obj fields =>
    cases named : fields.lookup "op" with
    | none =>
      refine .inr ⟨_, "step operation is required", by simp [buildTask, Value.asObject?, named, bind, Except.bind],
        .inr (.inl ⟨fields, rfl, ?_, rfl⟩)⟩
      simp [named]
    | some v =>
      cases v with
      | str op =>
        by_cases empty : op = ""
        · subst empty
          refine .inr ⟨_, "step operation is required", by simp [buildTask, Value.asObject?, named, bind, Except.bind],
        .inr (.inl ⟨fields, rfl, ?_, rfl⟩)⟩
          simp [named]
        · rcases parsed : stepInput fields with f | s
          · refine .inr ⟨_, f.message, ?_, .inr (.inr ⟨fields, op, rfl, named, empty, ?_, rfl⟩)⟩
            · simp [stepInput] at parsed
              simp [buildTask, Value.asObject?, named, empty, parsed, bind, Except.bind]
            · simp [parsed]
          · rcases found : s.deps.find? (· ≥ i) with _ | d
            · refine .inl ⟨{ index := i, op, input := s, deps := s.deps }, ?_, fields, rfl, named, empty, parsed, ?_, rfl, rfl⟩
              · simp [stepInput] at parsed
                simp [buildTask, Value.asObject?, named, empty, parsed, found, bind, Except.bind, pure, Except.pure]
              · simpa [List.find?_eq_none] using found
            · refine .inr ⟨_, "step " ++ toString i ++ " references step " ++ toString d ++
                "; steps may only reference earlier steps", ?_,
                .inr (.inr ⟨fields, op, rfl, named, empty, ?_, rfl⟩)⟩
              · simp [stepInput] at parsed
                simp [buildTask, Value.asObject?, named, empty, parsed, found, bind, Except.bind, pure, Except.pure]
              · intro s' same
                rw [parsed] at same
                cases same
                have late := List.find?_some found
                exact ⟨d, List.mem_of_find?_eq_some found, by simpa using late⟩
      | _ =>
        refine .inr ⟨_, "step operation is required", by simp [buildTask, Value.asObject?, named, bind, Except.bind],
        .inr (.inl ⟨fields, rfl, ?_, rfl⟩)⟩
        simp [named]
  | _ => exact .inr ⟨_, "step must be an object", by simp [buildTask, Value.asObject?],
    .inl ⟨rfl, rfl⟩⟩


/-- `buildTasks` builds the tasks of a list of accepted steps, and names the first fault
otherwise, after steps it accepted. -/
theorem buildTasks_cases (i : Nat) (raws : List Value) :
    (∃ ts, buildTasks i raws = .ok ts ∧ ts.length = raws.length ∧
      ∀ k t, ts[k]? = some t → ∃ raw, raws[k]? = some raw ∧ BuiltFrom (i + k) raw t) ∨
    ∃ k raw field message, raws[k]? = some raw ∧
      (∀ j r, j < k → raws[j]? = some r → StepAccepted (i + j) r) ∧
      buildTasks i raws = .error (.validation field message) ∧ StepFault (i + k) raw field := by
  induction raws generalizing i with
  | nil => exact .inl ⟨[], rfl, rfl, by simp⟩
  | cons raw rest ih =>
    rcases buildTask_cases i raw with ⟨t, first, built⟩ | ⟨field, message, first, fault⟩
    · rcases ih (i + 1) with ⟨ts, others, length, tasks⟩ | ⟨k, raw', field, message, found, earlier, others, fault⟩
      · refine .inl ⟨t :: ts, by simp [buildTasks, first, others, bind, Except.bind, pure, Except.pure],
          by simp [length], fun k t' found => ?_⟩
        cases k with
        | zero =>
          simp only [List.getElem?_cons_zero, Option.some.injEq] at found
          subst found
          exact ⟨raw, rfl, by simpa using built⟩
        | succ k =>
          obtain ⟨raw', found', built'⟩ := tasks k t' (by simpa using found)
          exact ⟨raw', by simpa using found', by rwa [show i + (k + 1) = i + 1 + k by omega]⟩
      · refine .inr ⟨k + 1, raw', field, message, by simpa using found, fun j r below found' => ?_,
          by simp [buildTasks, first, others, bind, Except.bind], by rwa [show i + (k + 1) = i + 1 + k by omega]⟩
        cases j with
        | zero =>
          simp only [List.getElem?_cons_zero, Option.some.injEq] at found'
          subst found'
          simpa using built.accepted
        | succ j =>
          have accepted := earlier j r (by omega) (by simpa using found')
          rwa [show i + (j + 1) = i + 1 + j by omega]
    · exact .inr ⟨0, raw, field, message, rfl, fun j _ below => absurd below (Nat.not_lt_zero j),
        by simp [buildTasks, first, bind, Except.bind], by simpa using fault⟩


/-! ## Sections -/

/-- A result entry that `build` accepts for a plan of `n` steps: none, or an expression that
parses and reads only steps of the plan. -/
def ResultAccepted (n : Nat) : Option Value → Prop
  | none => True
  | some raw => ∃ s, Spec.parse raw = .ok s ∧ ∀ d ∈ s.deps, d < n

/-- The result expression `build` makes of a result entry for `n` steps: the parsed entry, else
the whole output of the last step, else `null`. -/
def ResultFrom (n : Nat) : Option Value → Spec → Prop
  | some raw, s => Spec.parse raw = .ok s
  | none, s => s = if n = 0 then .literal .null else .step (n - 1) []

/-- The field naming the first fault of an `operation` section. -/
inductive FaultAt (op : List (String × Value)) : String → Prop
  /-- The steps are missing, `null`, or not a list. -/
  | steps : (∀ steps, op.lookup "steps" ≠ some (.arr steps)) → FaultAt op "operation.steps"
  /-- A step is faulty, after steps that are accepted. -/
  | step {steps : List Value} {i : Nat} {raw : Value} {field : String} :
      op.lookup "steps" = some (.arr steps) → steps[i]? = some raw →
      (∀ j r, j < i → steps[j]? = some r → StepAccepted j r) → StepFault i raw field →
      FaultAt op field
  /-- Every step is accepted, and the result entry is not. -/
  | result {steps : List Value} : op.lookup "steps" = some (.arr steps) →
      (∀ i raw, steps[i]? = some raw → StepAccepted i raw) →
      ¬ResultAccepted steps.length (op.lookup "result") → FaultAt op "operation.result"

section Build

variable {md : Metadata} {input : Value}

theorem build_steps_refused (refused : ∀ steps, (md.operation.getD []).lookup "steps" ≠ some (.arr steps)) :
    ∃ message, build md input = .error (.validation "operation.steps" message) := by
  unfold build
  rcases found : (md.operation.getD []).lookup "steps" with _ | v
  · exact ⟨"steps are required", by simp [found, bind, Except.bind]⟩
  · cases v with
    | arr steps => exact absurd found (refused steps)
    | null => exact ⟨"steps are required", by simp [found, bind, Except.bind]⟩
    | _ => exact ⟨"steps must be a list", by simp [found, bind, Except.bind]⟩

theorem build_steps_faulty {steps : List Value} {f : Fault}
    (listed : (md.operation.getD []).lookup "steps" = some (.arr steps))
    (faulty : buildTasks 0 steps = .error f) : build md input = .error f := by
  simp [build, listed, faulty, bind, Except.bind, pure, Except.pure]

theorem build_result_cases {steps : List Value} {ts : List Task}
    (listed : (md.operation.getD []).lookup "steps" = some (.arr steps))
    (built : buildTasks 0 steps = .ok ts) :
    (ResultAccepted ts.length ((md.operation.getD []).lookup "result") ∧
      ∃ r, ResultFrom ts.length ((md.operation.getD []).lookup "result") r ∧
        build md input = .ok { input, tasks := ts, result := r }) ∨
    (¬ResultAccepted ts.length ((md.operation.getD []).lookup "result") ∧
      ∃ message, build md input = .error (.validation "operation.result" message)) := by
  rcases entry : (md.operation.getD []).lookup "result" with _ | raw
  · refine .inl ⟨trivial, _, rfl, ?_⟩
    simp [build, listed, built, entry, bind, Except.bind, pure, Except.pure, List.isEmpty_iff,
      List.length_eq_zero_iff]
  · rcases parsed : Spec.parse raw with g | s
    · refine .inr ⟨by simp [ResultAccepted, parsed], g.message, ?_⟩
      simp [build, listed, built, entry, parsed, bind, Except.bind, pure, Except.pure]
    · rcases found : s.deps.find? (· ≥ ts.length) with _ | d
      · refine .inl ⟨⟨s, parsed, by simpa [List.find?_eq_none] using found⟩, s, parsed, ?_⟩
        simp [build, listed, built, entry, parsed, found, bind, Except.bind, pure, Except.pure]
      · refine .inr ⟨fun ⟨s', parsed', below⟩ => ?_,
          "result references step " ++ toString d ++ " of " ++ toString ts.length, ?_⟩
        · rw [parsed] at parsed'
          cases parsed'
          have late := List.find?_some found
          exact absurd (below d (List.mem_of_find?_eq_some found)) (by simpa using late)
        · simp [build, listed, built, entry, parsed, found, bind, Except.bind, pure, Except.pure]

end Build

/-- **`build` accepts exactly the valid orchestrations**: it succeeds iff the steps are a list
of accepted steps and the result entry is accepted; the plan it builds has one task per step,
built from it, with dependencies in increasing order, and the result the entry asks for; and
every rejection is a validation error naming the field of the first fault. -/
theorem build_accepts_valid (md : Metadata) (input : Value) :
    ((∃ p, build md input = .ok p) ↔
      ∃ steps, (md.operation.getD []).lookup "steps" = some (.arr steps) ∧
        (∀ i raw, steps[i]? = some raw → StepAccepted i raw) ∧
        ResultAccepted steps.length ((md.operation.getD []).lookup "result")) ∧
    (∀ p, build md input = .ok p →
      ∃ steps, (md.operation.getD []).lookup "steps" = some (.arr steps) ∧ p.input = input ∧
        p.tasks.length = steps.length ∧
        (∀ i t, p.tasks[i]? = some t →
          ∃ raw, steps[i]? = some raw ∧ BuiltFrom i raw t ∧ t.deps.Pairwise (· < ·)) ∧
        ResultFrom steps.length ((md.operation.getD []).lookup "result") p.result) ∧
    ∀ f, build md input = .error f →
      ∃ field message, f = .validation field message ∧ FaultAt (md.operation.getD []) field := by
  by_cases listedAny : ∃ steps, (md.operation.getD []).lookup "steps" = some (.arr steps)
  · obtain ⟨steps, listed⟩ := listedAny
    rcases buildTasks_cases 0 steps with ⟨ts, built, length, tasks⟩ |
      ⟨k, raw, field, message, found, earlier, faulty, fault⟩
    · -- every step is accepted; the result entry decides
      have accepted : ∀ i raw, steps[i]? = some raw → StepAccepted i raw := by
        intro i raw found
        have inside : i < ts.length := length ▸ (List.getElem?_eq_some_iff.mp found).1
        obtain ⟨raw', found', builtFrom⟩ := tasks i ts[i] (List.getElem?_eq_getElem inside)
        rw [found] at found'
        cases found'
        simpa using builtFrom.accepted
      rcases @build_result_cases md input steps ts listed built with
        ⟨resultOk, r, resultFrom, ok⟩ | ⟨resultBad, message, fails⟩
      · rw [length] at resultOk resultFrom
        refine ⟨⟨fun _ => ⟨steps, listed, accepted, resultOk⟩, fun _ => ⟨_, ok⟩⟩, fun p built' => ?_,
          fun f fails => ?_⟩
        · rw [ok] at built'
          cases built'
          refine ⟨steps, listed, rfl, length, fun i t found => ?_, resultFrom⟩
          obtain ⟨raw, found', builtFrom⟩ := tasks i t found
          have deps : t.deps = t.input.deps := by
            obtain ⟨_, _, _, _, _, _, _, deps⟩ := builtFrom
            exact deps
          exact ⟨raw, found', by simpa using builtFrom, deps ▸ Spec.deps_pairwise t.input⟩
        · rw [ok] at fails
          cases fails
      · rw [length] at resultBad
        refine ⟨⟨fun ⟨p, built'⟩ => ?_, fun ⟨steps', listed', _, resultOk⟩ => ?_⟩, fun p built' => ?_,
          fun f fails' => ?_⟩
        · rw [fails] at built'
          cases built'
        · rw [listed] at listed'
          cases listed'
          exact absurd resultOk resultBad
        · rw [fails] at built'
          cases built'
        · rw [fails] at fails'
          cases fails'
          exact ⟨_, message, rfl, .result listed accepted resultBad⟩
    · -- step `k` is the first faulty one
      have fails : build md input = .error (.validation field message) := build_steps_faulty listed faulty
      refine ⟨⟨fun ⟨p, built'⟩ => ?_, fun ⟨steps', listed', accepted, _⟩ => ?_⟩, fun p built' => ?_,
        fun f fails' => ?_⟩
      · rw [fails] at built'
        cases built'
      · rw [listed] at listed'
        cases listed'
        exact absurd (by simpa using accepted k raw found) fault.not_accepted
      · rw [fails] at built'
        cases built'
      · rw [fails] at fails'
        cases fails'
        exact ⟨field, message, rfl, .step listed found (fun j r below found' => by
          simpa using earlier j r below found') (by simpa using fault)⟩
  · -- the steps are missing, `null`, or not a list
    have refused : ∀ steps, (md.operation.getD []).lookup "steps" ≠ some (.arr steps) :=
      fun steps listed => listedAny ⟨steps, listed⟩
    obtain ⟨message, fails⟩ := @build_steps_refused md input refused
    refine ⟨⟨fun ⟨p, built'⟩ => ?_, fun ⟨steps, listed, _⟩ => absurd listed (refused steps)⟩,
      fun p built' => ?_, fun f fails' => ?_⟩
    · rw [fails] at built'
      cases built'
    · rw [fails] at built'
      cases built'
    · rw [fails] at fails'
      cases fails'
      exact ⟨_, message, rfl, .steps refused⟩

end Plan
end JobEngine
