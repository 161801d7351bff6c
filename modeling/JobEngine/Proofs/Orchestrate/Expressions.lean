import JobEngine.Proofs.Orchestrate.Sequential

/-!
# What parsing accepts and what evaluation reads

`Spec.parse` reads a JSON value as an expression. Where it looks for references depends on the
value alone: the whole value, every value of a map, and every item of a list that is not itself
a reference are read as expressions; a list whose head is a string or a number is a reference,
and what follows its head (a path, or the value of a `CONST`) is kept as written.
`Value.references` lists the references found at those places.

Parsing fails exactly when one of those references is malformed, and the steps a parsed
expression depends on are exactly the step numbers among them, ascending and each once
(`Spec.parse_grammar`). Evaluation then fails exactly when one of those steps has no output;
otherwise it is the expression with each reference replaced by what its path finds
(`Spec.fill`), and it reads nothing but the input and the outputs of those steps
(`Spec.eval_reads_deps`).

## Main Definitions

* `Value.references` — the references written in a value, each as its head and the rest.
* `acceptsReference` — the forms of reference the parser takes.
* `Spec.fill` — the value of an expression over an input and given step outputs.

## Main Statements

* `Spec.parse_ok_iff` — parsing succeeds iff every reference written is well formed.
* `Spec.mem_collect_of_parse` — the steps a parsed expression reads are the step numbers written.
* `Spec.parse_grammar` — both, with the steps in increasing order.
* `Spec.eval_reads_deps` — evaluation fails iff a step read has no output, is `Spec.fill`
  otherwise, and agrees on environments that agree on the input and the steps read.
* `Spec.data_evaluates_to_itself` — a value with no reference written in it evaluates to
  itself, and a `CONST` to its value as written.
* `lookup_append` — a path is walked one key at a time, and a miss stays `null`.
-/

namespace JobEngine

/-- A path from `null` finds `null`: after a miss nothing more is found. -/
@[simp] theorem lookup_null (p : List Value) : lookup .null p = .null := by
  cases p <;> simp [lookup]

namespace Value

/-! ## The references written in a value -/

/-- Whether a value heads a reference when it starts a list: a string or a number. -/
def headsReference : Value → Bool
  | .str _ | .num _ | .int _ => true
  | _ => false

mutual
/-- The references written in a value, each as its head and the values after it: the value
itself when it is a list headed by a string or a number, else those written in the values of a
map and in the items of a list. -/
def references : Value → List (Value × List Value)
  | .obj kvs => fieldReferences kvs
  | .arr (head :: rest) =>
    if head.headsReference then [(head, rest)] else itemReferences (head :: rest)
  | _ => []

/-- The references written in the items of a list. -/
def itemReferences : List Value → List (Value × List Value)
  | [] => []
  | v :: rest => references v ++ itemReferences rest

/-- The references written in the values of a map. -/
def fieldReferences : List (String × Value) → List (Value × List Value)
  | [] => []
  | (_, v) :: rest => references v ++ fieldReferences rest
end

end Value

/-- Whether the parser takes a reference with this head and these values after it: `INPUT`
with any path, `CONST` with exactly one value, or a step number that is a position. -/
def acceptsReference : Value → List Value → Bool
  | .str "INPUT", _ => true
  | .str "CONST", rest => rest.length == 1
  | .str _, _ => false
  | head, _ => (toIndex head).isSome

/-- A path is walked one key at a time: walking `p ++ q` walks `q` from where `p` ends. -/
theorem lookup_append (v : Value) (p q : List Value) : lookup v (p ++ q) = lookup (lookup v p) q := by
  induction p generalizing v with
  | nil => rfl
  | cons key rest ih =>
    cases v with
    | obj kvs => simp [lookup, ih]
    | arr xs =>
      cases index : toIndex key with
      | none => simp [lookup, index, lookup_null]
      | some i =>
        cases found : xs[i]? with
        | none => simp [lookup, index, found, lookup_null]
        | some x => simp [lookup, index, found, ih]
    | _ => simp [lookup, lookup_null]

namespace Spec

/-! ## Parsing -/

theorem parse_literalList {head : Value} (literal : head.headsReference = false) (rest : List Value) :
    parse (.arr (head :: rest)) = (do let items ← parseItems (head :: rest); pure (.list items)) := by
  cases head <;> simp_all [parse, Value.headsReference]

theorem parse_reference_ok_iff {head : Value} (heads : head.headsReference = true) (rest : List Value) :
    (∃ s, parse (.arr (head :: rest)) = .ok s) ↔ acceptsReference head rest = true := by
  cases head with
  | str s =>
    by_cases input : s = "INPUT"
    · subst input
      simp [parse, acceptsReference, pure, Except.pure]
    by_cases const : s = "CONST"
    · subst const
      match rest with
      | [] => simp [parse, acceptsReference]
      | [v] => simp [parse, acceptsReference, pure, Except.pure]
      | _ :: _ :: _ => simp [parse, acceptsReference]
    · simp [parse, acceptsReference]
  | num x =>
    cases found : toIndex (.num x) <;> simp [parse, acceptsReference, found, pure, Except.pure]
  | int n =>
    cases found : toIndex (.int n) <;> simp [parse, acceptsReference, found, pure, Except.pure]
  | _ => simp [Value.headsReference] at heads

theorem collect_parse_reference {head : Value} (heads : head.headsReference = true) {rest : List Value}
    {s : Spec} (ok : parse (.arr (head :: rest)) = .ok s) (acc : List Nat) :
    collect acc s = ((toIndex head).map (insertAscending · acc)).getD acc := by
  cases head with
  | str t =>
    by_cases input : t = "INPUT"
    · subst input
      simp only [parse, pure, Except.pure, Except.ok.injEq] at ok
      simp [← ok, collect, toIndex]
    by_cases const : t = "CONST"
    · subst const
      -- `CONST` is read only with exactly one value
      obtain ⟨v, rfl⟩ : ∃ v, rest = [v] := by
        rcases rest with _ | ⟨v, _ | ⟨_, _⟩⟩
        · simp [parse] at ok
        · exact ⟨v, rfl⟩
        · simp [parse] at ok
      simp only [parse, pure, Except.pure, Except.ok.injEq] at ok
      simp [← ok, collect, toIndex]
    · simp [parse] at ok
  | num x =>
    cases found : toIndex (.num x) <;> simp [parse, found, pure, Except.pure] at ok
    simp [← ok, collect]
  | int n =>
    cases found : toIndex (.int n) <;> simp [parse, found, pure, Except.pure] at ok
    simp [← ok, collect]
  | _ => simp [Value.headsReference] at heads


theorem parse_obj_eq_ok {kvs : List (String × Value)} {s : Spec} :
    parse (.obj kvs) = .ok s ↔ ∃ fs, parseFields kvs = .ok fs ∧ s = .object fs := by
  rcases fields : parseFields kvs with f | fs <;>
    simp [parse, fields, bind, Except.bind, pure, Except.pure, eq_comm]

theorem parse_literalList_eq_ok {head : Value} (literal : head.headsReference = false)
    {rest : List Value} {s : Spec} :
    parse (.arr (head :: rest)) = .ok s ↔ ∃ ss, parseItems (head :: rest) = .ok ss ∧ s = .list ss := by
  rw [parse_literalList literal]
  rcases items : parseItems (head :: rest) with f | ss <;>
    simp [bind, Except.bind, pure, Except.pure, eq_comm]

theorem parseItems_cons_eq_ok {x : Value} {rest : List Value} {ss : List Spec} :
    parseItems (x :: rest) = .ok ss ↔
      ∃ s ss', parse x = .ok s ∧ parseItems rest = .ok ss' ∧ ss = s :: ss' := by
  rcases first : parse x with f | s <;> rcases others : parseItems rest with g | ss' <;>
    simp [parseItems, first, others, bind, Except.bind, pure, Except.pure, eq_comm]

theorem parseFields_cons_eq_ok {k : String} {v : Value} {rest : List (String × Value)}
    {fs : List (String × Spec)} :
    parseFields ((k, v) :: rest) = .ok fs ↔
      ∃ s fs', parse v = .ok s ∧ parseFields rest = .ok fs' ∧ fs = (k, s) :: fs' := by
  rcases first : parse v with f | s <;> rcases others : parseFields rest with g | fs' <;>
    simp [parseFields, first, others, bind, Except.bind, pure, Except.pure, eq_comm]

mutual
theorem parse_ok_iff : (raw : Value) →
    ((∃ s, parse raw = .ok s) ↔ ∀ r ∈ raw.references, acceptsReference r.1 r.2 = true)
  | .obj kvs => by
    rw [Value.references, ← parseFields_ok_iff kvs]
    simp [parse_obj_eq_ok]
  | .arr [] => by simp [parse, Value.references, pure, Except.pure]
  | .arr (head :: rest) => by
    cases heads : head.headsReference with
    | true => simpa [Value.references, heads] using parse_reference_ok_iff heads rest
    | false =>
      rw [Value.references, if_neg (by simp [heads]), ← parseItems_ok_iff (head :: rest)]
      simp [parse_literalList_eq_ok heads]
  | .null | .bool _ | .num _ | .int _ | .str _ => by simp [parse, Value.references, pure, Except.pure]

theorem parseItems_ok_iff : (xs : List Value) →
    ((∃ ss, parseItems xs = .ok ss) ↔ ∀ r ∈ Value.itemReferences xs, acceptsReference r.1 r.2 = true)
  | [] => by simp [parseItems, Value.itemReferences, pure, Except.pure]
  | x :: rest => by
    rw [Value.itemReferences]
    simp only [List.mem_append, or_imp, forall_and, ← parse_ok_iff x, ← parseItems_ok_iff rest]
    simp [parseItems_cons_eq_ok]

theorem parseFields_ok_iff : (kvs : List (String × Value)) →
    ((∃ fs, parseFields kvs = .ok fs) ↔ ∀ r ∈ Value.fieldReferences kvs, acceptsReference r.1 r.2 = true)
  | [] => by simp [parseFields, Value.fieldReferences, pure, Except.pure]
  | (k, v) :: rest => by
    rw [Value.fieldReferences]
    simp only [List.mem_append, or_imp, forall_and, ← parse_ok_iff v, ← parseFields_ok_iff rest]
    simp [parseFields_cons_eq_ok]
end


/-! ## The steps an expression reads -/

theorem pairwise_insertAscending (n : Nat) {l : List Nat} (sorted : l.Pairwise (· < ·)) :
    (insertAscending n l).Pairwise (· < ·) := by
  induction l with
  | nil => simp [insertAscending]
  | cons m rest ih =>
    obtain ⟨above, sortedRest⟩ := List.pairwise_cons.mp sorted
    unfold insertAscending
    split
    · next lt =>
      refine List.pairwise_cons.mpr ⟨fun d mem => ?_, sorted⟩
      rcases List.mem_cons.mp mem with rfl | mem
      · exact lt
      · exact Nat.lt_trans lt (above d mem)
    · split
      · exact sorted
      · refine List.pairwise_cons.mpr ⟨fun d mem => ?_, ih sortedRest⟩
        rcases mem_insertAscending.mp mem with rfl | mem
        · omega
        · exact above d mem

mutual
theorem pairwise_collect {acc : List Nat} (sorted : acc.Pairwise (· < ·)) :
    (s : Spec) → (collect acc s).Pairwise (· < ·)
  | .literal _ | .input _ | .const _ => sorted
  | .step i _ => pairwise_insertAscending i sorted
  | .object fields => pairwise_collectFields sorted fields
  | .list items => pairwise_collectItems sorted items

theorem pairwise_collectItems {acc : List Nat} (sorted : acc.Pairwise (· < ·)) :
    (items : List Spec) → (collectItems acc items).Pairwise (· < ·)
  | [] => sorted
  | s :: rest => pairwise_collectItems (pairwise_collect sorted s) rest

theorem pairwise_collectFields {acc : List Nat} (sorted : acc.Pairwise (· < ·)) :
    (fields : List (String × Spec)) → (collectFields acc fields).Pairwise (· < ·)
  | [] => sorted
  | (_, s) :: rest => pairwise_collectFields (pairwise_collect sorted s) rest
end

/-- The steps an expression reads are listed in increasing order, each once. -/
theorem deps_pairwise (s : Spec) : s.deps.Pairwise (· < ·) :=
  pairwise_collect List.Pairwise.nil s

mutual
theorem mem_collect_of_parse : (raw : Value) → ∀ {s : Spec} {acc : List Nat} {d : Nat},
    parse raw = .ok s → (d ∈ collect acc s ↔ d ∈ acc ∨ ∃ r ∈ raw.references, toIndex r.1 = some d)
  | .obj kvs, s, acc, d, ok => by
    obtain ⟨fs, fields, rfl⟩ := parse_obj_eq_ok.mp ok
    rw [collect, Value.references]
    exact mem_collectFields_of_parse kvs fields
  | .arr [], s, acc, d, ok => by
    simp only [parse, pure, Except.pure, Except.ok.injEq] at ok
    simp [← ok, collect, Value.references]
  | .arr (head :: rest), s, acc, d, ok => by
    cases heads : head.headsReference with
    | true =>
      rw [collect_parse_reference heads ok acc]
      cases found : toIndex head <;>
        simp [Value.references, heads, found, mem_insertAscending, or_comm, eq_comm]
    | false =>
      obtain ⟨ss, items, rfl⟩ := (parse_literalList_eq_ok heads).mp ok
      rw [collect, Value.references, if_neg (by simp [heads])]
      exact mem_collectItems_of_parse (head :: rest) items
  | .null, s, acc, d, ok | .bool _, s, acc, d, ok | .num _, s, acc, d, ok | .int _, s, acc, d, ok
  | .str _, s, acc, d, ok => by
    simp only [parse, pure, Except.pure, Except.ok.injEq] at ok
    simp [← ok, collect, Value.references]

theorem mem_collectItems_of_parse : (xs : List Value) → ∀ {ss : List Spec} {acc : List Nat} {d : Nat},
    parseItems xs = .ok ss →
      (d ∈ collectItems acc ss ↔ d ∈ acc ∨ ∃ r ∈ Value.itemReferences xs, toIndex r.1 = some d)
  | [], ss, acc, d, ok => by
    simp only [parseItems, pure, Except.pure, Except.ok.injEq] at ok
    simp [← ok, collectItems, Value.itemReferences]
  | x :: rest, ss, acc, d, ok => by
    obtain ⟨s, ss', first, others, rfl⟩ := parseItems_cons_eq_ok.mp ok
    rw [collectItems, mem_collectItems_of_parse rest others, mem_collect_of_parse x first]
    simp [Value.itemReferences, or_and_right, exists_or, or_assoc]

theorem mem_collectFields_of_parse : (kvs : List (String × Value)) →
    ∀ {fs : List (String × Spec)} {acc : List Nat} {d : Nat}, parseFields kvs = .ok fs →
      (d ∈ collectFields acc fs ↔ d ∈ acc ∨ ∃ r ∈ Value.fieldReferences kvs, toIndex r.1 = some d)
  | [], fs, acc, d, ok => by
    simp only [parseFields, pure, Except.pure, Except.ok.injEq] at ok
    simp [← ok, collectFields, Value.fieldReferences]
  | (k, v) :: rest, fs, acc, d, ok => by
    obtain ⟨s, fs', first, others, rfl⟩ := parseFields_cons_eq_ok.mp ok
    rw [collectFields, mem_collectFields_of_parse rest others, mem_collect_of_parse v first]
    simp [Value.fieldReferences, or_and_right, exists_or, or_assoc]
end

theorem error_iff_not_ok {ε α : Type} (x : Except ε α) : (∃ f, x = .error f) ↔ ¬∃ a, x = .ok a := by
  cases x <;> simp

/-- **Parsing accepts exactly its grammar**: it fails iff some reference written in the value is
malformed, and the steps a parsed expression reads are the step numbers written in it, in
increasing order and each once. -/
theorem parse_grammar (raw : Value) :
    ((∃ f, parse raw = .error f) ↔ ∃ r ∈ raw.references, acceptsReference r.1 r.2 = false) ∧
    ∀ s, parse raw = .ok s →
      s.deps.Pairwise (· < ·) ∧ ∀ d, d ∈ s.deps ↔ ∃ r ∈ raw.references, toIndex r.1 = some d := by
  refine ⟨?_, fun s ok => ⟨deps_pairwise s, fun d => ?_⟩⟩
  · rw [error_iff_not_ok, parse_ok_iff]
    simp
  · have read : d ∈ collect [] s ↔ _ := mem_collect_of_parse raw ok
    simpa [deps] using read


/-! ## Evaluation -/

mutual
/-- The value of an expression over an input and step outputs `out`: each reference replaced by
what its path finds. -/
def fill (input : Value) (out : Nat → Value) : Spec → Value
  | .literal v => v
  | .input p => lookup input p
  | .const v => v
  | .step d p => lookup (out d) p
  | .object fields => .obj (fillFields input out fields)
  | .list items => .arr (fillItems input out items)

/-- The values of list items over an input and step outputs. -/
def fillItems (input : Value) (out : Nat → Value) : List Spec → List Value
  | [] => []
  | s :: rest => fill input out s :: fillItems input out rest

/-- The values of map entries over an input and step outputs. -/
def fillFields (input : Value) (out : Nat → Value) : List (String × Spec) → List (String × Value)
  | [] => []
  | (k, s) :: rest => (k, fill input out s) :: fillFields input out rest
end

mutual
theorem mem_collect {acc : List Nat} {d : Nat} : (s : Spec) →
    (d ∈ collect acc s ↔ d ∈ acc ∨ d ∈ collect [] s)
  | .literal _ | .input _ | .const _ => by simp [collect]
  | .step i _ => by simp [collect, mem_insertAscending, or_comm]
  | .object fields => mem_collectFields fields
  | .list items => mem_collectItems items

theorem mem_collectItems {acc : List Nat} {d : Nat} : (items : List Spec) →
    (d ∈ collectItems acc items ↔ d ∈ acc ∨ d ∈ collectItems [] items)
  | [] => by simp [collectItems]
  | s :: rest => by
    rw [collectItems, collectItems, mem_collectItems rest, mem_collect s,
      @mem_collectItems (collect [] s) d rest, or_assoc]
  
theorem mem_collectFields {acc : List Nat} {d : Nat} : (fields : List (String × Spec)) →
    (d ∈ collectFields acc fields ↔ d ∈ acc ∨ d ∈ collectFields [] fields)
  | [] => by simp [collectFields]
  | (_, s) :: rest => by
    rw [collectFields, collectFields, mem_collectFields rest, mem_collect s,
      @mem_collectFields (collect [] s) d rest, or_assoc]
end


-- Evaluation fails exactly at a step reference without an output; it reaches every reference.
mutual
theorem eval_error_of_missing (e : Env) {d : Nat} (missing : e.output? d = none) :
    (s : Spec) → d ∈ collect [] s → ∃ f, s.eval e = .error f
  | .literal _, read | .input _, read | .const _, read => by simp [collect] at read
  | .step i _, read => by
    simp only [collect, insertAscending, List.mem_singleton] at read
    subst read
    simp [eval, missing]
  | .object fields, read => by
    obtain ⟨f, fails⟩ := evalFields_error_of_missing e missing fields read
    exact ⟨f, by simp [eval, fails, Functor.map, Except.map]⟩
  | .list items, read => by
    obtain ⟨f, fails⟩ := evalItems_error_of_missing e missing items read
    exact ⟨f, by simp [eval, fails, Functor.map, Except.map]⟩

theorem evalItems_error_of_missing (e : Env) {d : Nat} (missing : e.output? d = none) :
    (items : List Spec) → d ∈ collectItems [] items → ∃ f, evalItems e items = .error f
  | [], read => by simp [collectItems] at read
  | s :: rest, read => by
    rw [collectItems, mem_collectItems] at read
    rcases first : s.eval e with f | v
    · exact ⟨f, by simp [evalItems, first, bind, Except.bind]⟩
    · rcases read with read | read
      · obtain ⟨f, fails⟩ := eval_error_of_missing e missing s read
        rw [fails] at first
        cases first
      · obtain ⟨f, fails⟩ := evalItems_error_of_missing e missing rest read
        exact ⟨f, by simp [evalItems, first, fails, bind, Except.bind]⟩

theorem evalFields_error_of_missing (e : Env) {d : Nat} (missing : e.output? d = none) :
    (fields : List (String × Spec)) → d ∈ collectFields [] fields →
      ∃ f, evalFields e fields = .error f
  | [], read => by simp [collectFields] at read
  | (_, s) :: rest, read => by
    rw [collectFields, mem_collectFields] at read
    rcases first : s.eval e with f | v
    · exact ⟨f, by simp [evalFields, first, bind, Except.bind]⟩
    · rcases read with read | read
      · obtain ⟨f, fails⟩ := eval_error_of_missing e missing s read
        rw [fails] at first
        cases first
      · obtain ⟨f, fails⟩ := evalFields_error_of_missing e missing rest read
        exact ⟨f, by simp [evalFields, first, fails, bind, Except.bind]⟩
end

-- Once every step read has an output, evaluation is the filled-in expression.
mutual
theorem eval_eq_fill_of_collect (e : Env) (acc : List Nat) : (s : Spec) →
    (∀ d ∈ collect acc s, (e.output? d).isSome) →
      s.eval e = .ok (s.fill e.input fun d => (e.output? d).getD .null)
  | .literal _, _ | .input _, _ | .const _, _ => rfl
  | .step i _, recorded => by
    obtain ⟨v, found⟩ := Option.isSome_iff_exists.mp
      (recorded i (mem_insertAscending.mpr (.inl rfl)))
    simp [eval, fill, found, pure, Except.pure]
  | .object fields, recorded => by
    simp [eval, fill, evalFields_eq_fill_of_collect e acc fields recorded, Functor.map, Except.map]
  | .list items, recorded => by
    simp [eval, fill, evalItems_eq_fill_of_collect e acc items recorded, Functor.map, Except.map]

theorem evalItems_eq_fill_of_collect (e : Env) (acc : List Nat) : (items : List Spec) →
    (∀ d ∈ collectItems acc items, (e.output? d).isSome) →
      evalItems e items = .ok (fillItems e.input (fun d => (e.output? d).getD .null) items)
  | [], _ => rfl
  | s :: rest, recorded => by
    have first := eval_eq_fill_of_collect e acc s fun d read =>
      recorded d (subset_collectItems _ rest d read)
    have others := evalItems_eq_fill_of_collect e (collect acc s) rest recorded
    simp [evalItems, fillItems, first, others, bind, Except.bind, pure, Except.pure]

theorem evalFields_eq_fill_of_collect (e : Env) (acc : List Nat) :
    (fields : List (String × Spec)) → (∀ d ∈ collectFields acc fields, (e.output? d).isSome) →
      evalFields e fields = .ok (fillFields e.input (fun d => (e.output? d).getD .null) fields)
  | [], _ => rfl
  | (_, s) :: rest, recorded => by
    have first := eval_eq_fill_of_collect e acc s fun d read =>
      recorded d (subset_collectFields _ rest d read)
    have others := evalFields_eq_fill_of_collect e (collect acc s) rest recorded
    simp [evalFields, fillFields, first, others, bind, Except.bind, pure, Except.pure]
end

end Spec

theorem Env.output?_eq_none_iff (e : Env) (d : Nat) :
    e.output? d = none ↔ e.outputs.length ≤ d ∨ e.outputs[d]? = some none := by
  unfold Env.output?
  rcases found : e.outputs[d]? with _ | x
  · simp [List.getElem?_eq_none_iff.mp found]
  · have inside : d < e.outputs.length := (List.getElem?_eq_some_iff.mp found).1
    simp [Nat.not_le.mpr inside]

namespace Spec

/-- **Evaluation reads exactly the steps an expression depends on**: it fails iff one of them is
past the environment or has no output yet; otherwise its value is the expression filled in
with the input and those outputs; and two environments that agree on the input and on those
outputs give the same result. -/
theorem eval_reads_deps (e : Env) (s : Spec) :
    ((∃ f, s.eval e = .error f) ↔
      ∃ d ∈ s.deps, e.outputs.length ≤ d ∨ e.outputs[d]? = some none) ∧
    ((∀ d ∈ s.deps, (e.output? d).isSome) →
      s.eval e = .ok (s.fill e.input fun d => (e.output? d).getD .null)) ∧
    ∀ e' : Env, e'.input = e.input → (∀ d ∈ s.deps, e'.output? d = e.output? d) →
      s.eval e' = s.eval e := by
  refine ⟨⟨fun ⟨f, fails⟩ => ?_, fun ⟨d, read, missing⟩ => ?_⟩,
    eval_eq_fill_of_collect e [] s, fun e' input agree => eval_congr input agree⟩
  · by_contra none_missing
    have recorded : ∀ d ∈ s.deps, (e.output? d).isSome := by
      intro d read
      by_contra missing
      exact none_missing ⟨d, read, (Env.output?_eq_none_iff e d).mp (by simpa using missing)⟩
    obtain ⟨v, ok⟩ := eval_ok_of_deps recorded
    rw [ok] at fails
    cases fails
  · exact eval_error_of_missing e ((Env.output?_eq_none_iff e d).mpr missing) s read

/-! ## Data without references -/

-- A value with no reference written in it is read as data, piece by piece, and each piece
-- evaluates back to what was read.
mutual
theorem parse_eval_data : (raw : Value) → raw.references = [] →
    ∃ s, parse raw = .ok s ∧ ∀ e, s.eval e = .ok raw
  | .obj kvs, free => by
    obtain ⟨fs, parsed, evals⟩ := parseFields_evalFields_data kvs free
    refine ⟨.object fs, ?_, fun e => ?_⟩
    · simp [parse, parsed, bind, Except.bind, pure, Except.pure]
    · simp [eval, evals e, Functor.map, Except.map]
  | .arr [], _ => ⟨.literal (.arr []), rfl, fun _ => rfl⟩
  | .arr (head :: rest), free => by
    cases heads : head.headsReference with
    | true => simp [Value.references, heads] at free
    | false =>
      rw [Value.references, if_neg (by simp [heads])] at free
      obtain ⟨ss, parsed, evals⟩ := parseItems_evalItems_data (head :: rest) free
      refine ⟨.list ss, ?_, fun e => ?_⟩
      · simp [parse_literalList heads, parsed, bind, Except.bind, pure, Except.pure]
      · simp [eval, evals e, Functor.map, Except.map]
  | .null, _ => ⟨.literal .null, rfl, fun _ => rfl⟩
  | .bool b, _ => ⟨.literal (.bool b), rfl, fun _ => rfl⟩
  | .num x, _ => ⟨.literal (.num x), rfl, fun _ => rfl⟩
  | .int n, _ => ⟨.literal (.int n), rfl, fun _ => rfl⟩
  | .str t, _ => ⟨.literal (.str t), rfl, fun _ => rfl⟩

theorem parseItems_evalItems_data : (xs : List Value) → Value.itemReferences xs = [] →
    ∃ ss, parseItems xs = .ok ss ∧ ∀ e, evalItems e ss = .ok xs
  | [], _ => ⟨[], rfl, fun _ => rfl⟩
  | x :: rest, free => by
    rw [Value.itemReferences, List.append_eq_nil_iff] at free
    obtain ⟨s, parsed, evals⟩ := parse_eval_data x free.1
    obtain ⟨ss, parsedRest, evalsRest⟩ := parseItems_evalItems_data rest free.2
    refine ⟨s :: ss, ?_, fun e => ?_⟩
    · simp [parseItems, parsed, parsedRest, bind, Except.bind, pure, Except.pure]
    · simp [evalItems, evals e, evalsRest e, bind, Except.bind, pure, Except.pure]

theorem parseFields_evalFields_data : (kvs : List (String × Value)) →
    Value.fieldReferences kvs = [] →
    ∃ fs, parseFields kvs = .ok fs ∧ ∀ e, evalFields e fs = .ok kvs
  | [], _ => ⟨[], rfl, fun _ => rfl⟩
  | (k, v) :: rest, free => by
    rw [Value.fieldReferences, List.append_eq_nil_iff] at free
    obtain ⟨s, parsed, evals⟩ := parse_eval_data v free.1
    obtain ⟨fs, parsedRest, evalsRest⟩ := parseFields_evalFields_data rest free.2
    refine ⟨(k, s) :: fs, ?_, fun e => ?_⟩
    · simp [parseFields, parsed, parsedRest, bind, Except.bind, pure, Except.pure]
    · simp [evalFields, evals e, evalsRest e, bind, Except.bind, pure, Except.pure]
end

/-- **Data evaluates to itself**: a value with no reference in any position the parser reads
(no list there headed by a string or a number) parses, and in every environment evaluates to
the very same value — maps rebuilt with the same keys, lists with the same items, scalars and
empty lists as they are; and `["CONST", v]` evaluates to `v` as written, references in it
included. -/
theorem data_evaluates_to_itself :
    (∀ raw : Value, raw.references = [] → ∃ s, parse raw = .ok s ∧ ∀ e, s.eval e = .ok raw) ∧
    ∀ (v : Value) (e : Env), (parse (.arr [.str "CONST", v]) >>= eval e) = .ok v :=
  ⟨parse_eval_data, fun v e => by simp [parse, eval, bind, Except.bind, pure, Except.pure]⟩

/-- A map holding a list headed by `true`: the `INPUT` after the head is data. -/
theorem data_evaluates_to_itself_nested :
    let raw : Value := .obj [("m", .arr [.bool true, .str "INPUT"])]
    raw.references = [] ∧ ∃ s, parse raw = .ok s ∧ ∀ e, s.eval e = .ok raw := by
  intro raw
  have free : raw.references = [] := rfl
  exact ⟨free, data_evaluates_to_itself.1 raw free⟩

end Spec
end JobEngine
