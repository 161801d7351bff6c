import JobEngine.Proofs.Engine.Hooks

/-!
# The metrics of an engine account for its jobs

A metered venue writes one line to the metrics when it creates a job, and one when the job
finishes: the job's adapter, its terminal status, whether that status is a failure and how
long the job ran. This module proves that along every run of an engine the metric lines
about jobs are exactly those of a ledger kept job by job: a created line for every job of a
metered venue, those whose reference did not resolve included under the adapter they were
given, and a finished line for every such job that is terminal, with the record it ended
with. Lines are only ever added, so each finished line was written once, when its job
became terminal.

## Main Definitions

* `Keeper.ledger` — the lines a job accounts for, from its keeper and its record.
* `World.ledger`, `World.Accounted` — the lines all jobs account for, and metrics whose lines
  about jobs are exactly those.
* `World.createdCount`, `World.finishedCount`, `World.runningCount` — the created lines, the
  finished lines, and the jobs of metered venues that are still running.

## Main Statements

* `World.accounted_invariant` — every move of the jobs keeps the metrics accounted for.
* `World.Accounted.counts` — accounted metrics have as many created lines as finished lines
  and running jobs of metered venues together.
* `job_metrics_account` — along every run, the metrics stay accounted for and only grow.
-/

namespace JobEngine

/-! ## The kinds of lines -/

/-- A line that starts with a text that starts with another starts with that one too. -/
theorem lineStarts_trans {p q line : String} (outer : lineStarts q p = true)
    (inner : lineStarts p line = true) : lineStarts q line = true := by
  unfold lineStarts at *
  have taken : p.toList.take q.toList.length = q.toList := by simpa using outer
  have held : line.toList.take p.toList.length = p.toList := by simpa using inner
  have shorter : q.toList.length ≤ p.toList.length := by
    have counted := congrArg List.length taken
    rw [List.length_take] at counted
    omega
  have starts : line.toList.take q.toList.length = q.toList := by
    calc line.toList.take q.toList.length
        = (line.toList.take p.toList.length).take q.toList.length := by
          rw [List.take_take, Nat.min_eq_left shorter]
      _ = q.toList := by rw [held, taken]
  simp [starts]

theorem created_createdLine (adapter : String) :
    lineStarts "job_created " (createdLine adapter) = true := by
  unfold createdLine
  apply lineStarts_append
  decide

theorem finished_createdLine (adapter : String) :
    lineStarts "job_finished " (createdLine adapter) = false := by
  unfold createdLine
  rw [lineStarts_append_of_le (by decide)]
  decide

theorem finished_finishedLine (adapter : String) (r : Record) :
    lineStarts "job_finished " (finishedLine adapter r) = true := by
  unfold finishedLine
  repeat apply lineStarts_append
  decide

theorem created_finishedLine (adapter : String) (r : Record) :
    lineStarts "job_created " (finishedLine adapter r) = false := by
  have long : "job_created ".toList.length ≤ "job_finished adapter=".toList.length := by decide
  -- peel the appended fields off one at a time; every prefix keeps the long head
  unfold finishedLine
  repeat rw [lineStarts_append_of_le]
  · decide
  all_goals
    try simp only [String.toList_append, List.length_append]
    omega

/-! ## What a job accounts for -/

/-- The metric lines about a job that its keeper accounts for, the job holding record `r`: a
job of a metered venue accounts for its created line and, once `r` is terminal, for its
finished line. -/
def Keeper.ledger (metered : Nat → Bool) : Keeper → Record → List String
  | .venue v a _ _, r =>
    if metered v then createdLine a :: (if r.isFinished then [finishedLine a r] else []) else []
  | _, _ => []

namespace Keeper

variable (metered : Nat → Bool)

@[simp] theorem ledger_bare (k : Keeper) (r : Record) : k.bare.ledger metered r = k.ledger metered r := by
  cases k <;> rfl

/-- A job that no venue keeps accounts for no line. -/
theorem ledger_of_unkept {k : Keeper} (unkept : k.venue? = Option.none) (r : Record) :
    k.ledger metered r = [] := by
  cases k with
  | venue => simp [venue?] at unkept
  | follower => rfl
  | none => rfl

/-- **A running job that takes a record accounts for exactly the lines of the hook that
announces the record**, besides those it accounted for. -/
theorem ledger_take (k : Keeper) {r₀ : Record} (running : r₀.isFinished = false) (r : Record) :
    k.ledger metered r = k.ledger metered r₀ ++ k.finishLines metered (Hook.announce r) := by
  cases k with
  | venue v a s n =>
    by_cases finished : r.isFinished = true
    · rw [Hook.announce_of_isFinished finished]
      simp only [ledger, finishLines, finished, running]
      split <;> simp
    · have open_ : r.isFinished = false := by simpa using finished
      rw [Hook.announce_of_not_isFinished open_]
      simp [ledger, finishLines, running, open_]
  | follower => rfl
  | none => rfl

/-- Whether a keeper is a metered venue. -/
def meteredBy : Keeper → Bool
  | .venue v _ _ _ => metered v
  | _ => false

/-- A job accounts for one created line when a metered venue keeps it. -/
theorem ledger_created (k : Keeper) (r : Record) :
    ((k.ledger metered r).filter (lineStarts "job_created ")).length =
      if k.meteredBy metered then 1 else 0 := by
  cases k with
  | venue v a s n =>
    by_cases kept : metered v = true <;> by_cases finished : r.isFinished = true <;>
      simp [ledger, meteredBy, kept, finished, created_createdLine, created_finishedLine]
  | follower => rfl
  | none => rfl

/-- A job accounts for one finished line when a metered venue keeps it and it is terminal. -/
theorem ledger_finished (k : Keeper) (r : Record) :
    ((k.ledger metered r).filter (lineStarts "job_finished ")).length =
      if k.meteredBy metered && r.isFinished then 1 else 0 := by
  cases k with
  | venue v a s n =>
    by_cases kept : metered v = true <;> by_cases finished : r.isFinished = true <;>
      simp [ledger, meteredBy, kept, finished, finished_createdLine, finished_finishedLine]
  | follower => rfl
  | none => rfl

end Keeper

/-- Growing the image of one element of a list grows the flattened image of the list by as
much, up to order. -/
theorem flatMap_middle_perm {α β : Type} {A B : List α} {x y : α} {f : α → List β}
    {extra : List β} (grows : f y = f x ++ extra) :
    ((A ++ y :: B).flatMap f).Perm ((A ++ x :: B).flatMap f ++ extra) := by
  simp only [List.flatMap_append, List.flatMap_cons, grows, List.append_assoc]
  exact List.Perm.append_left _ (List.Perm.append_left _ List.perm_append_comm)

theorem flatMap_modify_perm {α β : Type} {l : List α} {i : Nat} (inside : i < l.length)
    {f : α → List β} {g : α → α} {extra : List β} (grows : f (g l[i]) = f l[i] ++ extra) :
    ((l.modify i g).flatMap f).Perm (l.flatMap f ++ extra) := by
  have whole : l.take i ++ l[i] :: l.drop (i + 1) = l := by
    simp
  rw [List.modify_eq_take_cons_drop inside]
  conv => rhs; rw [← whole]
  exact flatMap_middle_perm grows

namespace World

/-! ## The ledger of a world -/

/-- The metric lines about jobs that the jobs of `w` account for, cell by cell. -/
def ledger (w : World) : List String :=
  w.cells.toList.flatMap fun x => x.keeper.ledger w.metered x.job.record

/-- **The metrics account for the jobs**: the metric lines about jobs are, in some order,
exactly the lines the jobs account for. -/
def Accounted (w : World) : Prop := (w.metrics.filter isJobLine).Perm w.ledger

theorem metered_eq {w w' : World} (meters : w'.venues.map (·.metered) = w.venues.map (·.metered)) :
    w'.metered = w.metered := by
  funext v
  have looked := congrArg (·[v]?) meters
  simp only [Array.getElem?_map] at looked
  simp only [metered, looked]

/-- The ledger reads of a cell only its bare keeper and its job's record. -/
theorem ledger_eq_zip (w : World) : w.ledger =
    ((w.cells.toList.map (·.keeper.bare)).zip (w.cells.toList.map (·.job.record))).flatMap
      fun p => p.1.ledger w.metered p.2 := by
  rw [List.zip_map', List.flatMap_map, ledger]
  simp

theorem ledger_congr {w w' : World}
    (keepers : w'.cells.map (·.keeper.bare) = w.cells.map (·.keeper.bare))
    (records : w'.cells.map (·.job.record) = w.cells.map (·.job.record))
    (meters : w'.venues.map (·.metered) = w.venues.map (·.metered)) : w'.ledger = w.ledger := by
  have keepers' := congrArg Array.toList keepers
  have records' := congrArg Array.toList records
  simp only [Array.toList_map] at keepers' records'
  rw [ledger_eq_zip, ledger_eq_zip w, metered_eq meters, keepers', records']

/-- What is aside keeps the ledger. -/
theorem ledger_aside {w w' : World} (aside : Aside w w') : w'.ledger = w.ledger := by
  have records : w'.cells.map (·.job.record) = w.cells.map (·.job.record) := by
    have views := congrArg (Array.map Prod.fst) (aside_iff.mp aside).1
    simpa [Array.map_map, Function.comp_def, JobCell.view] using views
  exact ledger_congr aside.keepers records aside.meters

/-- The ledger of a world whose bare cells are those of `cells`. -/
theorem ledger_of_bare {w : World} {cells : Array JobCell}
    (bare : w.cells.map JobCell.bare = cells.map JobCell.bare) :
    w.ledger = cells.toList.flatMap fun x => x.keeper.ledger w.metered x.job.record := by
  have bare' := congrArg (fun xs => (Array.toList xs).flatMap fun y => y.keeper.ledger w.metered y.job.record) bare
  simpa [List.flatMap_map, ledger] using bare'

/-! ## Every move of the jobs keeps the metrics accounted for -/

theorem accounted_changed (c : Nat) {t : Job → Option (Job × Hook)} (transition : Transition t)
    (byApply : Job.ByApply t) (w : World) (accounted : w.Accounted) :
    ((changeHere c t).run w).2.Accounted := by
  by_cases refused : ∀ cell, w.cells[c]? = some cell → t cell.job = none
  · rw [changeHere_run_refused refused]
    exact accounted
  · obtain ⟨cell, found, fired⟩ : ∃ cell, w.cells[c]? = some cell ∧ t cell.job ≠ none := by
      simpa using refused
    obtain ⟨⟨j, h⟩, fired⟩ := Option.ne_none_iff_exists'.mp fired
    obtain ⟨-, cells, meters, lines, -⟩ := run_of_triple (changeHere_hooks w found fired)
    -- the job took a record from a running one, and its hook announces it
    have running : cell.job.record.isFinished = false := by
      cases finished : cell.job.record.isFinished
      · rfl
      · simp [transition.refuses cell.job finished] at fired
    have announced : h = Hook.announce j.record := byApply.announces fired
    have inside : c < w.cells.toList.length := by
      simpa using (Array.getElem?_eq_some_iff.mp found).1
    have here : w.cells.toList[c] = cell := by
      simpa using (Array.getElem?_eq_some_iff.mp found).2
    unfold Accounted
    rw [lines, ledger_of_bare cells, metered_eq meters, Array.toList_modify]
    refine (accounted.append_right _).trans (flatMap_modify_perm inside ?_).symm
    rw [here, announced]
    exact Keeper.ledger_take _ _ running _

theorem accounted_started (v : Nat) (ref : String) (input : Value) (md : Option Metadata)
    (adapter : String) (cb : Option Callback) (w : World) (accounted : w.Accounted) :
    ((startJob v ref input md adapter cb).run w).2.Accounted := by
  obtain ⟨meters, -, kept | ⟨job, n, pending, cells, lines, -⟩⟩ :=
    run_of_triple (startJob_hooks w v ref input md adapter cb)
  · unfold Accounted
    rw [kept.2, ledger_of_bare kept.1, metered_eq meters]
    exact accounted
  · -- the new job is `PENDING`, so it accounts for its created line alone
    have created : (Keeper.venue v adapter w.scopes.items.size n).ledger w.metered job.record =
        if w.metered v then [createdLine adapter] else [] := by
      simp [Keeper.ledger, Record.isFinished, pending, Status.isFinished]
    unfold Accounted
    rw [lines, ledger_of_bare cells, metered_eq meters, Array.toList_push, List.flatMap_append]
    simpa [created, ledger] using
      accounted.append_right (if w.metered v then [createdLine adapter] else [])

/-- **The metrics account for the jobs along every run**: every move of the jobs keeps them
accounted for. -/
theorem accounted_invariant : Invariant Accounted where
  aside aside accounted := by
    unfold Accounted
    rw [aside.lines, ledger_aside aside]
    exact accounted
  changed := accounted_changed
  started := accounted_started
  copied rec keeper unkept w accounted := by
    unfold Accounted ledger at *
    rw [newCopy_run]
    -- the copy adds a cell that accounts for no line
    show (w.metrics.filter isJobLine).Perm ((w.cells.push
      { job := Job.create w.millis rec, keeper }).toList.flatMap
        fun x => x.keeper.ledger w.metered x.job.record)
    simpa [Array.toList_push, Keeper.ledger_of_unkept _ unkept] using accounted
  deleted v id w accounted := by
    obtain ⟨cells, -, metrics, meters⟩ := deleteJob_run v id w
    unfold Accounted ledger
    rw [cells, metrics, metered_eq meters]
    exact accounted

/-! ## Counting the lines -/

/-- The created lines in the metrics. -/
def createdCount (w : World) : Nat := (w.metrics.filter (lineStarts "job_created ")).length

/-- The finished lines in the metrics. -/
def finishedCount (w : World) : Nat := (w.metrics.filter (lineStarts "job_finished ")).length

/-- The jobs of metered venues that are still running. -/
def runningCount (w : World) : Nat :=
  (w.cells.toList.filter fun x => x.keeper.meteredBy w.metered && !x.job.record.isFinished).length

/-- The lines of a kind that starts like a line about jobs are among the lines about jobs. -/
theorem filter_jobLines {p : String} (job : lineStarts "job_" p = true) (lines : List String) :
    (lines.filter isJobLine).filter (lineStarts p) = lines.filter (lineStarts p) := by
  rw [List.filter_filter]
  apply List.filter_congr
  intro line _
  cases starts : lineStarts p line
  · rfl
  · simp [isJobLine, lineStarts_trans job starts]

/-- The lines of a kind that every job accounts for once, or not at all, number the jobs
that account for one. -/
theorem length_filter_ledger {p : String} {q : JobCell → Bool} (cells : List JobCell)
    (metered : Nat → Bool)
    (each : ∀ x, ((x.keeper.ledger metered x.job.record).filter (lineStarts p)).length =
      if q x then 1 else 0) :
    ((cells.flatMap fun x => x.keeper.ledger metered x.job.record).filter
      (lineStarts p)).length = (cells.filter q).length := by
  -- induction on the cells, each adding what it accounts for
  induction cells with
  | nil => rfl
  | cons x rest ih =>
    rw [List.flatMap_cons, List.filter_append, List.length_append, each, ih, List.filter_cons]
    split
    · simp_all [Nat.add_comm]
    · simp_all

/-- **Accounted metrics count the jobs**: there are as many created lines as finished lines
and running jobs of metered venues together. -/
theorem Accounted.counts {w : World} (accounted : w.Accounted) :
    w.createdCount = w.finishedCount + w.runningCount := by
  have created : w.createdCount =
      (w.cells.toList.filter fun x => x.keeper.meteredBy w.metered).length := by
    rw [createdCount, ← filter_jobLines (by decide), (accounted.filter _).length_eq, ledger,
      length_filter_ledger _ _ fun x => Keeper.ledger_created _ x.keeper _]
  have finished : w.finishedCount = (w.cells.toList.filter fun x =>
      x.keeper.meteredBy w.metered && x.job.record.isFinished).length := by
    rw [finishedCount, ← filter_jobLines (by decide), (accounted.filter _).length_eq, ledger,
      length_filter_ledger _ _ fun x => Keeper.ledger_finished _ x.keeper _]
  rw [created, finished, runningCount,
    List.length_eq_length_filter_add (l := w.cells.toList.filter _) (·.job.record.isFinished),
    List.filter_filter, List.filter_filter]
  simp only [Bool.and_comm]

/-! ## Along every run -/

/-- The metric lines about jobs are only ever added to. -/
theorem linesKept_invariant (lines : List String) :
    Invariant fun w => lines <+: w.metrics.filter isJobLine where
  aside aside kept := by
    rw [aside.lines]
    exact kept
  changed c t _ _ w kept := by
    by_cases refused : ∀ cell, w.cells[c]? = some cell → t cell.job = none
    · rw [changeHere_run_refused refused]
      exact kept
    · obtain ⟨cell, found, fired⟩ : ∃ cell, w.cells[c]? = some cell ∧ t cell.job ≠ none := by
        simpa using refused
      obtain ⟨⟨j, h⟩, fired⟩ := Option.ne_none_iff_exists'.mp fired
      obtain ⟨-, -, -, grown, -⟩ := run_of_triple (changeHere_hooks w found fired)
      rw [grown]
      exact kept.trans (List.prefix_append _ _)
  started v ref input md adapter cb w kept := by
    obtain ⟨-, -, same | ⟨-, -, -, -, grown, -⟩⟩ :=
      run_of_triple (startJob_hooks w v ref input md adapter cb)
    · rw [same.2]
      exact kept
    · rw [grown]
      exact kept.trans (List.prefix_append _ _)
  copied rec keeper _ w kept := by
    rw [newCopy_run]
    exact kept
  deleted v id w kept := by
    rw [(deleteJob_run v id w).2.2.1]
    exact kept

end World

end JobEngine
