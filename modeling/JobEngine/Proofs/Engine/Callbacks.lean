import JobEngine.Proofs.Engine.Hearing
import JobEngine.Proofs.Job.Events

/-!
# What the callback of a job is handed

A job invoked with a callback, on a venue that honours callbacks, tells the callback of its
`PENDING` record when it starts and of every record it takes afterwards; the callback's filter
decides which of these it is handed, as events numbered one, two, three, … in the order they
are handed. This module proves that along every run of an engine, with an outlet that records
what it is handed.

The records a job announces are not kept in the world: they are what the run did. A run is
therefore labelled with its **announcements** (`World.Announces`), following the moves of jobs
that every call on an engine is made of: a change of a job announces the record the job takes,
starting a job announces its first record, and nothing else announces anything. Whatever
announcements label a run, the outlet holds exactly their deliveries, and each new cell's
announcements tell one story (`Told`): they are chained, the first opens the job, and the last
left the cell as it stands (`World.Announces.heard`).

## Main Definitions

* `Notice.stream` — what a callback is handed for a sequence of records, in closed form.
* `Announcement` — a record announced to the callback of a cell, with the notice it met.
* `Told` — the announcements of one cell entered along a run.
* `World.Announces` — the runs of an engine, labelled with their announcements.
* `World.Heard` — what the outlet and the callbacks hold after a labelled run.
* `CallbackStream` — what the callback of one job was handed.

## Main Statements

* `Notice.stream_cons` — handing records one at a time gives the closed form.
* `Notice.nodup_stream_id`, `Notice.stream_id_ne` — event ids are never reused, within a job or
  across jobs.
* `World.Announces.heard` — every labelled run leaves the outlet and the callbacks as its
  announcements say.
* `callback_event_stream` — the deliveries of a job are, in order, its wanted records, numbered
  from one, at most the last a finish; and event ids are never reused.
-/

namespace JobEngine

/-! ## What a callback is handed for a sequence of records -/

namespace Notice

/-- **What a callback is handed** for records `rs`, each with the clock reading it was announced
at: the records its filter wants, in order, the `k`-th of them numbered `k` past the notice's
count, each as the event of its type carrying the record, to the callback's URL with its key. -/
def stream (n : Notice) (rs : List (Record × Int)) : List Delivery :=
  ((rs.filter fun x => eventWanted x.1.eventType n.events).zipIdx (n.numbering.seq + 1)).map
    fun (x : (Record × Int) × Nat) =>
      { event :=
          { type := x.1.1.eventType, source := n.numbering.source, subject := n.numbering.jobId,
            id := eventId n.numbering.jobId x.2 x.1.1.status,
            time := if x.1.1.updated > 0 then x.1.1.updated * 1000000 else x.1.2,
            data := EventNumbering.data x.1.1 }
        url := n.url, key := n.key }

@[simp] theorem stream_nil (n : Notice) : n.stream [] = [] := rfl

/-- **Handing records one at a time gives the closed form**: the first record's delivery, if
wanted, then what the told notice hands for the rest. -/
theorem stream_cons (n : Notice) (r : Record) (now : Int) (rest : List (Record × Int)) :
    n.stream ((r, now) :: rest) = (n.delivery? r now).toList ++ (n.told r now).stream rest := by
  by_cases wanted : eventWanted r.eventType n.events = true
  · simp [stream, delivery?, told, wanted, EventNumbering.forRecord, EventNumbering.build, eventId]
  · simp [stream, delivery?, told, wanted]

/-- The delivery of a record that is not terminal is an update event. -/
theorem type_delivery_of_running {n : Notice} {r : Record} {now : Int} {d : Delivery}
    (running : r.isFinished = false) (handed : d ∈ (n.delivery? r now).toList) :
    d.event.type = updateEventType := by
  unfold delivery? at handed
  split at handed
  · simp only [Option.toList_some, List.mem_singleton] at handed
    subst handed
    simp [EventNumbering.forRecord, EventNumbering.build, Record.eventType, running]
  · simp at handed

/-- A callback is handed nothing but update events before its last delivery, when only the last
record can be terminal: a finish event, if any, is the last delivery. -/
theorem stream_updates_before_last (n : Notice) {rs : List (Record × Int)}
    (running : ∀ x ∈ rs.dropLast, x.1.isFinished = false) :
    ∀ d ∈ (n.stream rs).dropLast, d.event.type = updateEventType := by
  -- induction on the records, the notice moving on with each
  induction rs generalizing n with
  | nil => simp
  | cons x rest ih =>
    obtain ⟨r, now⟩ := x
    rw [stream_cons]
    cases rest with
    | nil =>
      intro d mem
      unfold delivery? at mem
      split at mem <;> simp at mem
    | cons y rest =>
      have first : r.isFinished = false := running (r, now) (by simp)
      have later : ∀ x ∈ (y :: rest).dropLast, x.1.isFinished = false :=
        fun x mem => running x (by simp [mem])
      intro d mem
      rw [List.dropLast_append] at mem
      split at mem
      · exact type_delivery_of_running first (List.dropLast_subset _ mem)
      · rcases List.mem_append.mp mem with head | tail
        · exact type_delivery_of_running first head
        · exact ih (n.told r now) later d tail

/-- **What a callback is handed are the events its numbering builds** for the records its filter
wants, in order. -/
theorem stream_events (n : Notice) (rs : List (Record × Int)) :
    (n.stream rs).map (·.event) = n.numbering.events
      ((rs.filter fun x => eventWanted x.1.eventType n.events).map
        fun x => (x.1.eventType, x.1, x.2)) := by
  -- induction on the records, the notice moving on with each
  induction rs generalizing n with
  | nil => rfl
  | cons x rest ih =>
    obtain ⟨r, now⟩ := x
    rw [stream_cons, List.map_append, ih]
    by_cases wanted : eventWanted r.eventType n.events = true
    · simp [delivery?, told, wanted, EventNumbering.events, EventNumbering.forRecord]
    · simp [delivery?, told, wanted]

/-- **A callback is never handed one event id twice.** -/
theorem nodup_stream_id (n : Notice) (rs : List (Record × Int)) :
    ((n.stream rs).map (·.event.id)).Nodup := by
  have ids := EventNumbering.nodup_events_id n.numbering
    ((rs.filter fun x => eventWanted x.1.eventType n.events).map fun x => (x.1.eventType, x.1, x.2))
  rw [← stream_events, List.map_map] at ids
  exact ids

/-- Every event a callback is handed has an id of its job. -/
theorem mem_stream_id {n : Notice} {rs : List (Record × Int)} {d : Delivery}
    (handed : d ∈ n.stream rs) : ∃ k st, d.event.id = eventId n.numbering.jobId k st := by
  obtain ⟨x, -, rfl⟩ := List.mem_map.mp handed
  exact ⟨x.2, x.1.1.status, rfl⟩

/-- **Callbacks of jobs whose ids are distinct texts of one length are never handed the same
event id.** -/
theorem stream_id_ne {n n' : Notice}
    (sameLength : n.numbering.jobId.length = n'.numbering.jobId.length)
    (apart : n.numbering.jobId ≠ n'.numbering.jobId) {rs rs' : List (Record × Int)} {d d' : Delivery}
    (handed : d ∈ n.stream rs) (handed' : d' ∈ n'.stream rs') : d.event.id ≠ d'.event.id := by
  obtain ⟨k, st, named⟩ := mem_stream_id handed
  obtain ⟨k', st', named'⟩ := mem_stream_id handed'
  rw [named, named']
  exact eventId_ne_of_jobId_ne sameLength apart k k' st st'

end Notice

/-! ## Announcements -/

/-- **A record announced by a cell**, at clock reading `now`, to the notice its callback stood
at, if it has one. -/
structure Announcement where
  cell : Nat
  record : Record
  now : Int
  notice : Option Notice

namespace Announcement

/-- What the callback is handed for an announcement. -/
def delivery? (a : Announcement) : Option Delivery := a.notice.bind (·.delivery? a.record a.now)

/-- The notice once told of an announcement. -/
def told (a : Announcement) : Option Notice := a.notice.map (·.told a.record a.now)

/-- What callbacks are handed for a sequence of announcements, in order. -/
def deliveries (as : List Announcement) : List Delivery := as.flatMap fun a => a.delivery?.toList

/-- **The announcements of one cell, in order**: each meets the notice the one before left, and
only the last may announce a terminal record. -/
def Chained : List Announcement → Prop
  | a :: b :: rest => b.notice = a.told ∧ a.record.isFinished = false ∧ Chained (b :: rest)
  | _ => True

/-- **The announcement that opens a job with a callback**: a `PENDING` record with a
32-character id, to the notice of a callback for that id. -/
def Opens (a : Announcement) : Prop :=
  ∀ n ∈ a.notice, a.record.status = .pending ∧ a.record.id.length = 32 ∧
    ∃ cb : Callback, n = cb.notice a.record.id

@[simp] theorem deliveries_nil : deliveries [] = [] := rfl

@[simp] theorem deliveries_append (as bs : List Announcement) :
    deliveries (as ++ bs) = deliveries as ++ deliveries bs :=
  List.flatMap_append

theorem deliveries_cons (a : Announcement) (as : List Announcement) :
    deliveries (a :: as) = a.delivery?.toList ++ deliveries as :=
  List.flatMap_cons

/-- **A chain hands its callback the stream of its records**, from the notice of its first. -/
theorem deliveries_eq_stream {n : Notice} :
    ∀ {a : Announcement} {rest : List Announcement}, Chained (a :: rest) → a.notice = some n →
      deliveries (a :: rest) = n.stream ((a :: rest).map fun b => (b.record, b.now))
  | a, [], _, noticed => by
    simp [deliveries, delivery?, noticed, Notice.stream_cons]
  | a, b :: rest, ⟨next, _, chained⟩, noticed => by
    have moved : b.notice = some (n.told a.record a.now) := by simp [next, told, noticed]
    rw [deliveries_cons, deliveries_eq_stream chained moved, List.map_cons (a := a),
      Notice.stream_cons n]
    simp [delivery?, noticed]

/-- A chain that starts without a callback hands nothing. -/
theorem deliveries_eq_nil_of_unheard :
    ∀ {a : Announcement} {rest : List Announcement}, Chained (a :: rest) → a.notice = none →
      deliveries (a :: rest) = []
  | a, [], _, unheard => by simp [deliveries, delivery?, unheard]
  | a, b :: rest, ⟨next, _, chained⟩, unheard => by
    have still : b.notice = none := by simp [next, told, unheard]
    rw [deliveries_cons, deliveries_eq_nil_of_unheard chained still]
    simp [delivery?, unheard]

/-- Only the last announcement of a chain may be of a terminal record. -/
theorem Chained.running : ∀ {as : List Announcement}, Chained as →
    ∀ a ∈ as.dropLast, a.record.isFinished = false
  | [], _ => by simp
  | [_], _ => by simp
  | a :: b :: rest, ⟨_, running, chained⟩ => by
    intro x mem
    rw [List.dropLast_cons_cons, List.mem_cons] at mem
    rcases mem with rfl | later
    · exact running
    · exact Chained.running chained x later

/-- A chain grows by an announcement that meets the notice its last left, after a record that
is not terminal. -/
theorem Chained.snoc {a : Announcement} :
    ∀ {as : List Announcement}, Chained as →
      (∀ l ∈ as.getLast?, a.notice = l.told ∧ l.record.isFinished = false) → Chained (as ++ [a])
  | [], _, _ => trivial
  | [l], _, meets => by
    obtain ⟨next, running⟩ := meets l rfl
    exact ⟨next, running, trivial⟩
  | l :: m :: rest, ⟨next, running, chained⟩, meets =>
    ⟨next, running, Chained.snoc chained (by simpa using meets)⟩

end Announcement

/-- **What a cell entered along a run told its callback**: its announcements `as` are chained,
the first opens its job, the last left the cell as it stands, and a cell that announced nothing
has no callback. -/
structure Told (cell : Option (Record × Option Notice)) (as : List Announcement) : Prop where
  chained : Announcement.Chained as
  opens : ∀ a ∈ as.head?, a.Opens
  last : ∀ a ∈ as.getLast?, cell = some (a.record, a.told)
  quiet : as = [] → ∀ x ∈ cell, x.2 = none

namespace Told

/-- A cell that is not there has announced nothing. -/
theorem eq_nil {as : List Announcement} (told : Told none as) : as = [] := by
  cases last : as.getLast? with
  | none => exact List.getLast?_eq_none_iff.mp last
  | some a => cases told.last a last

theorem absent : Told none [] := ⟨trivial, by simp, by simp, by simp⟩

/-- A cell entered without a callback. -/
theorem unheard (r : Record) : Told (some (r, none)) [] := ⟨trivial, by simp, by simp, by simp⟩

/-- A cell entered with its opening announcement. -/
theorem entered {a : Announcement} (opens : a.Opens) : Told (some (a.record, a.told)) [a] :=
  ⟨trivial, by simpa using opens, by simp, by simp⟩

/-- **A cell at a record that is not terminal announces its next record** to the notice it
stands at. -/
theorem tell {r : Record} {n : Option Notice} {as : List Announcement} (told : Told (some (r, n)) as)
    (running : r.isFinished = false) (c : Nat) (r' : Record) (now : Int) :
    Told (some (r', n.map (·.told r' now))) (as ++ [⟨c, r', now, n⟩]) := by
  refine ⟨told.chained.snoc fun l mem => ?_, ?_, by simp [Announcement.told], by simp⟩
  · -- the cell stands at the last announcement
    have stands := told.last l mem
    simp only [Option.some.injEq, Prod.mk.injEq] at stands
    exact ⟨stands.2, stands.1 ▸ running⟩
  · cases as with
    | nil =>
      -- a cell that announced nothing has no callback to open
      have silent : n = none := told.quiet rfl (r, n) rfl
      intro a first m noticed
      simp only [List.nil_append, List.head?_cons, Option.mem_def, Option.some.injEq] at first
      subst first silent
      cases noticed
    | cons a rest => simpa using told.opens

end Told

namespace World

/-! ## Runs labelled with their announcements -/

/-- What a change of cell `c` by `t` announces: the record it gives the cell, to the notice of
the cell's callback, if the change fires. -/
def changeAnnounced (w : World) (c : Nat) (t : Job → Option (Job × Hook)) : List Announcement :=
  ((w.cells[c]?).bind fun x =>
    (t x.job).map fun fired => ⟨c, fired.2.record, w.now, x.keeper.notice?⟩).toList

/-- What starting a job announces: the first record of the job it enters, to the notice of the
callback it was given. -/
def startAnnounced (w : World) (v : Nat) (ref : String) (input : Value) (md : Option Metadata)
    (adapter : String) (cb : Option Callback) : List Announcement :=
  match ((startJob v ref input md adapter cb).run w).1 with
  | .ok (c, _) =>
    let r := ((startJob v ref input md adapter cb).run w).2.recordOf c
    [⟨c, r, w.now, w.startNotice v cb r.id⟩]
  | .error _ => []

/-- **The runs of an engine from `w₀`, labelled with their announcements**: the moves of jobs
that every call on an engine is made of, with steps between them that tell no one. A change of
a job announces the record it gives, starting a job announces the first record of the job it
enters, and nothing else announces anything. -/
inductive Announces (w₀ : World) : World → List Announcement → Prop where
  | start : Announces w₀ w₀ []
  | silent {w w' : World} {acc : List Announcement} :
      Announces w₀ w acc → w.Silent w' → Announces w₀ w' acc
  | changed {w : World} {acc : List Announcement} (c : Nat) {t : Job → Option (Job × Hook)} :
      Transition t → Announces w₀ w acc →
        Announces w₀ ((changeHere c t).run w).2 (acc ++ w.changeAnnounced c t)
  | started {w : World} {acc : List Announcement} (v : Nat) (ref : String) (input : Value)
      (md : Option Metadata) (adapter : String) (cb : Option Callback) : Announces w₀ w acc →
        Announces w₀ ((startJob v ref input md adapter cb).run w).2
          (acc ++ w.startAnnounced v ref input md adapter cb)
  | copied {w : World} {acc : List Announcement} (rec : Record) {keeper : Keeper} :
      keeper.venue? = none → Announces w₀ w acc → Announces w₀ ((newCopy rec keeper).run w).2 acc
  | deleted {w : World} {acc : List Announcement} (v : Nat) (id : String) :
      Announces w₀ w acc → Announces w₀ ((deleteJob v id).run w).2 acc

/-- **What the callbacks of the cells entered since `w₀` heard**, along a run labelled `acc`:
the outlet recorded exactly the deliveries of the announcements, and each new cell told its
callback its own story. -/
structure Heard (w₀ w : World) (acc : List Announcement) : Prop where
  outlet : w.outlet = w₀.outlet
  recorded : w.recorded = w₀.recorded ++ Announcement.deliveries acc
  entered : w₀.cells.size ≤ w.cells.size
  told : ∀ c, w₀.cells.size ≤ c → Told (w.hearing.cells[c]?) (acc.filter (·.cell == c))

namespace Heard

variable {w₀ w : World} {acc : List Announcement}

theorem start (w₀ : World) : Heard w₀ w₀ [] := by
  refine ⟨rfl, by simp, le_rfl, fun c beyond => ?_⟩
  have absent : w₀.hearing.cells[c]? = none := by simpa [World.hearing] using beyond
  rw [absent]
  exact Told.absent

/-- A world that records the same and whose cells are heard the same is heard the same. -/
theorem same (heard : Heard w₀ w acc) {w' : World} (outlet : w'.outlet = w.outlet)
    (recorded : w'.recorded = w.recorded) (cells : w'.hearing.cells = w.hearing.cells) :
    Heard w₀ w' acc := by
  have sized : w'.cells.size = w.cells.size := by
    simpa [World.hearing] using congrArg Array.size cells
  exact ⟨outlet.trans heard.outlet, recorded.trans heard.recorded, sized ▸ heard.entered,
    fun c beyond => cells ▸ heard.told c beyond⟩

theorem silent (heard : Heard w₀ w acc) {w' : World} (silent : w.Silent w') : Heard w₀ w' acc :=
  heard.same silent.outlet silent.recorded silent.heard

theorem deleted (heard : Heard w₀ w acc) (v : Nat) (id : String) :
    Heard w₀ ((deleteJob v id).run w).2 acc := by
  have same := hearing_deleteJob v id w
  exact heard.same (congrArg Hearing.outlet same) (congrArg Hearing.recorded same)
    (congrArg Hearing.cells same)

/-- **A change of a job keeps what callbacks heard**, with one more announcement if it
fires. -/
theorem changed (recording : w₀.outlet = .recording false) (heard : Heard w₀ w acc) (c : Nat)
    {t : Job → Option (Job × Hook)} (transition : Transition t) :
    Heard w₀ ((changeHere c t).run w).2 (acc ++ w.changeAnnounced c t) := by
  by_cases refused : ∀ cell, w.cells[c]? = some cell → t cell.job = none
  · have unlabelled : w.changeAnnounced c t = [] := by
      unfold changeAnnounced
      cases found : w.cells[c]? with
      | none => rfl
      | some cell => simp [refused cell found]
    rw [changeHere_run_refused refused, unlabelled, List.append_nil]
    exact heard
  · obtain ⟨cell, found, fired⟩ : ∃ cell, w.cells[c]? = some cell ∧ t cell.job ≠ none := by
      simpa using refused
    obtain ⟨⟨j, h⟩, fired⟩ := Option.ne_none_iff_exists'.mp fired
    have labelled : w.changeAnnounced c t = [⟨c, h.record, w.now, cell.keeper.notice?⟩] := by
      simp [changeAnnounced, found, fired]
    have told := hearing_changeHere (heard.outlet.trans recording) found fired
      (transition.announces _ _ _ fired)
    have stood : w.hearing.cells[c]? = some (cell.job.record, cell.keeper.notice?) := by
      simp [World.hearing, found, JobCell.heard]
    -- a change fires only on a job that is not finished
    have running : cell.job.record.isFinished = false := by
      cases finished : cell.job.record.isFinished
      · rfl
      · have := transition.refuses cell.job finished
        simp [fired] at this
    rw [labelled]
    refine ⟨?_, ?_, ?_, fun c' beyond => ?_⟩
    · rw [← heard.outlet]
      exact congrArg Hearing.outlet told
    · have recorded := congrArg Hearing.recorded told
      rw [Hearing.recorded_tell, stood] at recorded
      simp [World.hearing] at recorded
      simp [recorded, heard.recorded, Announcement.deliveries, Announcement.delivery?]
    · have sized := congrArg (·.cells.size) told
      simp only [Hearing.size_tell, World.hearing, Array.size_map] at sized
      exact sized ▸ heard.entered
    · rw [told, Hearing.cells_tell, List.filter_append]
      by_cases here : c = c'
      · subst here
        have before := heard.told c beyond
        rw [stood] at before
        simpa [stood] using before.tell running c h.record w.now
      · simpa [here] using heard.told c' beyond

/-- The notice a new job starts from is that of the callback it was given. -/
theorem opens_startNotice {r : Record} (pending : r.status = .pending) (long : r.id.length = 32)
    (w : World) (v : Nat) (cb : Option Callback) (c : Nat) (now : Int) :
    Announcement.Opens ⟨c, r, now, w.startNotice v cb r.id⟩ := by
  intro n given
  refine ⟨pending, long, ?_⟩
  unfold World.startNotice at given
  split at given
  · obtain ⟨cb, -, rfl⟩ := Option.mem_map.mp given
    exact ⟨cb, rfl⟩
  · cases given

/-- **Starting a job keeps what callbacks heard**, with the first record of the job it enters
announced. -/
theorem started (recording : w₀.outlet = .recording false) (heard : Heard w₀ w acc) (v : Nat)
    (ref : String) (input : Value) (md : Option Metadata) (adapter : String)
    (cb : Option Callback) :
    Heard w₀ ((startJob v ref input md adapter cb).run w).2
      (acc ++ w.startAnnounced v ref input md adapter cb) := by
  obtain ⟨entered, refused⟩ := run_of_triple
    (startJob_hearing w (heard.outlet.trans recording) v ref input md adapter cb)
  cases result : ((startJob v ref input md adapter cb).run w).1 with
  | error f =>
    have labelled : w.startAnnounced v ref input md adapter cb = [] := by
      simp [startAnnounced, result]
    rw [labelled, List.append_nil]
    have same := refused f result
    exact heard.same (congrArg Hearing.outlet same) (congrArg Hearing.recorded same)
      (congrArg Hearing.cells same)
  | ok made =>
    obtain ⟨c, s⟩ := made
    obtain ⟨r, pending, long, rfl, hearing⟩ := entered c s result
    have stands : ((startJob v ref input md adapter cb).run w).2.hearing.cells[w.cells.size]? =
        some (r, (w.startNotice v cb r.id).map (·.told r w.now)) := by
      rw [hearing, Hearing.cells_enter]
      simp [World.hearing]
    have labelled : w.startAnnounced v ref input md adapter cb =
        [⟨w.cells.size, r, w.now, w.startNotice v cb r.id⟩] := by
      simp [startAnnounced, result, recordOf_of_hearing stands]
    rw [labelled]
    refine ⟨?_, ?_, ?_, fun c' beyond => ?_⟩
    · rw [← heard.outlet]
      exact congrArg Hearing.outlet hearing
    · have recorded := congrArg Hearing.recorded hearing
      rw [Hearing.recorded_enter, World.hearing_recorded, World.hearing_recorded] at recorded
      simp [recorded, heard.recorded, Announcement.deliveries, Announcement.delivery?]
    · have sized := congrArg (·.cells.size) hearing
      simp only [Hearing.size_enter, World.size_hearing] at sized
      have grown := heard.entered
      omega
    · rw [hearing, Hearing.cells_enter, List.filter_append, World.size_hearing]
      by_cases last : c' = w.cells.size
      · -- the new cell announced nothing before its first record
        subst last
        have before := heard.told w.cells.size beyond
        rw [show w.hearing.cells[w.cells.size]? = none by simp [World.hearing]] at before
        simpa [before.eq_nil, Announcement.told] using
          Told.entered (opens_startNotice pending long w v cb _ w.now)
      · simpa [last, Ne.symm last] using heard.told c' beyond

/-- Copying a remote job enters a cell without a callback. -/
theorem copied (heard : Heard w₀ w acc) (rec : Record) {keeper : Keeper}
    (unkept : keeper.venue? = none) : Heard w₀ ((newCopy rec keeper).run w).2 acc := by
  have hearing := hearing_newCopy rec unkept w
  refine ⟨?_, ?_, ?_, fun c' beyond => ?_⟩
  · rw [← heard.outlet]
    exact congrArg Hearing.outlet hearing
  · rw [← heard.recorded]
    exact congrArg Hearing.recorded hearing
  · have sized := congrArg (·.cells.size) hearing
    simp only [World.hearing, Array.size_map, Array.size_push] at sized
    have grown := heard.entered
    omega
  · rw [hearing]
    simp only [Array.getElem?_push]
    split
    · next last =>
      have before := heard.told c' beyond
      rw [show w.hearing.cells[c']? = none by simp [World.hearing, last]] at before
      rw [before.eq_nil]
      exact Told.unheard _
    · exact heard.told c' beyond

end Heard

/-- **Every labelled run leaves the outlet and the callbacks as its announcements say**, with an
outlet that records what it is handed. -/
theorem Announces.heard {w₀ w : World} {acc : List Announcement}
    (recording : w₀.outlet = .recording false) (run : Announces w₀ w acc) : Heard w₀ w acc := by
  -- induction on the run, one step lemma per move
  induction run with
  | start => exact Heard.start w₀
  | silent _ silent heard => exact heard.silent silent
  | changed c transition _ heard => exact heard.changed recording c transition
  | started v ref input md adapter cb _ heard =>
    exact heard.started recording v ref input md adapter cb
  | copied rec unkept _ heard => exact heard.copied rec unkept
  | deleted v id _ heard => exact heard.deleted v id

end World

/-- **Every run that only its calls tell anyone is labelled with its announcements**: each call
is made of moves of jobs and of steps that tell no one. -/
theorem EngineCall.SilentRuns.announces {w₀ w : World} (run : EngineCall.SilentRuns w₀ w) :
    ∃ acc, World.Announces w₀ w acc := by
  refine run.invariant (I := fun w => ∃ acc, World.Announces w₀ w acc) ?_ ⟨[], .start⟩
  refine ⟨?_, ?_, ?_, ?_, ?_⟩
  · rintro w w' silent ⟨acc, ran⟩
    exact ⟨acc, .silent ran silent⟩
  · rintro c t transition - w ⟨acc, ran⟩
    exact ⟨_, .changed c transition ran⟩
  · rintro v ref input md adapter cb w ⟨acc, ran⟩
    exact ⟨_, .started v ref input md adapter cb ran⟩
  · rintro rec keeper unkept w ⟨acc, ran⟩
    exact ⟨acc, .copied rec unkept ran⟩
  · rintro v id w ⟨acc, ran⟩
    exact ⟨acc, .deleted v id ran⟩

/-! ## What the callback of a job is handed -/

/-- **What the callback of one job was handed**: the job's announcements `as`, in order, open
with a `PENDING` record under a 32-character id, to the notice `n` of a callback for that id;
the callback was handed the stream of the announced records from `n`; only the last record may
be terminal, and it is the job's record `current`; so only the last event may be a finish, and
no event id comes twice. -/
structure CallbackStream (n : Notice) (as : List Announcement) (current : Record) : Prop where
  opens : ∀ a ∈ as.head?, a.record.status = .pending ∧ a.record.id.length = 32 ∧
    ∃ cb : Callback, n = cb.notice a.record.id
  handed : Announcement.deliveries as = n.stream (as.map fun a => (a.record, a.now))
  running : ∀ a ∈ as.dropLast, a.record.isFinished = false
  current : ∀ a ∈ as.getLast?, a.record = current
  finishLast : ∀ d ∈ (Announcement.deliveries as).dropLast, d.event.type = updateEventType
  fresh : ((Announcement.deliveries as).map (·.event.id)).Nodup

/-- The story of a cell whose first announcement met a callback is that callback's stream. -/
theorem Told.callbackStream {w : World} {c : Nat} {as : List Announcement}
    (told : Told (w.hearing.cells[c]?) as) {a : Announcement} (first : a ∈ as.head?) {n : Notice}
    (noticed : n ∈ a.notice) : CallbackStream n as (w.recordOf c) := by
  obtain ⟨rest, rfl⟩ := List.head?_eq_some_iff.mp first
  have handed := Announcement.deliveries_eq_stream told.chained noticed
  have running := told.chained.running
  refine ⟨fun b same => ?_, handed, running, fun l last => ?_, ?_, ?_⟩
  · cases same
    exact told.opens a first n noticed
  · exact (World.recordOf_of_hearing (told.last l last)).symm
  · rw [handed]
    apply Notice.stream_updates_before_last
    intro x mem
    rw [← List.map_dropLast] at mem
    obtain ⟨b, inside, rfl⟩ := List.mem_map.mp mem
    exact running b inside
  · rw [handed]
    exact Notice.nodup_stream_id n _

/-- Jobs whose first records have distinct ids are never handed the same event id. -/
theorem Told.id_ne {w : World} {c c' : Nat} {as as' : List Announcement}
    (told : Told (w.hearing.cells[c]?) as) (told' : Told (w.hearing.cells[c']?) as')
    {a a' : Announcement} (first : a ∈ as.head?) (first' : a' ∈ as'.head?)
    (apart : a.record.id ≠ a'.record.id) {d d' : Delivery}
    (handed : d ∈ Announcement.deliveries as) (handed' : d' ∈ Announcement.deliveries as') :
    d.event.id ≠ d'.event.id := by
  obtain ⟨rest, rfl⟩ := List.head?_eq_some_iff.mp first
  obtain ⟨rest', rfl⟩ := List.head?_eq_some_iff.mp first'
  -- a job without a callback is handed nothing
  cases noticed : a.notice with
  | none => simp [Announcement.deliveries_eq_nil_of_unheard told.chained noticed] at handed
  | some n =>
    cases noticed' : a'.notice with
    | none => simp [Announcement.deliveries_eq_nil_of_unheard told'.chained noticed'] at handed'
    | some n' =>
      obtain ⟨-, long, cb, rfl⟩ := told.opens a first n noticed
      obtain ⟨-, long', cb', rfl⟩ := told'.opens a' first' n' noticed'
      rw [Announcement.deliveries_eq_stream told.chained noticed] at handed
      rw [Announcement.deliveries_eq_stream told'.chained noticed'] at handed'
      exact Notice.stream_id_ne (long.trans long'.symm) apart handed handed'

end JobEngine

