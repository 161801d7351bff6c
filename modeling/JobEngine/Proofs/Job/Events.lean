import JobEngine.Proofs.Job.IdText
import JobEngine.Job.Event

/-!
# Event ids are never reused

An event builder numbers the events of one job from where it stands: the id of each event is
the job's id, the event's number and the record's status, joined by dashes. This module proves
that the ids one builder gives out, over any sequence of calls, are pairwise distinct, and that
two builders whose job ids are distinct texts of the same length never give out the same id.
Job ids are always of one length: the 32 hexadecimal digits of 16 bytes.

The argument rests on the number being written in decimal: a decimal numeral holds no dash, so
the first dash after the job id ends the number, whatever the status text holds.

## Main Definitions

* `eventId` — the id of an event: job id, number and status.
* `EventNumbering.events` — the events a builder makes for a sequence of calls.

## Main Statements

* `eventId_number_inj` — an event id determines its number, given the job id.
* `eventId_ne_of_jobId_ne` — job ids of one length that differ give ids that differ.
* `EventNumbering.nodup_events_id` — one builder never repeats an id.
* `IdGenerator.length_text_next` — a minted job id is 32 characters long.
-/

namespace JobEngine

/-- The id of event number `seq` of job `jobId`, for a record with status `st`. -/
def eventId (jobId : String) (seq : Nat) (st : Status) : String :=
  jobId ++ "-" ++ toString seq ++ "-" ++ st.text

/-- A decimal numeral holds no dash. -/
theorem dash_not_mem_toDigits (n : Nat) : '-' ∉ Nat.toDigits 10 n := by
  intro mem
  simpa using Nat.isDigit_of_mem_toDigits (by decide) (by decide) mem

/-- Two texts that both continue past their first separator `c` agree up to it. -/
theorem eq_of_append_cons_eq {c : Char} :
    ∀ {xs ys as bs : List Char}, c ∉ xs → c ∉ ys → xs ++ c :: as = ys ++ c :: bs → xs = ys
  | [], [], _, _, _, _, _ => rfl
  | [], y :: _, _, _, _, outY, same => by
    simp only [List.nil_append, List.cons_append, List.cons.injEq] at same
    exact absurd (same.1 ▸ List.mem_cons_self) outY
  | x :: _, [], _, _, outX, _, same => by
    simp only [List.nil_append, List.cons_append, List.cons.injEq] at same
    exact absurd (same.1 ▸ List.mem_cons_self) outX
  | x :: xs, y :: ys, _, _, outX, outY, same => by
    simp only [List.cons_append, List.cons.injEq] at same
    rw [same.1, eq_of_append_cons_eq (fun mem => outX (List.mem_cons_of_mem x mem))
      (fun mem => outY (List.mem_cons_of_mem y mem)) same.2]

theorem toList_eventId (jobId : String) (seq : Nat) (st : Status) :
    (eventId jobId seq st).toList =
      jobId.toList ++ '-' :: (Nat.toDigits 10 seq ++ '-' :: st.text.toList) := by
  simp [eventId, String.toList_append]

/-- **An event id determines its number**, once the job id is known. -/
theorem eventId_number_inj {jobId : String} {m n : Nat} {st st' : Status}
    (same : eventId jobId m st = eventId jobId n st') : m = n := by
  have lists := congrArg String.toList same
  rw [toList_eventId, toList_eventId] at lists
  have digits := eq_of_append_cons_eq (dash_not_mem_toDigits m) (dash_not_mem_toDigits n)
    (List.cons.inj (List.append_cancel_left lists)).2
  calc m = Nat.ofDigitChars 10 (Nat.toDigits 10 m) 0 := Nat.ofDigitChars_ten_toDigits.symm
    _ = Nat.ofDigitChars 10 (Nat.toDigits 10 n) 0 := by rw [digits]
    _ = n := Nat.ofDigitChars_ten_toDigits

/-- **Job ids of one length that differ give event ids that differ**, whatever the numbers and
statuses. -/
theorem eventId_ne_of_jobId_ne {jobId jobId' : String} (sameLength : jobId.length = jobId'.length)
    (apart : jobId ≠ jobId') (m n : Nat) (st st' : Status) :
    eventId jobId m st ≠ eventId jobId' n st' := by
  intro same
  have lists := congrArg String.toList same
  rw [toList_eventId, toList_eventId] at lists
  have heads := congrArg (List.take jobId.length) lists
  rw [List.take_left' String.length_toList, sameLength,
    List.take_left' String.length_toList] at heads
  exact apart (String.toList_inj.mp heads)

namespace EventNumbering

@[simp] theorem build_id (type : String) (r : Record) (now : Int) (b : EventNumbering) :
    (b.build type r now).1.id = eventId b.jobId (b.seq + 1) r.status := rfl

@[simp] theorem build_seq (type : String) (r : Record) (now : Int) (b : EventNumbering) :
    (b.build type r now).2.seq = b.seq + 1 := rfl

@[simp] theorem build_jobId (type : String) (r : Record) (now : Int) (b : EventNumbering) :
    (b.build type r now).2.jobId = b.jobId := rfl

/-- The events a builder makes for a sequence of calls, each naming the event type, the record
and the clock reading; `ForRecord` is the call that names the record's own event type. -/
def events (b : EventNumbering) : List (String × Record × Int) → List CloudEvent
  | [] => []
  | (type, r, now) :: rest => (b.build type r now).1 :: (b.build type r now).2.events rest

/-- The ids of a sequence of events: the job id, the numbers from the builder's next one on, and
each record's status. -/
theorem events_id (b : EventNumbering) (calls : List (String × Record × Int)) :
    (b.events calls).map (·.id) =
      (calls.zipIdx (b.seq + 1)).map fun x => eventId b.jobId x.2 x.1.2.1.status := by
  -- induction on the calls, the builder moving one number on per call
  induction calls generalizing b with
  | nil => rfl
  | cons call rest ih =>
    obtain ⟨type, r, now⟩ := call
    simp only [events, List.map_cons, build_id, ih, build_seq, build_jobId, List.zipIdx_cons]

/-- Every id a builder gives out carries a number past the one it stood at. -/
theorem mem_events_id {b : EventNumbering} {calls : List (String × Record × Int)} {x : String}
    (mem : x ∈ (b.events calls).map (·.id)) : ∃ k st, b.seq < k ∧ x = eventId b.jobId k st := by
  induction calls generalizing b with
  | nil => cases mem
  | cons call rest ih =>
    obtain ⟨type, r, now⟩ := call
    simp only [events, List.map_cons, List.mem_cons] at mem
    rcases mem with first | later
    · exact ⟨b.seq + 1, r.status, by omega, first⟩
    · obtain ⟨k, st, above, rfl⟩ := ih later
      exact ⟨k, st, by simp only [build_seq] at above; omega, rfl⟩

/-- **One builder never repeats an event id**, over any sequence of calls. -/
theorem nodup_events_id (b : EventNumbering) (calls : List (String × Record × Int)) :
    ((b.events calls).map (·.id)).Nodup := by
  induction calls generalizing b with
  | nil => exact List.nodup_nil
  | cons call rest ih =>
    obtain ⟨type, r, now⟩ := call
    simp only [events, List.map_cons]
    refine List.nodup_cons.mpr ⟨fun mem => ?_, ih _⟩
    -- every later id carries a later number than the first
    obtain ⟨k, st, above, same⟩ := mem_events_id mem
    simp only [build_seq, build_id, build_jobId] at above same
    have := eventId_number_inj same
    omega

end EventNumbering

namespace Hex

/-- A byte string is written with two hexadecimal digits per byte. -/
theorem length_encode (bs : List UInt8) : (Hex.encode bs).length = 2 * bs.length := by
  rw [← String.length_toList, toList_encode]
  induction bs with
  | nil => rfl
  | cons b bs ih =>
    simp only [List.flatMap_cons, List.length_append, ih, List.length_cons, List.length_nil]
    omega

end Hex

namespace IdGenerator

/-- Every id a generator mints is 16 bytes long. -/
theorem length_bytes_next {g : IdGenerator} {ms : Int} {id : JobId} (ok : (g.next ms).1 = .ok id) :
    id.bytes.length = 16 := by
  simp only [next] at ok
  split at ok
  · next tail drawn =>
    cases ok
    simp [take8_length drawn]
  · cases ok

/-- **A minted job id is 32 characters long**: two hexadecimal digits per byte. -/
theorem length_text_next {g : IdGenerator} {ms : Int} {id : JobId} (ok : (g.next ms).1 = .ok id) :
    id.text.length = 32 := by
  rw [JobId.text, Hex.length_encode, length_bytes_next ok]

end IdGenerator

end JobEngine
