import JobEngine.Text.Blank

/-!
# Job statuses

A job moves through non-terminal statuses (`PENDING`, `STARTED` and the three paused ones) to
exactly one terminal status (`COMPLETE`, `FAILED`, `CANCELLED`, `TIMEOUT`, `REJECTED`).
Records that arrive from outside may name a status that is none of these; such a name is
kept as text, so that a record can be carried and reported faithfully, and is refused
wherever a transition needs a real status.

## Main Definitions

* `Status` — the ten statuses and the unknown names.
* `Status.ofText` — the status a name stands for, exactly as written.
* `Status.parse` — reading a status name typed by a person: blanks around it and the case
  of its letters are ignored.
-/

namespace JobEngine

/-- A job status, or the text of a name that is no status. -/
inductive Status where
  | pending
  | started
  | inputRequired
  | authRequired
  | paused
  | complete
  | failed
  | cancelled
  | timeout
  | rejected
  /-- A name that is no status; never the name of one of the ten. -/
  | unknown (text : String)
  deriving DecidableEq, Repr, Inhabited

namespace Status

/-- The ten statuses in lifecycle order. -/
def all : List Status :=
  [pending, started, inputRequired, authRequired, paused, complete, failed, cancelled,
   timeout, rejected]

/-- The name of a status as it is written on the wire. -/
def text : Status → String
  | pending => "PENDING"
  | started => "STARTED"
  | inputRequired => "INPUT_REQUIRED"
  | authRequired => "AUTH_REQUIRED"
  | paused => "PAUSED"
  | complete => "COMPLETE"
  | failed => "FAILED"
  | cancelled => "CANCELLED"
  | timeout => "TIMEOUT"
  | rejected => "REJECTED"
  | unknown t => t

/-- The status a name stands for; names are case-sensitive. -/
def ofText (t : String) : Status :=
  match all.find? (fun s => s.text == t) with
  | some s => s
  | none => unknown t

/-- Terminal statuses: no transition leaves them. -/
def isFinished : Status → Bool
  | complete | failed | cancelled | timeout | rejected => true
  | _ => false

/-- Statuses of a job waiting for something outside the venue; they are not terminal. -/
def isPaused : Status → Bool
  | inputRequired | authRequired | paused => true
  | _ => false

/-- Statuses whose record carries an error message. -/
def isFailure : Status → Bool
  | failed | rejected => true
  | _ => false

/-- Whether the status is one of the ten. -/
def isValid : Status → Bool
  | unknown _ => false
  | _ => true

/-- The upper case of a letter, for the letters whose upper case is an ASCII letter: the
ASCII lower-case letters, the dotless `ı` and the long `ſ`. Other characters are kept; none
of them can be part of a status name after upper-casing. -/
def upperForName (c : Char) : Char :=
  if 'a' ≤ c && c ≤ 'z' then Char.ofNat (c.toNat - 32)
  else if c.toNat == 0x131 then 'I'
  else if c.toNat == 0x17F then 'S'
  else c

/-- Reads a typed status name: surrounding blanks and letter case are ignored. -/
def parse (s : String) : Option Status :=
  match ofText (String.map upperForName (Text.trimBlank s)) with
  | unknown _ => none
  | st => some st

end Status

end JobEngine
