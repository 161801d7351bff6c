import JobEngine.Clock.Civil
import JobEngine.Text.Quoted

/-!
# Calendar timestamps

A **timestamp** is a wall clock reading — date, time of day and nanoseconds — together with
the zone it is read in: UTC, the local zone (which reads as UTC, and which a written offset of
zero names), or a zone known only by its offset.

Timestamps are read from text by **layouts**, sequences of fields and literal characters.
Each field takes its digits from the front of the text:

* the year takes exactly four digits; month, day, hour, minute and second take one or two;
* a fraction of a second is a `.` or `,` followed by digits, of which the first nine count;
  it may be left out;
* a zone is `Z`, or a sign and `hh:mm` with at most 24 hours and 60 minutes;
* a space in a layout matches one or more spaces.

Nothing may follow the last field. Months run from 1 to 12, days must exist in their month,
hours stay below 24, and minutes and seconds below 60.

A timestamp is written three ways: as JSON writes it (RFC 3339 with the fraction trimmed, `Z`
for a zero offset), which refuses offsets of 24 hours or more; as displayed
(`2001-12-14 21:59:43.1 -0500 -0500`); and as a literal (`time.Date(…, time.UTC)`).

## Main Definitions

* `Clock.Zone`, `Clock.Stamp` — zones and timestamps.
* `Clock.Stamp.parse?` — reads a timestamp by a layout.
* `Clock.Stamp.ofYaml?` — a timestamp in one of the forms YAML accepts.
* `Clock.Stamp.jsonText`, `Clock.Stamp.display`, `Clock.Stamp.literal` — its text forms.
-/

namespace JobEngine.Clock

/-- The zone a timestamp is read in. -/
inductive Zone where
  /-- Coordinated universal time: written `Z`, or no zone written. -/
  | utc
  /-- The local zone, which reads as UTC; a written offset of zero names it. -/
  | localUtc
  /-- A zone known only by its offset east of UTC, in seconds. -/
  | fixed (offset : Int)
  deriving BEq, Inhabited

namespace Zone

/-- The offset of a zone east of UTC, in seconds. -/
def offset : Zone → Int
  | .fixed o => o
  | _ => 0

end Zone

/-- A wall clock reading in a zone. -/
structure Stamp where
  year : Nat
  month : Nat
  day : Nat
  hour : Nat := 0
  minute : Nat := 0
  second : Nat := 0
  nanos : Nat := 0
  zone : Zone := .utc
  deriving BEq, Inhabited

/-- Whether a year of the proleptic Gregorian calendar is a leap year. -/
def isLeapYear (year : Nat) : Bool :=
  year % 4 == 0 && (year % 100 != 0 || year % 400 == 0)

/-- The number of days of a month of a year. -/
def daysInMonth (month year : Nat) : Nat :=
  if month == 2 then (if isLeapYear year then 29 else 28)
  else if [4, 6, 9, 11].contains month then 30 else 31

/-- The English names of the months. -/
def monthNames : List String :=
  ["January", "February", "March", "April", "May", "June", "July", "August", "September",
   "October", "November", "December"]

/-- The number of days from 1970-01-01 to a date of the proleptic Gregorian calendar. -/
def daysOfCivil (year : Int) (month day : Nat) : Int :=
  let y := if month ≤ 2 then year - 1 else year
  let era := (if y ≥ 0 then y else y - 399) / 400
  let yoe := (y - era * 400).toNat
  let mp := if month > 2 then month - 3 else month + 9
  let doy := (153 * mp + 2) / 5 + day - 1
  let doe := yoe * 365 + yoe / 4 - yoe / 100 + doy
  era * 146097 + (doe : Int) - 719468

/-- One element of a layout. -/
inductive Field where
  | year
  | month
  | day
  | hour
  | minute
  | second
  /-- An optional fraction of a second. -/
  | fraction
  /-- `Z` or a signed `hh:mm` offset. -/
  | zone
  /-- A character that must be there; a space matches a run of spaces. -/
  | literal (c : Char)

/-- The fields read so far. -/
structure Reading where
  year : Nat := 0
  month : Nat := 1
  day : Nat := 1
  hour : Nat := 0
  minute : Nat := 0
  second : Nat := 0
  nanos : Nat := 0
  zone : Zone := .utc

/-- Whether a character is an ASCII digit. -/
def isDigit (c : Char) : Bool := '0' ≤ c && c ≤ '9'

/-- The value of an ASCII digit. -/
def digitValue (c : Char) : Nat := c.toNat - '0'.toNat

/-- Takes one or two digits. -/
def shortNumber : List Char → Option (Nat × List Char)
  | a :: b :: rest =>
    if isDigit a && isDigit b then some (digitValue a * 10 + digitValue b, rest)
    else if isDigit a then some (digitValue a, b :: rest)
    else none
  | [a] => if isDigit a then some (digitValue a, []) else none
  | [] => none

/-- Takes exactly `n` digits. -/
def fixedNumber (n : Nat) (s : List Char) : Option (Nat × List Char) :=
  let ds := s.take n
  if ds.length == n && ds.all isDigit then
    some (ds.foldl (fun a c => a * 10 + digitValue c) 0, s.drop n)
  else none

/-- The nanoseconds of the digits of a fraction: the first nine count. -/
def nanosOfDigits (ds : List Char) : Nat :=
  let kept := ds.take 9
  kept.foldl (fun a c => a * 10 + digitValue c) 0 * Nat.pow 10 (9 - kept.length)

/-- Reads one field into a reading, returning the text after it. -/
def Field.read (r : Reading) (s : List Char) : Field → Option (Reading × List Char)
  | .year => do
    let (y, rest) ← fixedNumber 4 s
    some ({ r with year := y }, rest)
  | .month => do
    let (m, rest) ← shortNumber s
    if m < 1 || m > 12 then none
    some ({ r with month := m }, rest)
  | .day => do
    let (d, rest) ← shortNumber s
    some ({ r with day := d }, rest)
  | .hour => do
    let (h, rest) ← shortNumber s
    if h ≥ 24 then none
    some ({ r with hour := h }, rest)
  | .minute => do
    let (m, rest) ← shortNumber s
    if m ≥ 60 then none
    some ({ r with minute := m }, rest)
  | .second => do
    let (sec, rest) ← shortNumber s
    if sec ≥ 60 then none
    some ({ r with second := sec }, rest)
  | .fraction =>
    match s with
    | sep :: d :: rest =>
      if (sep == '.' || sep == ',') && isDigit d then
        let ds := (d :: rest).takeWhile isDigit
        some ({ r with nanos := nanosOfDigits ds }, (d :: rest).drop ds.length)
      else some (r, s)
    | _ => some (r, s)
  | .zone =>
    match s with
    | 'Z' :: rest => some ({ r with zone := .utc }, rest)
    | sign :: h1 :: h2 :: ':' :: m1 :: m2 :: rest => do
      let (h, _) ← fixedNumber 2 [h1, h2]
      let (m, _) ← fixedNumber 2 [m1, m2]
      if h > 24 || m > 60 then none
      let size : Int := (h * 3600 + m * 60 : Nat)
      let offset ← if sign == '+' then some size else if sign == '-' then some (-size) else none
      some ({ r with zone := if offset == 0 then .localUtc else .fixed offset }, rest)
    | _ => none
  | .literal ' ' =>
    match s with
    | c :: _ => if c == ' ' then some (r, s.dropWhile (· == ' ')) else none
    | [] => some (r, [])
  | .literal c =>
    match s with
    | d :: rest => if c == d then some (r, rest) else none
    | [] => none

/-- Reads the fields of a layout in order. -/
def readFields (r : Reading) (s : List Char) : List Field → Option (Reading × List Char)
  | [] => some (r, s)
  | f :: rest => do
    let (r, s) ← f.read r s
    readFields r s rest

namespace Stamp

/-- Reads a whole text by a layout: every field in order, nothing after them, and a day
that exists in its month. -/
def parse? (layout : List Field) (text : String) : Option Stamp := do
  let (r, rest) ← readFields {} text.toList layout
  if !rest.isEmpty then none
  if r.day < 1 || r.day > daysInMonth r.month r.year then none
  some { year := r.year, month := r.month, day := r.day, hour := r.hour, minute := r.minute,
         second := r.second, nanos := r.nanos, zone := r.zone }

/-- A date and a time with a fraction and a zone, joined by `sep`. -/
def isoLayout (sep : Char) : List Field :=
  [.year, .literal '-', .month, .literal '-', .day, .literal sep, .hour, .literal ':', .minute,
   .literal ':', .second, .fraction, .zone]

/-- A date and a time with a fraction, joined by spaces, in UTC. -/
def spacedLayout : List Field :=
  [.year, .literal '-', .month, .literal '-', .day, .literal ' ', .hour, .literal ':', .minute,
   .literal ':', .second, .fraction]

/-- A date alone, at midnight UTC. -/
def dateLayout : List Field := [.year, .literal '-', .month, .literal '-', .day]

/-- A timestamp in one of the forms YAML accepts: the text starts with a four-digit year and
`-`, and reads whole by the first layout that fits of: date `T` time zone, date `t` time
zone, date and time separated by spaces, and date alone. -/
def ofYaml? (text : String) : Option Stamp :=
  let cs := text.toList
  let lead := cs.takeWhile isDigit
  if lead.length != 4 || (cs.drop 4).head? != some '-' then none
  else
    [isoLayout 'T', isoLayout 't', spacedLayout, dateLayout].firstM fun layout =>
      parse? layout text

/-- The seconds since 1970-01-01T00:00:00Z of the instant a timestamp stands for. -/
def unixSeconds (t : Stamp) : Int :=
  daysOfCivil t.year t.month t.day * 86400 + (t.hour * 3600 + t.minute * 60 + t.second : Nat) -
    t.zone.offset

/-- The date and time of day, `2006-01-02` and `15:04:05` joined by `sep`, with the fraction
of a second trimmed. -/
def clockText (t : Stamp) (sep : String) : String :=
  pad 4 t.year ++ "-" ++ pad 2 t.month ++ "-" ++ pad 2 t.day ++ sep ++ pad 2 t.hour ++ ":" ++
    pad 2 t.minute ++ ":" ++ pad 2 t.second ++ fraction t.nanos

/-- An offset in seconds as a sign and hours and minutes, with `colon` between them. -/
def offsetText (offset : Int) (colon : Bool) : String :=
  let minutes := offset.natAbs / 60
  (if offset < 0 then "-" else "+") ++ pad 2 (minutes / 60) ++ (if colon then ":" else "") ++
    pad 2 (minutes % 60)

/-- The text JSON writes for a timestamp: RFC 3339 with the fraction trimmed, and `Z` for a
zero offset. An offset of 24 hours or more, or a year past 9999, has no such text. -/
def jsonText (t : Stamp) : Except String String :=
  let offset := t.zone.offset
  if t.year > 9999 then .error "year outside of range [0,9999]"
  else if offset.natAbs / 3600 ≥ 24 then .error "timezone hour outside of range [0,23]"
  else .ok (t.clockText "T" ++ (if offset == 0 then "Z" else offsetText offset true))

/-- The displayed form: `2006-01-02 15:04:05.999999999 -0700 MST`, where the zone's name is
`UTC` for UTC and the local zone and the numeric offset again for a zone without a name. -/
def display (t : Stamp) : String :=
  let name := match t.zone with
    | .fixed o => offsetText o false
    | _ => "UTC"
  t.clockText " " ++ " " ++ offsetText t.zone.offset false ++ " " ++ name

/-- The literal form: `time.Date(2001, time.December, 14, 0, 0, 0, 0, time.UTC)`, with
`time.Local` for the local zone and `time.Location("")` for a zone without a name. -/
def literal (t : Stamp) : String :=
  let zoneText := match t.zone with
    | .utc => "time.UTC"
    | .localUtc => "time.Local"
    | .fixed _ => "time.Location(\"\")"
  "time.Date(" ++ toString t.year ++ ", time." ++ monthNames.getD (t.month - 1) "" ++ ", " ++
    toString t.day ++ ", " ++ toString t.hour ++ ", " ++ toString t.minute ++ ", " ++
    toString t.second ++ ", " ++ toString t.nanos ++ ", " ++ zoneText ++ ")"

/-- Whether two timestamps are the same map key: the same instant read in UTC, or the same
instant read in the local zone. A zone known only by its offset is made anew for each
timestamp read, so such timestamps are never the same key. -/
def sameKey (a b : Stamp) : Bool :=
  a.unixSeconds == b.unixSeconds && a.nanos == b.nanos &&
    match a.zone, b.zone with
    | .utc, .utc => true
    | .localUtc, .localUtc => true
    | _, _ => false

end Stamp

end JobEngine.Clock
