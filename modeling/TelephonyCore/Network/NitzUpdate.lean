import TelephonyCore.Codec.Asn1Utils

/-!
# `NitzUpdate`: the network time

A NITZ text holds the time and, after a semicolon, the boot time of its arrival. `ProcessTime`
remembers the time and the second it was processed in, and adds the delay only to the time that it
sets itself. `AutoTimeChange` adds `lastOffsetTime_`, which nothing has written. Boot times are in
nanoseconds, as the clock has them. The time zone is left out.
-/

namespace TelephonyCore.Network.NitzUpdate

open Codec

def MAX_UPDATE_TIME : Int := 5
def CST_YEAR : Int := 1900
def INT64_MAX : Int := 9223372036854775807

/-- `lastOffsetTime_`: no function assigns it. -/
def lastOffsetTime : Int := 0

structure NetworkTime where
  year : Int := 0
  month : Int := 0
  day : Int := 0
  hour : Int := 0
  minute : Int := 0
  second : Int := 0
  offset : Int := 0
  dst : Int := 0

/-- What the parser and the clock take from outside: `readInt` is `>>` of a stream. -/
structure Library where
  splitStr : StdString → StdString → List StdString
  strToInt : StdString → Option Int
  readInt : StdString → Int
  timegm : NetworkTime → Int

structure State where
  lastSystemTime : Nat := 0
  lastNetworkTime : Int := 0
  nitzRecvTime : Int := 0

/-- `IsAutoTime` and `GetRealTimeMs`. -/
structure Settings where
  autoTime : Bool
  ntpTime : Option Int

variable (lib : Library)

/-- `StrToInt` leaves the field alone when it fails. -/
def Library.toInt (text : StdString) (field : Int) : Int := (lib.strToInt text).getD field

def nitzTimeParse (text : StdString) (time : NetworkTime) : Option NetworkTime := do
  let (sep, flag) ← if text.contains 43 then some (ascii "+", 1)
    else if text.contains 45 then some (ascii "-", -1) else none
  let [clock, zone] := lib.splitStr text sep | none
  let [hour, minute, second] := lib.splitStr clock (ascii ":") | none
  return { time with
    offset := lib.toInt zone time.offset * flag
    hour := lib.toInt hour time.hour
    minute := lib.toInt minute time.minute
    second := lib.toInt second time.second }

/-- The part of `NitzParse` before the semicolon. -/
def nitzInfoParse (nitzInfo : StdString) : Option NetworkTime := do
  let dateSubs :: timeSubs :: dstSubs :: _ := lib.splitStr nitzInfo (ascii ",") | none
  let [year, month, day] := lib.splitStr dateSubs (ascii "/") | none
  let year ← if year.length = 2 then some (ascii "20" ++ year)
    else if year.length = 4 then some year else none
  let time ← nitzTimeParse lib timeSubs
    { year := lib.toInt year 0, month := lib.toInt month 0, day := lib.toInt day 0 }
  return { time with dst := lib.toInt dstSubs time.dst }

/-- The time, if the text is accepted, and `nitzRecvTime_`. -/
def nitzParse (nitzStr : StdString) (nitzRecvTime : Int) : Option NetworkTime × Int :=
  match lib.splitStr nitzStr (ascii ";") with
  | [nitzInfo, recv] => (nitzInfoParse lib nitzInfo, lib.readInt recv)
  | _ => (none, nitzRecvTime)

/-- The argument of `SetTime`, if it is called. -/
def saveTime (settings : Settings) (networkTime offset : Int) : Option Int :=
  if settings.ntpTime.getD 0 = 0 then some (networkTime * 1000 + offset) else none

def processTime (settings : Settings) (currentTime : Nat) (time : NetworkTime) (s : State) :
    State × Option Int :=
  if time.year < CST_YEAR ∨ time.month < 1 then (s, none)
  else
    let offset := ((currentTime : Int) - s.nitzRecvTime).tdiv 1000000
    if offset < 0 ∨ INT64_MAX ≤ offset then (s, none)
    else
      ({ s with lastNetworkTime := lib.timegm time, lastSystemTime := currentTime / 1000000000 },
        if settings.autoTime then saveTime settings (lib.timegm time) offset else none)

def processNitzUpdate (settings : Settings) (now : Nat) (nitzStr : StdString) (s : State) :
    State × Option Int :=
  if nitzStr = [] ∨ ((now / 1000000 / 1000 : Nat) : Int) - s.lastSystemTime < MAX_UPDATE_TIME then
    (s, none)
  else
    let (time, recv) := nitzParse lib nitzStr s.nitzRecvTime
    let s := { s with nitzRecvTime := recv }
    match time with
    | none => (s, none)
    | some time => processTime lib settings now time s

def autoTimeChange (settings : Settings) (now : Nat) (s : State) : Option Int :=
  let time := now / 1000000 / 1000
  if settings.autoTime = false ∨ s.lastNetworkTime = 0 ∨ s.lastSystemTime = 0 ∨
      time < s.lastSystemTime then
    none
  else saveTime settings (s.lastNetworkTime + (time - s.lastSystemTime)) lastOffsetTime

/-- What the two functions ask of a text that is processed at `p` and arrived at `r`. -/
structure Accepted (s : State) (nitzStr : StdString) (time : NetworkTime) (r : Int) (p : Nat) :
    Prop where
  text : nitzStr ≠ []
  due : MAX_UPDATE_TIME ≤ ((p / 1000000 / 1000 : Nat) : Int) - s.lastSystemTime
  parsed : nitzParse lib nitzStr s.nitzRecvTime = (some time, r)
  date : CST_YEAR ≤ time.year ∧ 1 ≤ time.month
  order : r ≤ p
  range : (p : Int) - r ≤ INT64_MAX

variable {lib} {s : State} {nitzStr : StdString} {time : NetworkTime} {r : Int} {p : Nat}

theorem Accepted.state_eq (h : Accepted lib s nitzStr time r p) (settings : Settings) :
    (processNitzUpdate lib settings p nitzStr s).1 = ⟨p / 1000000000, lib.timegm time, r⟩ := by
  have ho : ¬(((p : Int) - r).tdiv 1000000 < 0 ∨ INT64_MAX ≤ ((p : Int) - r).tdiv 1000000) := by
    have := h.order
    have := h.range
    rw [Int.tdiv_eq_ediv_of_nonneg (by omega)]
    unfold INT64_MAX at *
    omega
  have hdt : ¬(time.year < CST_YEAR ∨ time.month < 1) := by
    have := h.date
    omega
  have hdu : ¬(nitzStr = [] ∨
      ((p / 1000000 / 1000 : Nat) : Int) - s.lastSystemTime < MAX_UPDATE_TIME) := by
    have := h.due
    simp only [h.text, false_or]
    omega
  simp only [processNitzUpdate, if_neg hdu, h.parsed, processTime, if_neg hdt, if_neg ho]

/-- A replay at `q` is within two seconds of the time that has passed since the arrival exactly if
the second of the processing, with the part of a second that `q` drops, is. -/
theorem network_time_carried_iff (h : Accepted lib s nitzStr time r p) (atP atQ : Settings)
    (hauto : atQ.autoTime = true) (hntp : atQ.ntpTime.getD 0 = 0) {q : Nat} (hq : p ≤ q) :
    (∃ v, autoTimeChange atQ q (processNitzUpdate lib atP p nitzStr s).1 = some v ∧
        |v * 1000000 - (lib.timegm time * 1000000000 + (q - r))| ≤ 2000000000) ↔
      lib.timegm time ≠ 0 ∧
        (p / 1000000000 * 1000000000 + q % 1000000000 : Nat) ≤ r + 2000000000 := by
  have hdu := h.due
  have hr := h.order
  have hp : p / 1000000000 ≠ 0 := by
    unfold MAX_UPDATE_TIME at hdu
    omega
  have hlt : ¬q / 1000000 / 1000 < p / 1000000000 := by omega
  rw [h.state_eq]
  by_cases hT : lib.timegm time = 0
  · simp [autoTimeChange, hT]
  · simp only [autoTimeChange, hauto, hT, hp, hlt, Bool.true_eq_false, or_self, if_false, saveTime,
      hntp, if_true, lastOffsetTime, Option.some.injEq, exists_eq_left']
    rw [abs_le]
    omega

def decimal (text : StdString) : Int := text.foldl (fun n digit => n * 10 + (digit.toNat - 48)) 0

/-- `timegm` is right in January 1970. -/
def sampleLibrary : Library where
  splitStr text sep := text.splitOnP (sep.contains ·)
  strToInt text := some (decimal text)
  readInt := decimal
  timegm time := (time.day - 1) * 86400 + time.hour * 3600 + time.minute * 60 + time.second

def sampleText : StdString := ascii "1970/01/02,00:00:00+00,0;6000000000"

def sampleTime : NetworkTime := { year := 1970, month := 1, day := 2 }

/-- Half a second on the way. -/
theorem network_time_carried_sample :
    ∃ v, autoTimeChange ⟨true, none⟩ 8700000000
        (processNitzUpdate sampleLibrary ⟨false, none⟩ 6500000000 sampleText {}).1 = some v ∧
      |v * 1000000 - (sampleLibrary.timegm sampleTime * 1000000000 +
        ((8700000000 : Nat) - 6000000000))| ≤ 2000000000 :=
  (network_time_carried_iff
    ⟨by decide, by decide, by rfl, by decide, by decide, by decide⟩
    ⟨false, none⟩ ⟨true, none⟩ rfl rfl (by decide)).2 (by decide)

/-- Four seconds on the way: the time set at once is right, the time replayed has lost them. -/
theorem network_time_lags :
    let done := processNitzUpdate sampleLibrary ⟨true, none⟩ 10000000000 sampleText {}
    done.2 = some 86404000 ∧ autoTimeChange ⟨true, none⟩ 10000000000 done.1 = some 86400000 := by
  decide

end TelephonyCore.Network.NitzUpdate
