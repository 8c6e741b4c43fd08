namespace FlowTyping

/-- A number filled up with zeros to a width. -/
def padded (width n : Nat) : String :=
  let digits := Nat.toDigits 10 n
  String.ofList (List.replicate (width - digits.length) '0' ++ digits)

structure Day where
  year : Nat
  month : Nat
  day : Nat
  deriving DecidableEq, Repr

namespace Day

def shown (d : Day) : String :=
  padded 4 d.year ++ "-" ++ padded 2 d.month ++ "-" ++ padded 2 d.day

/-- The parts of a day, as messages list them. -/
def parts (d : Day) : List String := [toString d.year, toString d.month, toString d.day]

def quoted (d : Day) : String := "datetime.date(" ++ ", ".intercalate d.parts ++ ")"

end Day

/-- A moment of a day, with how far its clock is ahead of universal time if that is known. -/
structure Moment where
  day : Day
  hour : Nat
  minute : Nat
  second : Nat
  microsecond : Nat
  /-- In minutes, less than a day either way. -/
  offset : Option Int
  deriving DecidableEq, Repr

namespace Moment

def shownOffset (offset : Int) : String :=
  (if offset < 0 then "-" else "+") ++ padded 2 (offset.natAbs / 60) ++ ":" ++
    padded 2 (offset.natAbs % 60)

def shown (m : Moment) : String :=
  m.day.shown ++ " " ++ padded 2 m.hour ++ ":" ++ padded 2 m.minute ++ ":" ++ padded 2 m.second ++
    (if m.microsecond = 0 then "" else "." ++ padded 6 m.microsecond) ++
    (match m.offset with
      | some offset => shownOffset offset
      | none => "")

/-- The clock of an offset, as messages quote it: whole days, and seconds that are never
negative. -/
def quotedOffset (offset : Int) : String :=
  if offset = 0 then "datetime.timezone.utc"
  else
    let days := if offset < 0 then ["days=-1"] else []
    let seconds := ["seconds=" ++ toString (60 * offset % 86400)]
    "datetime.timezone(datetime.timedelta(" ++ ", ".intercalate (days ++ seconds) ++ "))"

/-- Seconds are left out where they and all behind them are zero. -/
def quoted (m : Moment) : String :=
  let seconds := if m.second = 0 ∧ m.microsecond = 0 then [] else [toString m.second]
  let fraction := if m.microsecond = 0 then [] else [toString m.microsecond]
  let clock := m.offset.toList.map (fun offset => "tzinfo=" ++ quotedOffset offset)
  "datetime.datetime(" ++ ", ".intercalate (m.day.parts ++ [toString m.hour, toString m.minute] ++
    seconds ++ fraction ++ clock) ++ ")"

end Moment

end FlowTyping
