import FileSieve.Time.Date
import FileSieve.Text.Basic

namespace FileSieve

structure Instant where
  seconds : Int
  nanos : Nat
  deriving DecidableEq, Repr

namespace Instant

def ofSeconds (seconds : Int) : Instant := ⟨seconds, 0⟩

def compare (a b : Instant) : Ordering :=
  (Ord.compare a.seconds b.seconds).then (Ord.compare a.nanos b.nanos)

def isBefore (a b : Instant) : Bool := a.compare b == .lt

def minSeconds : Int := 86400 * Date.toDay ⟨Date.minYear, 1, 1⟩

def maxSeconds : Int := 86400 * Date.toDay ⟨Date.maxYear, 12, 31⟩ + 86399

def isLeap (instant : Instant) : Bool := 1000000000 ≤ instant.nanos

/-- A leap second is left towards the past into the second after it, which has the same number of
seconds in front of it, and towards the future into the second before. -/
def add (instant : Instant) (seconds : Int) : Instant :=
  if seconds = 0 ∨ !instant.isLeap then ⟨instant.seconds + seconds, instant.nanos⟩
  else
    let base := if seconds < 0 then instant.seconds + 1 else instant.seconds
    ⟨base + seconds, instant.nanos - 1000000000⟩

/-- The longest span of time in seconds: its milliseconds fit in 64 bits. -/
def maxSpan : Int := 9223372036854775

def span? (count unit : Int) : Option Int :=
  let seconds := count * unit
  if -maxSpan ≤ seconds && seconds ≤ maxSpan then some seconds else none

def earlier? (instant : Instant) (seconds : Int) : Option Instant :=
  let moved := instant.add (-seconds)
  if minSeconds ≤ moved.seconds && moved.seconds ≤ maxSeconds then some moved else none

def date (instant : Instant) : Date := Date.ofDay (instant.seconds / 86400)

def ofDate (date : Date) (hour minute second : Nat) : Instant :=
  let whole := date.toDay * 86400 + hour * 3600 + minute * 60
  if second = 60 then ⟨whole + 59, 1000000000⟩ else ⟨whole + second, 0⟩

def yearText (year : Int) : List Char :=
  if 0 ≤ year ∧ year ≤ 9999 then Number.padded 4 year.toNat
  else (if year < 0 then '-' else '+') :: Number.padded 4 year.natAbs

def dateText (instant : Instant) : List Char :=
  let date := instant.date
  yearText date.year ++ '-' :: Number.padded 2 date.month ++ '-' :: Number.padded 2 date.day

def timeText (instant : Instant) : List Char :=
  let second := (instant.seconds % 86400).toNat
  Number.padded 2 (second / 3600) ++ ':' :: Number.padded 2 (second / 60 % 60) ++
    ':' :: Number.padded 2 (second % 60 + instant.nanos / 1000000000)

def text (instant : Instant) (between : Char) : List Char :=
  instant.dateText ++ between :: instant.timeText

end Instant
end FileSieve
