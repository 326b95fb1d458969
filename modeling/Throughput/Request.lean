import Throughput.Target
import Throughput.Text.Digits

/-!
# Requests

The literal request text. To keep caches from answering, a timestamp parameter may be added to the
path, so that every request names another object.
-/

namespace Throughput

/-- A local time. A nanosecond count of a second or more on the last second of a minute is a leap
second. -/
structure LocalTime where
  year : Int
  month : Nat
  day : Nat
  hour : Nat
  minute : Nat
  second : Nat
  nanosecond : Nat
  deriving DecidableEq, Repr

namespace LocalTime

def nanosPerSecond : Nat := 1000000000

/-- The second as it is printed: sixty in a leap second. -/
def shownSecond (time : LocalTime) : Nat :=
  time.second + time.nanosecond / nanosPerSecond

def shownMilli (time : LocalTime) : Nat :=
  time.nanosecond % nanosPerSecond / nanosPerMilli

def stampFields (time : LocalTime) : List (List Char) :=
  [Text.padded 2 (time.year % 100).toNat, Text.padded 2 time.month, Text.padded 2 time.day,
    Text.padded 2 time.hour, Text.padded 2 time.minute, Text.padded 2 time.shownSecond,
    Text.padded 3 time.shownMilli]

def stamp (time : LocalTime) : List Char :=
  Text.joinWith '_' time.stampFields

end LocalTime

namespace Request

def userAgent : String :=
  "Mozilla/5.0 (Macintosh; Intel Mac OS X 10.9; rv:31.0) Gecko/20100101 Firefox/31.0"

def referer : String :=
  "http://www.measure-it.net"

/-- The path with a timestamp parameter behind it. -/
def stampedPath (path : List Char) (time : LocalTime) : List Char :=
  let mark := if path.contains '?' then '&' else '?'
  path ++ mark :: ("timestamp=".toList ++ time.stamp)

def path (target : Target) (time : Option LocalTime) : String :=
  match time with
  | none => target.path
  | some time => String.ofList (stampedPath target.path.toList time)

def text (target : Target) (time : Option LocalTime) : String :=
  "GET " ++ path target time ++ " HTTP/1.1\r\nHost: " ++ target.host ++ "\r\nUser-Agent: " ++
    userAgent ++ "\r\nReferer: " ++ referer ++ "\r\n\r\n"

end Request

end Throughput
