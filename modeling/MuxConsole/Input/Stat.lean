import MuxConsole.Input.State
import MuxConsole.Input.Uptime

/-!
# Statistics of one input

The counters are always there.  Slow peaks, state, version, uptime and timestamp
offset came with later releases: an absent one reads as unknown or as nothing.
-/

namespace MuxConsole.Input

structure Stat where
  minFill : Int64
  maxFill : Int64
  peakLeft : Int32
  peakRight : Int32
  peakLeftSlow : Option Int32
  peakRightSlow : Option Int32
  underruns : UInt64
  overruns : UInt64
  report : String
  /-- The state that the report was found to mean. -/
  state : Option State
  version : String
  uptime : Uptime
  offset : Option Number
deriving DecidableEq

namespace Stat

def start : Stat where
  minFill := 0
  maxFill := 0
  peakLeft := 0
  peakRight := 0
  peakLeftSlow := none
  peakRightSlow := none
  underruns := 0
  overruns := 0
  report := unknownText
  state := none
  version := unknownText
  uptime := .unknown
  offset := none

open Json in
def slots : List (Slot Stat) := [
  .needs "min_fill" .word fun minFill stat => { stat with minFill },
  .needs "max_fill" .word fun maxFill stat => { stat with maxFill },
  .needs "peak_left" .word fun peakLeft stat => { stat with peakLeft },
  .needs "peak_right" .word fun peakRight stat => { stat with peakRight },
  .allows "peak_left_slow" (.optional .word) fun peakLeftSlow stat => { stat with peakLeftSlow },
  .allows "peak_right_slow" (.optional .word) fun peakRightSlow stat =>
    { stat with peakRightSlow },
  .needs "num_underruns" .word fun underruns stat => { stat with underruns },
  .needs "num_overruns" .word fun overruns stat => { stat with overruns },
  .allows "state" .string fun report stat => { stat with report },
  .allows "version" .string fun version stat => { stat with version },
  .allows "uptime" Uptime.schema fun uptime stat => { stat with uptime },
  .allows "last_tist_offset" (.optional .number) fun offset stat => { stat with offset }]

def schema : Json.Schema Stat := .record "InputStat" start slots

/-- The members of a field that is left out where it holds nothing. -/
def present (key : String) : Option Json → Json.Members
  | none => []
  | some j => [(key, j)]

def toJson (stat : Stat) : Json :=
  .object <|
    [("min_fill", .ofWord stat.minFill),
      ("max_fill", .ofWord stat.maxFill),
      ("peak_left", .ofWord stat.peakLeft),
      ("peak_right", .ofWord stat.peakRight)] ++
    present "peak_left_slow" (stat.peakLeftSlow.map .ofWord) ++
    present "peak_right_slow" (stat.peakRightSlow.map .ofWord) ++
    [("num_underruns", .ofWord stat.underruns),
      ("num_overruns", .ofWord stat.overruns),
      ("state", .text stat.report),
      ("version", .text stat.version),
      ("uptime", stat.uptime.toJson)] ++
    present "last_tist_offset" (stat.offset.map .number)

end Stat

end MuxConsole.Input
