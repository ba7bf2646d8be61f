import Annunciator.Configuration.Loading
import Annunciator.Station.Operation
import Annunciator.Station.Startup
import Std.Time.Zoned

/-!
# The station program

Sets up a station from its configuration and keeps it running: evaluation and the
search for missing addresses each come around in the period that was configured.
-/

namespace Annunciator.Program

/-- The environment of the program. -/
def environment : IO Environment := do
  let values <- heededVariables.mapM fun name => do
    pure (name, <- IO.getEnv name)
  pure fun name => (values.lookup name).join

/-- What is found at a path. -/
def configurationFile (path : String) : IO ConfigurationFile := do
  try
    pure (.content (<- IO.FS.readBinFile path))
  catch error =>
    match error with
    | .noFileOrDirectory .. => pure .missing
    | _ => pure .unreadable

/-- The moment that local time is counted from. -/
def epoch? : Option Timestamp :=
  (Date.ofParts? 1970 1 1).map fun date => ⟨date, .midnight⟩

/-- Local time to the millisecond. -/
def localTime : IO Timestamp := do
  let elapsed := (<- Std.Time.PlainDateTime.now).toWallTime.toMilliseconds.val.toNat
  match epoch?.bind (·.later? elapsed) with
  | some moment => pure moment
  | none => throw (IO.userError "the clock is beyond the calendar")

/-- Say what the station has to report. -/
def announce : Station.Answer -> IO Unit
  | .records records => records.forM fun record =>
      IO.println (record.object.display ++ ": " ++ record.message)
  | .missing count =>
      if count = 0 then pure ()
      else IO.println ("recipients without an address: " ++ toString count)
  | _ => pure ()

/-- Have the station do something at the present time. -/
def operate (station : Station) (operation : Station.Operation) : IO Station := do
  let outcome := Station.run [.setClock (<- localTime), operation] station
  outcome.answer.forM announce
  (<- IO.getStdout).flush
  pure outcome.state

/-- Run a station. The next evaluation and the next search are due at given points
of a clock that counts milliseconds. -/
partial def keepRunning (configuration : Configuration) (station : Station)
    (tickDue sweepDue : Nat) : IO Unit := do
  let reached <- IO.monoMsNow
  if tickDue ≤ reached then
    let station <- operate station .tick
    keepRunning configuration station
      (tickDue + configuration.tickMilliseconds.toNat) sweepDue
  else if sweepDue ≤ reached then
    let station <- operate station .sweep
    keepRunning configuration station tickDue
      (sweepDue + 1000 * configuration.sweepSeconds.toNat)
  else
    IO.sleep (.ofNat (min 1000 (min tickDue sweepDue - reached)))
    keepRunning configuration station tickDue sweepDue

/-- Load the configuration, start the station and run it. Answers the exit code of
a program that could not do so. -/
def run : IO UInt32 := do
  let path := (<- IO.getEnv "MINIBAC_CONFIG").getD "minibac.toml"
  match Configuration.load (<- configurationFile path) (<- environment) with
  | .error error =>
      IO.eprintln error.message
      pure 1
  | .ok configuration =>
      match Station.start configuration (<- localTime) with
      | .error error =>
          IO.eprintln error.message
          pure 1
      | .ok (station, _) =>
          let reached <- IO.monoMsNow
          keepRunning configuration station reached reached
          pure 0

end Annunciator.Program

/-- Run a station as its configuration describes it. -/
def main : IO UInt32 := Annunciator.Program.run
