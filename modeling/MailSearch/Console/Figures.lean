import MailSearch.Value

/-!
# Figures for people

Sizes in bytes and times in seconds as they are shown: the unit is chosen by the exact
figure, which is then rounded to one place, a tie to the even digit.
-/

namespace MailSearch.Console

/-- The seconds of a minute, in steps of floating point. -/
def minuteSteps : Nat := 60 * Binary64.stepsPerUnit

/-- A ratio to one place. -/
def onePlace (num : Int) (den : Nat) : Except Fault String :=
  match Binary64.quotient? num den with
  | some x => .ok (x.fixedText 1)
  | none => .error .ratioTooLarge

/-- A number of bytes: as it is below a kilobyte, in kilobytes below a megabyte, in
megabytes from there on. -/
def sizeText (bytes : Int) : Except Fault String :=
  if bytes < 1024 then (integerText? bytes).map (· ++ " B")
  else if bytes < 1048576 then (onePlace bytes 1024).map (· ++ " KB")
  else (onePlace bytes 1048576).map (· ++ " MB")

/-- Minutes and a text for the seconds beyond them. -/
def minutesText (minutes : Nat) (seconds : String) : String :=
  integerText minutes ++ "m " ++ seconds ++ "s"

/-- The full minutes of a time in steps: the remainder is taken off and the rest divided by
sixty, each rounded as floating point, and what came out is made whole. -/
def fullMinutes (steps : Nat) : Nat :=
  let rest := Binary64.roundSteps (steps - steps % minuteSteps) 1
  let quotient := Binary64.roundSteps rest 60
  let whole := quotient / Binary64.stepsPerUnit
  if Binary64.stepsPerUnit < 2 * (quotient % Binary64.stepsPerUnit) then whole + 1 else whole

/-- A time in seconds: seconds alone below a minute, minutes and seconds from there on. -/
def durationText (seconds : Binary64) : Except Fault String :=
  match seconds with
  | .nan => .error .notANumber
  | .infinity false => .error .notANumber
  | .infinity true => .ok (seconds.fixedText 1 ++ "s")
  | .finite negative steps =>
      if negative || steps < minuteSteps then .ok (seconds.fixedText 1 ++ "s")
      else
        let rest := Binary64.finite false (steps % minuteSteps)
        .ok (minutesText (fullMinutes steps) (rest.fixedText 1))

/-- A time in whole seconds. -/
def wholeDurationText (seconds : Int) : Except Fault String :=
  if seconds < 60 then (onePlace seconds 1).map (· ++ "s")
  else if hasTooManyDigits (seconds / 60) then .error .tooManyDigits
  else (onePlace (seconds % 60) 1).map (minutesText (seconds / 60).toNat)

end MailSearch.Console
