import PfsenseBackups.CronDialects

/-! The three handlers that write an instance's cron text and timezone: `create_instance`,
`update_instance` and `put_schedule`, as far as these two values go. -/

namespace PfsenseBackups.SchedulePaths
open CronDialects PythonText WallClock

/-- What the checks raise: a `ValueError`, or the `TypeError` of `ZoneInfo(None)`. -/
inductive Raised where
  | value (error : CronError)
  | type
  deriving DecidableEq

/-- What a handler answers in place of a result. -/
inductive Failure where
  | http (status : Nat) (detail : String)
  | unhandled (raised : Raised)
  deriving DecidableEq

/-- The two columns of an instance. -/
structure Schedule where
  cronExpression : Option String
  cronTimezone : Option String
  deriving DecidableEq

/-- `except ValueError as exc: raise HTTPException(400, str(exc))`. -/
def orBadRequest : Except Raised Unit → Except Failure Unit
  | .ok () => .ok ()
  | .error (.value error) => .error (.http 400 error.text)
  | .error raised => .error (.unhandled raised)

section

variable {Zone : Type} (lib : Libraries Zone)

def raising : Except CronError Unit → Except Raised Unit
  | .ok () => .ok ()
  | .error error => .error (.value error)

/-- `if cron: validate(cron)`, the check of the three handlers. -/
def checkCron (cron : Option String) : Except Failure Unit :=
  match truthy cron with
  | none => .ok ()
  | some cron => orBadRequest (raising (validate lib cron))

/-- `validate_tz(tz)` -/
def zoneCheck (tz : Option String) : Except Raised Unit :=
  match tz with
  | none => .error .type
  | some tz => raising (validateTz lib tz)

/-- `if tz is not None: validate_tz(tz)`. -/
def checkTz (tz : Option String) : Except Failure Unit :=
  match tz with
  | none => .ok ()
  | some _ => orBadRequest (zoneCheck lib tz)

/-- The timezone is checked even where none is given. -/
def createInstance (cron tz : Option String) : Except Failure Schedule := do
  checkCron lib cron
  orBadRequest (zoneCheck lib tz)
  return ⟨cron, tz⟩

/-- The request's fields that were sent, null among their values. -/
def updateInstance (row : Schedule) (cron tz : Option (Option String)) :
    Except Failure Schedule := do
  checkCron lib cron.join
  checkTz lib tz.join
  return ⟨cron.getD row.cronExpression, tz.getD row.cronTimezone⟩

def putSchedule (cron tz : Option String) : Except Failure Schedule := do
  checkCron lib cron
  checkTz lib tz
  return ⟨cron, tz⟩

/-! ### Accepting the same schedules -/

variable {lib} {cron tz : Option String} {row : Schedule}

/-- With both fields sent, `update_instance` does what `put_schedule` does. -/
theorem updateInstance_eq (row : Schedule) :
    updateInstance lib row (some cron) (some tz) = putSchedule lib cron tz :=
  rfl

/-- With a timezone, so does `create_instance`. -/
theorem createInstance_some (text : String) :
    createInstance lib cron (some text) = putSchedule lib cron (some text) :=
  rfl

end

/-! ### Without a timezone -/

end PfsenseBackups.SchedulePaths
