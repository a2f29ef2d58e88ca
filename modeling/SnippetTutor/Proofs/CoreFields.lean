import SnippetTutor.Log.Record

/-!
# Core fields of log records

A record tells what its event says: how grave it is, when it happened, its message, in which process
and for which request it happened, and the error that it reports. The fields that callers bind share
one name space with these, so a caller can replace some of them.

* `Log.Event.TellsIn` is what a record is to tell of an event;
* `Log.Event.get?_record`: what a record holds under any name;
* `Keyed.keys_prefix_putAll`: names that are set later stand behind those that are there;
* `Log.Event.tellsIn_record_iff`: the level, the time, the message and the process are told exactly
  if no caller binds something else under one of their names; an error is made up exactly if there
  is none and a caller binds an object under its name;
* `Log.Event.record_tells_iff` adds what is told always: the request, and the error if there is one.
-/

namespace SnippetTutor

namespace Keyed

variable {α : Type}

theorem keys_prefix_put (entries : Keyed α) (key : String) (value : α) :
    entries.keys <+: (entries.put key value).keys := by
  rw [keys_put]
  split
  · exact List.prefix_rfl
  · exact List.prefix_append _ _

/-- Keys that are set later stand behind those that are there. -/
theorem keys_prefix_putAll (entries updates : Keyed α) :
    entries.keys <+: (entries.putAll updates).keys := by
  induction updates generalizing entries with
  | nil => exact List.prefix_rfl
  | cons update updates ih => exact (keys_prefix_put entries _ _).trans (ih _)

/-- What is found under a key after the entries of another one were taken away. -/
theorem get?_filter_ne (entries : Keyed α) (out key : String) :
    get? (entries.filter fun entry => entry.1 != out) key =
      if key = out then none else get? entries key := by
  induction entries with
  | nil => simp
  | cons entry rest ih =>
    rw [List.filter_cons, get?_cons]
    by_cases away : entry.1 = out
    · rw [if_neg (by simpa using away), ih, away]
      by_cases same : key = out
      · rw [if_pos same, if_pos same]
      · rw [if_neg same, if_neg same, if_neg (Ne.symm same)]
    · rw [if_pos (by simpa using away), get?_cons, ih]
      by_cases found : entry.1 = key
      · rw [if_pos found, if_pos found, if_neg (found ▸ away)]
      · rw [if_neg found, if_neg found]

end Keyed

namespace Log.Event

variable {event : Event} {processRequest key : String}

/-- What is bound under a name, by the last of the callers that bind it. -/
def bound? (event : Event) (key : String) : Option Json := Keyed.get? event.bound.reverse key

/-- Nothing else than a value is bound under a name. -/
def Leaves (event : Event) (key : String) (value : Json) : Prop :=
  ∀ other, event.bound? key = some other → other = value

/-- A record tells what an event says. -/
structure TellsIn (event : Event) (processRequest : String) (record : Keyed Json) : Prop where
  level : record.get? "level" = some (.int (weight event.level))
  time : record.get? "time" = some (.int event.time)
  message : record.get? "msg" = some (.text event.message)
  process : record.get? "pid" = some (.int event.processId)
  request : record.get? requestKey = some (event.request processRequest)
  error : ∀ cause, event.cause = some cause → record.get? "err" = some cause.toJson
  noError : event.cause = none → ∀ fields, record.get? "err" ≠ some (.object fields)

/-! ### Fields of a record -/

theorem get?_otherFields (event : Event) (key : String) :
    Keyed.get? event.otherFields.reverse key =
      if key = requestKey then none else event.bound? key := by
  rw [otherFields, ← List.filter_reverse, Keyed.get?_filter_ne, bound?]

/-- What a record holds under a name: the error or the request, what is bound, or what the event
says by itself. -/
theorem get?_record (event : Event) (processRequest key : String) :
    (event.record processRequest).get? key =
      if key = "err" ∧ event.cause.isSome then event.cause.map Cause.toJson
      else if key = requestKey then some (event.request processRequest)
      else (event.bound? key).or ((event.ownFields processRequest).get? key) := by
  have fields : ((event.ownFields processRequest).putAll event.otherFields).get? key =
      if key = requestKey then some (event.request processRequest)
      else (event.bound? key).or ((event.ownFields processRequest).get? key) := by
    rw [Keyed.get?_putAll, get?_otherFields]
    by_cases request : key = requestKey
    · rw [if_pos request, if_pos request, request]
      rfl
    · rw [if_neg request, if_neg request]
  unfold record
  cases event.cause with
  | none => simpa using fields
  | some cause =>
    rw [Keyed.get?_put, fields]
    by_cases error : key = "err"
    · simp [error]
    · simp [error, Ne.symm error]

/-- A field of an event is told exactly if nothing else is bound under its name. -/
theorem get?_record_eq_iff {value : Json}
    (own : (event.ownFields processRequest).get? key = some value) (request : key ≠ requestKey)
    (error : key ≠ "err") :
    (event.record processRequest).get? key = some value ↔ event.Leaves key value := by
  rw [get?_record, if_neg fun both => error both.1, if_neg request, own, Leaves]
  cases event.bound? key <;> simp

theorem get?_record_err (event : Event) (processRequest : String) :
    (event.record processRequest).get? "err" =
      (event.cause.map Cause.toJson).or (event.bound? "err") := by
  have own : (event.ownFields processRequest).get? "err" = none := rfl
  have request : "err" ≠ requestKey := by decide
  rw [get?_record, own, Option.or_none, if_neg request]
  cases event.cause <;> rfl

/-- Every record starts with the fields of its event, in one order, whatever is bound. -/
theorem keys_prefix_record (event : Event) (processRequest : String) :
    ["level", "time", "msg", "pid", "request_id"] <+: (event.record processRequest).keys := by
  have fields := Keyed.keys_prefix_putAll (event.ownFields processRequest) event.otherFields
  unfold record
  split
  · exact fields.trans (Keyed.keys_prefix_put _ _ _)
  · exact fields

/-! ### What a record tells -/

theorem get?_record_requestKey (event : Event) (processRequest : String) :
    (event.record processRequest).get? requestKey = some (event.request processRequest) := by
  rw [get?_record, if_neg (by simp [requestKey]), if_pos rfl]

theorem get?_record_err_of_cause {cause : Cause} (reported : event.cause = some cause) :
    (event.record processRequest).get? "err" = some cause.toJson := by
  rw [get?_record_err, reported]
  rfl

theorem get?_record_err_of_no_cause (unreported : event.cause = none) :
    (event.record processRequest).get? "err" = event.bound? "err" := by
  rw [get?_record_err, unreported]
  rfl

/-- A record tells all that its event says exactly if nothing else is bound under the names of the
level, the time, the message and the process, and, where there is no error, no object under the name
of the error. -/
theorem tellsIn_record_iff (event : Event) (processRequest : String) :
    event.TellsIn processRequest (event.record processRequest) ↔
      (event.Leaves "level" (.int (weight event.level)) ∧
        event.Leaves "time" (.int event.time) ∧
        event.Leaves "msg" (.text event.message) ∧
        event.Leaves "pid" (.int event.processId)) ∧
      (event.cause = none → ∀ fields, event.bound? "err" ≠ some (.object fields)) := by
  have level : (event.record processRequest).get? "level" = some (.int (weight event.level)) ↔
      event.Leaves "level" (.int (weight event.level)) :=
    get?_record_eq_iff rfl (by decide) (by decide)
  have time : (event.record processRequest).get? "time" = some (.int event.time) ↔
      event.Leaves "time" (.int event.time) :=
    get?_record_eq_iff rfl (by decide) (by decide)
  have message : (event.record processRequest).get? "msg" = some (.text event.message) ↔
      event.Leaves "msg" (.text event.message) :=
    get?_record_eq_iff rfl (by decide) (by decide)
  have process : (event.record processRequest).get? "pid" = some (.int event.processId) ↔
      event.Leaves "pid" (.int event.processId) :=
    get?_record_eq_iff rfl (by decide) (by decide)
  constructor
  · intro tells
    refine ⟨⟨level.1 tells.level, time.1 tells.time, message.1 tells.message,
      process.1 tells.process⟩, fun unreported => ?_⟩
    rw [← get?_record_err_of_no_cause unreported]
    exact tells.noError unreported
  · rintro ⟨⟨levelLeft, timeLeft, messageLeft, processLeft⟩, noObject⟩
    refine ⟨level.2 levelLeft, time.2 timeLeft, message.2 messageLeft, process.2 processLeft,
      get?_record_requestKey event processRequest, fun _ => get?_record_err_of_cause,
      fun unreported => ?_⟩
    rw [get?_record_err_of_no_cause unreported]
    exact noObject unreported

/-- Every record starts with the fields of its event, and tells the request, and the error where
there is one. It tells all that the event says exactly if nothing else is bound under the names of
the level, the time, the message and the process, and, where there is no error, no object under the
name of the error. -/
theorem record_tells_iff (event : Event) (processRequest : String) :
    ["level", "time", "msg", "pid", "request_id"] <+: (event.record processRequest).keys ∧
      (event.record processRequest).get? requestKey = some (event.request processRequest) ∧
      (event.record processRequest).get? "err" =
        (event.cause.map Cause.toJson).or (event.bound? "err") ∧
      (event.TellsIn processRequest (event.record processRequest) ↔
        (event.Leaves "level" (.int (weight event.level)) ∧
          event.Leaves "time" (.int event.time) ∧
          event.Leaves "msg" (.text event.message) ∧
          event.Leaves "pid" (.int event.processId)) ∧
        (event.cause = none → ∀ fields, event.bound? "err" ≠ some (.object fields))) :=
  ⟨keys_prefix_record event processRequest, get?_record_requestKey event processRequest,
    get?_record_err event processRequest, tellsIn_record_iff event processRequest⟩

/-- A caller who binds a level of its own replaces that of the event, and one who binds an object as
an error makes up an error that the event does not report. -/
theorem record_replaces_level :
    let graded : Event :=
      { level := "INFO", time := 1000, message := "done", processId := 7,
        bound := [("level", .text "high")] }
    let blamed : Event :=
      { graded with bound := [("err", .object [("message", .text "none")])] }
    ((graded.record "request").get? "level" = some (.text "high") ∧
        ¬graded.TellsIn "request" (graded.record "request")) ∧
      blamed.cause = none ∧
        (blamed.record "request").get? "err" = some (.object [("message", .text "none")]) ∧
        ¬blamed.TellsIn "request" (blamed.record "request") := by
  intro graded blamed
  have replaced : (graded.record "request").get? "level" = some (.text "high") := rfl
  have invented : (blamed.record "request").get? "err" =
      some (.object [("message", .text "none")]) := rfl
  refine ⟨⟨replaced, fun tells => ?_⟩, rfl, invented, fun tells => ?_⟩
  · have level := tells.level
    rw [replaced] at level
    cases level
  · exact tells.noError rfl _ invented

end Log.Event

end SnippetTutor
