import ServiceWorker.Platform.Format
import ServiceWorker.Replay

/-!
# Printed lines as JSON

## Main definitions

* `Replay.Report.toJson`: what the handling of an event came to, as an object
* `Replay.Line.toJson`: a printed line
-/

namespace ServiceWorker.Replay

/-- The URL of a request. -/
def urlMember : Event → List (String × Json)
  | .fetch request => [("url", .string request.url)]
  | _ => []

/-- The members of a report behind its number and the kind of the event. -/
def resultMembers (e : Event) : Except Failure Outcome → List (String × Json)
  | .ok .done => [("outcome", .string "done")]
  | .ok .passthrough => ("outcome", .string "passthrough") :: urlMember e
  | .ok (.respond answer) =>
    ("outcome", .string "respond") :: urlMember e ++
      [("status", Http.natJson answer.response.status.toNat),
        ("source", .string answer.source.name),
        ("bytes", Http.natJson answer.response.body.length)]
  | .error failure => [("outcome", .string "error"), ("error", .string failure.message)]

/-- A report as an object. -/
def Report.toJson (r : Report) : Json :=
  .object ([("seq", Http.natJson r.seq), ("event", .string r.event.kind)] ++
    resultMembers r.event r.result)

/-- A printed line as an object. -/
def Line.toJson : Line → Json
  | report r => r.toJson
  | effect e => e.toJson

end ServiceWorker.Replay
