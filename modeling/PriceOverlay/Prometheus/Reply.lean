import PriceOverlay.Capacity.Commitment
import PriceOverlay.Decimal.Exact
import PriceOverlay.Json.Reader
import PriceOverlay.Overlay.Label
/-!
# Replies to queries

A reply is a JSON record with a status, and with the series of the result or the text of
an error. Each series has labels, and a value that is written as a text beside the time at
which it was taken. A series is well-formed if its value is a finite number and its time
can be told; all others are passed over.
-/
namespace PriceOverlay.Prometheus

/-- One series as it was sent. -/
structure SeriesPoint where
  labels : Labels
  time : Float
  value : String

structure QueryReply where
  status : String
  series : List SeriesPoint
  error : Option String

/-! ## Decoding -/

/-- The labels of a series; of a repeated one the last value counts. -/
def labels? (j : Json) : Option Labels := do
  let fs ← j.fields?
  let es ← fs.mapM fun f => f.2.str?.map (f.1, ·)
  pure (Table.ofList es)

namespace SeriesPoint

def ofJson? (j : Json) : Option SeriesPoint := do
  let [metric, value] ← j.record? [⟨"metric", true⟩, ⟨"value", false⟩] | none
  let labels ← match metric with
    | none => some ∅
    | some m => labels? m
  let [time, text] ← (← value).items? | none
  pure ⟨labels, ← time.float?, ← text.str?⟩

end SeriesPoint

/-- The series of the data of a reply. -/
def series? (j : Json) : Option (List SeriesPoint) := do
  let [result] ← j.record? [⟨"result", true⟩] | none
  match result with
  | none => some []
  | some r => r.list? SeriesPoint.ofJson?

namespace QueryReply

/-- The record of a reply; its data and its error may be missing or null. -/
def ofJson? (j : Json) : Option QueryReply := do
  let [status, data, error] ←
    j.record? [⟨"status", false⟩, ⟨"data", true⟩, ⟨"error", true⟩] | none
  let status ← (← status).str?
  let series ← match data.bind Json.present? with
    | none => some []
    | some d => series? d
  let error ← match error.bind Json.present? with
    | none => some none
    | some e => e.str?.map some
  pure ⟨status, series, error⟩

/-- Reads the body of a reply. -/
def read? (body : String) : Option QueryReply := (Json.read? body).bind ofJson?

end QueryReply

/-! ## Well-formed series -/

/-- The seconds since 1970 that a time may have. -/
def earliest : Int := -8334601228800
def latest : Int := 8210266876799

/-- The moment of a number of seconds, cut to nanoseconds; none outside the calendar. -/
def moment? (x : Float) : Option Timestamp :=
  (Decimal.rational? x).bind fun q =>
    let seconds := q.floor
    if earliest ≤ seconds ∧ seconds ≤ latest then
      let rest := (x - Float.ofInt seconds) * 1000000000
      let nanos := ((Decimal.rational? rest).map fun r => r.floor.toNat).getD 0
      some ⟨seconds, min nanos 999999999⟩
    else none

namespace SeriesPoint

/-- The value and the time of a well-formed series. -/
def reading? (p : SeriesPoint) : Option (Float × Timestamp) := do
  let x ← Decimal.float? p.value.toList
  if Decimal.isFinite x then
    let t ← moment? p.time
    pure (x, t)
  else none

/-- The value of a label that is there and not empty. -/
def label? (p : SeriesPoint) (name : String) : Option String :=
  (p.labels.get? name).filter (!·.isEmpty)

/-- The data point of a savings plan. -/
def planSample? (kind : PlanKind) (p : SeriesPoint) : Option PlanSample :=
  p.reading?.map fun (value, time) =>
    { kind, family := p.label? "instance_family", region := p.label? "region", value, time }

/-- The data point on reserved instances; their type and region must be told. -/
def reservedSample? (p : SeriesPoint) : Option ReservedSample := do
  let (count, time) ← p.reading?
  pure ⟨← p.label? "instance_type", ← p.label? "region", count, time⟩

end SeriesPoint
end PriceOverlay.Prometheus
