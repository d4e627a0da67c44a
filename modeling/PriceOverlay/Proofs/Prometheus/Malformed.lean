import PriceOverlay.Capacity.Analysis
import PriceOverlay.Prometheus.Source
/-!
# Malformed series

A series may be malformed in its value, in its time, or in a label that series of its metric must
have. Each is passed over in a place of its own: the first two by the reader of a series, a missing
label of reserved instances by the reader of their samples, and a missing label of savings plans
only when their samples are summed up. Nothing stands in for what is missing, so an analysis is the
same without the malformed series.

**Results**
* `Removed.filterMap_eq`: what finds nothing in malformed series finds the same without them.
* `PlanTotals.ofSamples_keyed`, `Analyzer.analyze_keyed`: samples that have no key do not count.
* `map_series_thinned`, `age_thinned`: what is left of a reply.
* `analyze_thinned`: an analysis over replies with fewer malformed series.
-/
namespace PriceOverlay

/-! ## Samples without a key -/

namespace PlanTotals

/-- Whether a sample counts for a key among plans of a kind. -/
def keyed (kind : PlanKind) (s : PlanSample) : Bool := (s.key? kind).isSome

theorem foldl_keyed (kind : PlanKind) {f : PlanTotals → PlanSample → PlanTotals}
    (hf : ∀ t s, s.key? kind = none → f t s = t) (l : List PlanSample) (t : PlanTotals) :
    (l.filter (keyed kind)).foldl f t = l.foldl f t := by
  rw [List.foldl_filter]
  congr
  funext t s
  cases hs : s.key? kind with
  | none => simp [keyed, hs, hf t s hs]
  | some k => simp [keyed, hs]

/-- Samples that count for no key add nothing to the sums. -/
theorem ofSamples_keyed (kind : PlanKind) (remaining utilization : List PlanSample) :
    ofSamples kind (remaining.filter (keyed kind)) (utilization.filter (keyed kind)) =
      ofSamples kind remaining utilization := by
  unfold ofSamples
  have hremaining : ∀ t s, s.key? kind = none → addRemaining kind t s = t :=
    fun t s hs => by simp only [addRemaining, hs]
  have hutilization : ∀ t s, s.key? kind = none → setUtilization kind t s = t :=
    fun t s hs => by simp only [setUtilization, hs]
  rw [foldl_keyed kind hremaining, foldl_keyed kind hutilization]

end PlanTotals

/-- The source without the samples of savings plans that count for no key. -/
def CapacitySource.keyed (s : CapacitySource) : CapacitySource :=
  { s with
    capacity := fun kind => (s.capacity kind).map (·.filter (PlanTotals.keyed kind))
    utilization := fun kind => (s.utilization kind).map (·.filter (PlanTotals.keyed kind)) }

namespace Analyzer

theorem plans_keyed (z : Analyzer) (s : CapacitySource) (kind : PlanKind) :
    z.plans s.keyed kind = z.plans s kind := by
  have hcapacity : s.keyed.capacity kind =
    (s.capacity kind).map (·.filter (PlanTotals.keyed kind)) := rfl
  have hutilization : s.keyed.utilization kind =
    (s.utilization kind).map (·.filter (PlanTotals.keyed kind)) := rfl
  unfold plans
  rw [hcapacity, hutilization]
  cases s.capacity kind with
  | error e => rfl
  | ok capacity =>
    cases s.utilization kind with
    | error e => rfl
    | ok utilization => simp only [Except.map, PlanTotals.ofSamples_keyed]

/-- Samples that count for no key do not count in an analysis. -/
theorem analyze_keyed (z : Analyzer) (s : CapacitySource) : z.analyze s.keyed = z.analyze s := by
  unfold analyze
  rw [plans_keyed, plans_keyed]
  rfl

end Analyzer

namespace Prometheus

/-! ## Series -/

deriving instance DecidableEq for SeriesPoint

/-- The labels that a series of savings plans must have. -/
def planLabels : PlanKind → List String
  | .global => []
  | .regional => ["instance_family", "region"]

/-- The labels that a series must have to count in the reply to a query. -/
def requiredLabels : CapacityQuery → List String
  | .capacity kind | .utilization kind => planLabels kind
  | .reserved => ["instance_type", "region"]
  | .age _ => []

namespace SeriesPoint

/-- Whether the value is not a finite number, the time is none of the calendar, or a required label
is missing or empty. -/
def isMalformed (required : List String) (p : SeriesPoint) : Bool :=
  (Decimal.float? p.value.toList).all (!Decimal.isFinite ·) || (moment? p.time).isNone ||
    required.any fun name => (p.labels.get? name).all (·.isEmpty)

theorem label?_eq_none {p : SeriesPoint} {name : String}
    (h : (p.labels.get? name).all (·.isEmpty) = true) : p.label? name = none := by
  unfold label?
  cases hl : p.labels.get? name with
  | none => rfl
  | some v =>
    rw [hl] at h
    simpa using h

theorem reading?_eq_none {p : SeriesPoint}
    (h : (Decimal.float? p.value.toList).all (!Decimal.isFinite ·) = true ∨
      moment? p.time = none) : p.reading? = none := by
  unfold reading?
  cases hx : Decimal.float? p.value.toList with
  | none => rfl
  | some x =>
    rcases h with h | h
    · rw [hx] at h
      have hfinite : Decimal.isFinite x = false := by simpa using h
      simp [hfinite]
    · simp [h]

/-- A malformed series cannot be read, or it lacks a required label. -/
theorem malformed_cases {required : List String} {p : SeriesPoint}
    (h : p.isMalformed required = true) :
    p.reading? = none ∨ ∃ name ∈ required, p.label? name = none := by
  simp only [isMalformed, Bool.or_eq_true, List.any_eq_true, Option.isNone_iff_eq_none] at h
  obtain (h | h) | ⟨name, hname, h⟩ := h
  · exact .inl (reading?_eq_none (.inl h))
  · exact .inl (reading?_eq_none (.inr h))
  · exact .inr ⟨name, hname, label?_eq_none h⟩

/-- A malformed series of savings plans gives no sample, or one that counts for no key. -/
theorem planSample?_malformed {kind : PlanKind} {p : SeriesPoint}
    (h : p.isMalformed (planLabels kind) = true) :
    (p.planSample? kind).filter (PlanTotals.keyed kind) = none := by
  unfold planSample?
  rcases malformed_cases h with h | ⟨name, hname, h⟩
  · rw [h]
    rfl
  · cases p.reading? with
    | none => rfl
    | some x =>
      refine Option.filter_eq_none_iff.2 fun s hs => ?_
      cases hs
      cases kind with
      | global => cases hname
      | regional =>
        simp only [planLabels, List.mem_cons, List.not_mem_nil, or_false] at hname
        rcases hname with rfl | rfl
        · simp [PlanTotals.keyed, PlanSample.key?, h]
        · simp [PlanTotals.keyed, PlanSample.key?, h]

theorem reservedSample?_malformed {p : SeriesPoint}
    (h : p.isMalformed (requiredLabels .reserved) = true) : p.reservedSample? = none := by
  unfold reservedSample?
  rcases malformed_cases h with h | ⟨name, hname, h⟩
  · rw [h]
    rfl
  · cases p.reading? with
    | none => rfl
    | some x =>
      simp only [requiredLabels, List.mem_cons, List.not_mem_nil, or_false] at hname
      rcases hname with rfl | rfl
      · simp [h]
      · cases p.label? "instance_type" <;> simp [h]

end SeriesPoint

/-- The second list is the first one without some series that are malformed. -/
inductive Removed (required : List String) : List SeriesPoint → List SeriesPoint → Prop where
  | nil : Removed required [] []
  | keep (p : SeriesPoint) {l l' : List SeriesPoint} (rest : Removed required l l') :
      Removed required (p :: l) (p :: l')
  | drop {p : SeriesPoint} {l l' : List SeriesPoint} (malformed : p.isMalformed required = true)
      (rest : Removed required l l') : Removed required (p :: l) l'

namespace Removed

variable {required : List String} {l l' : List SeriesPoint}

/-- What finds nothing in malformed series finds the same without them. -/
theorem filterMap_eq {β : Type} {f : SeriesPoint → Option β}
    (hf : ∀ p, p.isMalformed required = true → f p = none) (h : Removed required l l') :
    l'.filterMap f = l.filterMap f := by
  induction h with
  | nil => rfl
  | keep p _ ih => rw [List.filterMap_cons, List.filterMap_cons, ih]
  | drop malformed _ ih => rw [List.filterMap_cons, hf _ malformed, ih]

theorem filter_wellFormed (required : List String) (l : List SeriesPoint) :
    Removed required l (l.filter (!·.isMalformed required)) := by
  induction l with
  | nil => exact .nil
  | cons p r ih =>
    cases hp : p.isMalformed required with
    | true =>
      rw [List.filter_cons_of_neg (by simp [hp])]
      exact .drop hp ih
    | false =>
      rw [List.filter_cons_of_pos (by simp [hp])]
      exact .keep p ih

end Removed

/-! ## Replies -/

/-- The second reply to a query is the first one, or both can be decoded and the second one lacks
some series that are malformed. -/
inductive Thinned (q : CapacityQuery) : Option Http.Reply → Option Http.Reply → Prop where
  | same (reply : Option Http.Reply) : Thinned q reply reply
  | decoded {reply reply' : Http.Reply} {r r' : QueryReply}
      (success : reply.isSuccess = true) (success' : reply'.isSuccess = true)
      (read : QueryReply.read? reply.body = some r)
      (read' : QueryReply.read? reply'.body = some r')
      (status : r'.status = r.status) (error : r'.error = r.error)
      (series : Removed (requiredLabels q) r.series r'.series) :
      Thinned q (some reply) (some reply')

/-- Whether the second reply has of the first one all series but the malformed ones. -/
def isCleaned (q : CapacityQuery) (reply reply' : Http.Reply) : Bool :=
  reply.isSuccess && reply'.isSuccess &&
    (QueryReply.read? reply.body).any fun r => (QueryReply.read? reply'.body).any fun r' =>
      r'.status = r.status && r'.error = r.error &&
        r'.series = r.series.filter (!·.isMalformed (requiredLabels q))

theorem Thinned.of_isCleaned {q : CapacityQuery} {reply reply' : Http.Reply}
    (h : isCleaned q reply reply' = true) : Thinned q (some reply) (some reply') := by
  simp only [isCleaned, Bool.and_eq_true, Option.any_eq_true, decide_eq_true_eq] at h
  obtain ⟨⟨hsuccess, hsuccess'⟩, r, hread, r', hread', ⟨hstatus, herror⟩, hseries⟩ := h
  exact .decoded hsuccess hsuccess' hread hread' hstatus herror
    (hseries ▸ .filter_wellFormed _ r.series)

namespace Client

variable {c : Client} {t t' : Http.Transport} {q : CapacityQuery}

/-- What finds nothing in malformed series finds the same in a reply without them. -/
theorem map_series_thinned (h : Thinned q (c.reply? t q) (c.reply? t' q)) {β : Type}
    {f : SeriesPoint → Option β}
    (hf : ∀ p, p.isMalformed (requiredLabels q) = true → f p = none) :
    (c.series t' q).map (·.filterMap f) = (c.series t q).map (·.filterMap f) := by
  unfold series
  generalize c.reply? t q = x at h ⊢
  generalize c.reply? t' q = y at h ⊢
  cases h with
  | same => rfl
  | decoded success success' read read' status error series =>
    simp only [success, success', read, read', status, error, Bool.not_true, Bool.false_eq_true,
      if_false]
    split
    · exact congrArg Except.ok (series.filterMap_eq hf)
    · rfl

/-- The age goes by the values of the series alone that can be read. -/
theorem age_congr {family : DataFamily}
    (h : (c.series t' (.age family)).map (·.filterMap fun p => p.reading?.map (·.1)) =
      (c.series t (.age family)).map (·.filterMap fun p => p.reading?.map (·.1))) :
    c.age t' family = c.age t family := by
  unfold age
  dsimp only
  cases hs : c.series t (.age family) with
  | error e =>
    cases hs' : c.series t' (.age family) with
    | error e' =>
      rw [hs, hs'] at h
      cases h
      rfl
    | ok l' =>
      rw [hs, hs'] at h
      cases h
  | ok l =>
    cases hs' : c.series t' (.age family) with
    | error e' =>
      rw [hs, hs'] at h
      cases h
    | ok l' =>
      rw [hs, hs'] at h
      have hvalues : l'.filterMap (fun p => p.reading?.map (·.1)) =
        l.filterMap (fun p => p.reading?.map (·.1)) := Except.ok.inj h
      dsimp only [bind, Except.bind]
      rw [hvalues]

theorem age_thinned {family : DataFamily}
    (h : Thinned (.age family) (c.reply? t (.age family)) (c.reply? t' (.age family))) :
    c.age t' family = c.age t family := by
  refine age_congr (map_series_thinned h fun p hp => ?_)
  rcases SeriesPoint.malformed_cases hp with hp | ⟨name, hname, -⟩
  · rw [hp]
    rfl
  · cases hname

theorem map_filter_filterMap (kind : PlanKind) (x : Except SourceError (List SeriesPoint)) :
    (x.map (·.filterMap (·.planSample? kind))).map (·.filter (PlanTotals.keyed kind)) =
      x.map (·.filterMap fun p => (p.planSample? kind).filter (PlanTotals.keyed kind)) := by
  cases x with
  | error e => rfl
  | ok l => exact congrArg Except.ok (List.filter_filterMap ..)

theorem keyed_source_thinned
    (h : ∀ q, Thinned q (c.reply? t q) (c.reply? t' q)) :
    (c.source t').keyed = (c.source t).keyed := by
  unfold CapacitySource.keyed source
  congr 1
  · funext kind
    dsimp only
    rw [map_filter_filterMap, map_filter_filterMap]
    exact map_series_thinned (h _) fun p hp => p.planSample?_malformed hp
  · funext kind
    dsimp only
    rw [map_filter_filterMap, map_filter_filterMap]
    exact map_series_thinned (h _) fun p hp => p.planSample?_malformed hp
  · exact map_series_thinned (h _) fun p hp => p.reservedSample?_malformed hp
  · funext family
    exact age_thinned (h _)

/-- **Malformed series are inert.** If from the replies to any of the queries any malformed series
are removed, the analysis stays the same in every part. -/
theorem analyze_thinned (z : Analyzer) (c : Client) (t t' : Http.Transport)
    (h : ∀ q, Thinned q (c.reply? t q) (c.reply? t' q)) :
    z.analyze (c.source t') = z.analyze (c.source t) := by
  rw [← z.analyze_keyed (c.source t'), keyed_source_thinned h, z.analyze_keyed]

/-- A client of a server that answers the queries on regional savings plans, and for their age, and
no others. -/
def asking : Client := ⟨"http", "/api/v1/query", none⟩

def answering (capacity utilization age : String) : Http.Transport := fun r =>
  let listed? :=
    if r.query = [("query", asking.selector (.capacity .regional))] then some capacity
    else if r.query = [("query", asking.selector (.utilization .regional))] then some utilization
    else if r.query = [("query", asking.selector (.age .savingsPlans))] then some age
    else none
  listed?.map fun series =>
    ⟨200, "\x7b\"status\":\"success\",\"data\":\x7b\"result\":[" ++ series ++ "]\x7d\x7d"⟩

/-- A series of the plans for `m5`. -/
def planText (region value : String) : String :=
  "\x7b\"metric\":\x7b\"instance_family\":\"m5\",\"region\":\"" ++ region ++
    "\"\x7d,\"value\":[1,\"" ++ value ++ "\"]\x7d"

def clean : Http.Transport :=
  answering (planText "us" "9") (planText "us" "5") "\x7b\"value\":[1,\"60\"]\x7d"

/-- The same with series that would add a key, change a use, and make the data too old. -/
def soiled : Http.Transport :=
  answering (planText "" "7" ++ "," ++ planText "us" "9")
    (planText "us" "5" ++ "," ++ planText "us" "NaN")
    "\x7b\"value\":[1,\"inf\"]\x7d,\x7b\"value\":[1,\"60\"]\x7d,\x7b\"value\":[1e300,\"9000\"]\x7d"

theorem thinned_soiled (q : CapacityQuery) :
    Thinned q (asking.reply? soiled q) (asking.reply? clean q) := by
  have hcleaned : asking.reply? clean q = asking.reply? soiled q ∨
      ((asking.reply? soiled q).any fun reply => (asking.reply? clean q).any
        (isCleaned q reply)) = true := by
    cases q with
    | capacity kind | utilization kind => cases kind <;> decide +kernel
    | reserved => decide +kernel
    | age family => cases family <;> decide +kernel
  generalize asking.reply? soiled q = x at hcleaned ⊢
  generalize asking.reply? clean q = y at hcleaned ⊢
  rcases hcleaned with rfl | h
  · exact .same _
  · obtain ⟨reply, rfl, hreply⟩ := (Option.any_eq_true _ _).1 h
    obtain ⟨reply', rfl, hreply'⟩ := (Option.any_eq_true _ _).1 hreply
    exact .of_isCleaned hreply'

theorem analyze_thinned_soiled :
    Analyzer.analyze {} (asking.source clean) = Analyzer.analyze {} (asking.source soiled) ∧
      (Analyzer.analyze {} (asking.source clean)).decisions.map (·.name) =
        ["savings-plan-m5-us"] :=
  ⟨analyze_thinned {} asking soiled clean thinned_soiled, by decide +kernel⟩

end Client
end Prometheus
end PriceOverlay
