import PriceOverlay.Prometheus.Source
import PriceOverlay.Proofs.Decimal.Order
/-!
# The age of data

Several exporters may report an age for one family, and the greatest counts, whatever their order
and whatever else the reply holds. An age that is too great for a duration is no age at all. So one
exporter that reports too old an age is enough.

**Results**
* `rational?_foldl_older`: the fold over the series finds an age that is not less than any.
* `le_nanos_of_ofFloat?`: a duration is not less than a whole number of nanoseconds that it was
  read from.
* `lt_age_of_unfresh`: a family whose reply is not fresh has no age, or one above the ceiling.
-/
namespace PriceOverlay

theorem Decimal.rational?_zero : rational? 0 = some 0 := by rfl

/-- A duration is not less than a whole number of nanoseconds that its seconds reach. -/
theorem Duration.le_nanos_of_ofFloat? {x : Float} {d : Duration} (h : ofFloat? x = some d) {p : Rat}
    (hx : Decimal.rational? x = some p) {n : Nat} (hn : (n : Rat) ≤ p * secondNanos) :
    n ≤ d.nanos := by
  rw [ofFloat?, hx, Option.bind_some] at h
  split at h
  · cases h
  · dsimp only at h
    split at h
    · cases h
      have hround : (n : Int) ≤ Decimal.roundEven (p * secondNanos) := Decimal.le_roundEven hn
      show n ≤ (Decimal.roundEven (p * secondNanos)).toNat
      omega
    · cases h

namespace Prometheus

/-! ## The greatest age -/

theorem rational?_older {a b : Float} {p q : Rat} (ha : Decimal.rational? a = some p)
    (hb : Decimal.rational? b = some q) :
    Decimal.rational? (Client.older a b) = some (max p q) := by
  unfold Client.older
  split
  · rename_i hlt
    rw [hb, max_eq_right ((Decimal.lt_iff ha hb).1 hlt).le]
  · rename_i hlt
    rw [ha, max_eq_left (not_lt.1 fun h => hlt ((Decimal.lt_iff ha hb).2 h))]

/-- Of finite ages, the fold finds one that is not less than any of them. -/
theorem rational?_foldl_older {xs : List Float} (hfinite : ∀ x ∈ xs, Decimal.isFinite x = true) :
    ∀ {a : Float} {p : Rat}, Decimal.rational? a = some p →
      ∃ r, Decimal.rational? (xs.foldl Client.older a) = some r ∧ p ≤ r ∧
        ∀ x ∈ xs, ∀ q, Decimal.rational? x = some q → q ≤ r := by
  induction xs with
  | nil => exact fun ha => ⟨_, ha, le_refl _, nofun⟩
  | cons y ys ih =>
    intro a p ha
    simp only [List.forall_mem_cons] at hfinite ⊢
    obtain ⟨q, hq⟩ := Option.isSome_iff_exists.1 hfinite.1
    obtain ⟨r, hr, hle, hall⟩ := ih hfinite.2 (rational?_older ha hq)
    refine ⟨r, hr, (le_max_left p q).trans hle, fun q' hq' => ?_, hall⟩
    cases hq.symm.trans hq'
    exact (le_max_right p q).trans hle

namespace SeriesPoint

theorem isFinite_of_reading? {p : SeriesPoint} {x : Float × Timestamp} (h : p.reading? = some x) :
    Decimal.isFinite x.1 = true := by
  unfold reading? at h
  obtain ⟨y, -, h⟩ := Option.bind_eq_some_iff.1 h
  split at h
  · rename_i hfinite
    obtain ⟨t, -, h⟩ := Option.bind_eq_some_iff.1 h
    cases h
    exact hfinite
  · cases h

end SeriesPoint

/-! ## Replies that are not fresh -/

namespace Client

variable {c : Client} {t : Http.Transport} {family : DataFamily} {ceiling : Duration}

/-- What the query for the age of a family gets does not show that its data is fresh: a well-formed
series has a value of at least one nanosecond above the ceiling, no series is well-formed, or the
query fails. -/
inductive Unfresh (c : Client) (t : Http.Transport) (family : DataFamily) (ceiling : Duration) :
    Prop
  | stale {series : List SeriesPoint} {p : SeriesPoint} {x : Float} {time : Timestamp} {age : Rat}
      (reply : c.series t (.age family) = .ok series) (mem : p ∈ series)
      (reading : p.reading? = some (x, time)) (value : Decimal.rational? x = some age)
      (beyond : ((ceiling.nanos + 1 : Nat) : Rat) / Duration.secondNanos ≤ age)
  | blank {series : List SeriesPoint} (reply : c.series t (.age family) = .ok series)
      (blank : ∀ p ∈ series, p.reading? = none)
  | failed {e : SourceError} (reply : c.series t (.age family) = .error e)

/-- An age is the greatest of the well-formed ones, or nothing if all are below. -/
theorem ofFloat?_of_age {series : List SeriesPoint} (hreply : c.series t (.age family) = .ok series)
    {d : Duration} (h : c.age t family = .ok d) :
    ∃ x xs, series.filterMap (fun p => p.reading?.map (·.1)) = x :: xs ∧
      Duration.ofFloat? (older (xs.foldl older x) 0) = some d := by
  unfold age at h
  dsimp only at h
  rw [hreply] at h
  dsimp only [bind, Except.bind] at h
  split at h
  · cases h
  · rename_i x xs hxs
    split at h
    · rename_i d' hd
      cases h
      exact ⟨x, xs, hxs, hd⟩
    · cases h

/-- A family whose reply is not fresh has no age, or one above the ceiling. -/
theorem lt_age_of_unfresh (h : c.Unfresh t family ceiling) {d : Duration}
    (hage : c.age t family = .ok d) : ceiling.nanos < d.nanos := by
  cases h with
  | @stale series p x time q reply mem reading value beyond =>
    obtain ⟨y, ys, hxs, hd⟩ := ofFloat?_of_age reply hage
    have hfinite : ∀ z ∈ y :: ys, Decimal.isFinite z = true := by
      intro z hz
      obtain ⟨p, -, hp⟩ := List.mem_filterMap.1 (hxs ▸ hz)
      obtain ⟨r, hr, rfl⟩ := Option.map_eq_some_iff.1 hp
      exact SeriesPoint.isFinite_of_reading? hr
    have hmem : x ∈ y :: ys := hxs ▸ List.mem_filterMap.2 ⟨p, mem, by rw [reading]; rfl⟩
    simp only [List.forall_mem_cons] at hfinite
    obtain ⟨q₀, hy⟩ := Option.isSome_iff_exists.1 hfinite.1
    obtain ⟨r, hr, hle, hall⟩ := rational?_foldl_older hfinite.2 hy
    have hqr : q ≤ r := by
      rcases List.mem_cons.1 hmem with rfl | hmem
      · cases hy.symm.trans value
        exact hle
      · exact hall x hmem q value
    have hgreatest := rational?_older hr Decimal.rational?_zero
    have hnanos : ((ceiling.nanos + 1 : Nat) : Rat) ≤ max r 0 * Duration.secondNanos := by
      rw [← div_le_iff₀ (Nat.cast_pos.2 (by decide))]
      exact beyond.trans (hqr.trans (le_max_left r 0))
    exact Duration.le_nanos_of_ofFloat? hd hgreatest hnanos
  | blank reply blank =>
    obtain ⟨y, ys, hxs, -⟩ := ofFloat?_of_age reply hage
    have hmem : y ∈ _ := hxs.symm ▸ List.mem_cons_self
    obtain ⟨p, hp, hy⟩ := List.mem_filterMap.1 hmem
    rw [blank p hp] at hy
    cases hy
  | failed reply =>
    unfold age at hage
    dsimp only at hage
    rw [reply] at hage
    cases hage

end Client
end Prometheus
end PriceOverlay
