import QuizBank.Proofs.Item.Drawing
import QuizBank.Proofs.Number.Interpolation
import QuizBank.Proofs.Number.Order
import QuizBank.Proofs.Number.Whole
import QuizBank.Proofs.Random.Fractions

/-!
# Bounds of ranges

A range with whole bounds is meant to give whole numbers from the least to the greatest, and any
other range numbers from the least up to, not including, the greatest (`InRange`). With exact
arithmetic each draw would give such a number. With doubles the lower bound holds, and the last
rounding can miss the upper one: a whole number can be one too great, and another number can be the
upper bound itself (`NearRange`). Numbers grow with their draws, so it is enough to look at the
greatest draw to know whether that happens. A range that is too wide for a double gives no finite
number.
-/

namespace QuizBank
namespace Sampling

open Number

/-! ### Where the numbers of a range lie -/

/-- The number of a range that a draw stands for. -/
def candidate (lo hi r : Float) : Float :=
  if isWhole lo && isWhole hi then wholeCandidate lo hi r else realCandidate lo hi r

/-- The number is one that the bounds promise. -/
@[irreducible] def InRange (lo hi x : Float) : Prop :=
  if isWhole lo && isWhole hi then isWhole x = true ∧ lo ≤ x ∧ x ≤ hi
  else if lo < hi then lo ≤ x ∧ x < hi
  else (x == lo) = true

instance (lo hi x : Float) : Decidable (InRange lo hi x) := by
  delta InRange
  infer_instance

/-- What rounding leaves of the bounds. -/
def NearRange (lo hi x : Float) : Prop :=
  lo ≤ x ∧ if isWhole lo && isWhole hi then isWhole x = true ∧ toInt x ≤ toInt hi + 1 else x ≤ hi

/-- The bounds are finite and in order, and these are their values. -/
structure Spans (lo hi : Float) (l h : ℚ) : Prop where
  value_lo : value? lo = some l
  value_hi : value? hi = some h
  le : l ≤ h

/-- The value that a draw stands for, with every operation rounded. -/
def point (whole : Bool) (l h q : ℚ) : ℚ :=
  if whole then ⌊wholePoint l h q⌋ else realPoint l h q

theorem point_mono (whole : Bool) {l h q q' : ℚ} (hle : l ≤ h) (hq : q ≤ q') :
    point whole l h q ≤ point whole l h q' := by
  cases whole with
  | false => exact realPoint_mono hle hq
  | true =>
    have hfloor : ⌊wholePoint l h q⌋ ≤ ⌊wholePoint l h q'⌋ := Int.floor_mono (wholePoint_mono hle hq)
    show (⌊wholePoint l h q⌋ : ℚ) ≤ ⌊wholePoint l h q'⌋
    exact_mod_cast hfloor

/-- The value is below the upper bound as the bounds promise. -/
def Within (whole : Bool) (l h p : ℚ) : Prop := if whole then p ≤ h else l < h → p < h

namespace Spans

variable {lo hi r : Float} {l h q : ℚ}

theorem representable_lo (hs : Spans lo hi l h) : Representable l :=
  representable_of_value? hs.value_lo

theorem representable_hi (hs : Spans lo hi l h) : Representable h :=
  representable_of_value? hs.value_hi

theorem whole_bounds (hs : Spans lo hi l h) (hwhole : (isWhole lo && isWhole hi) = true) :
    ∃ m n : ℤ, l = m ∧ h = n := by
  rw [Bool.and_eq_true] at hwhole
  obtain ⟨m, hm⟩ := (isWhole_iff hs.value_lo).1 hwhole.1
  obtain ⟨n, hn⟩ := (isWhole_iff hs.value_hi).1 hwhole.2
  exact ⟨m, n, hm, hn⟩

/-- A number with a value between the bounds, or not far above, is finite. -/
theorem abs_lt_overflow (hs : Spans lo hi l h) {p : ℚ} (hlow : l ≤ p) (hhigh : p < h + 2) :
    |p| < overflow := by
  have hl := abs_lt.1 (abs_lt_overflow_of_value? hs.value_lo)
  have hh := abs_lt.1 (abs_lt_overflow_of_value? hs.value_hi)
  have := hs.representable_hi.add_two_lt_overflow hh.2
  exact abs_lt.2 ⟨by linarith, by linarith⟩

/-! ### The width -/

theorem value?_width (hs : Spans lo hi l h) (hfinite : (hi - lo).isFinite = true) :
    value? (hi - lo) = some (rounded (h - l)) ∧ rounded (h - l) < overflow := by
  have hsub := value?_sub hs.value_hi hs.value_lo
  obtain ⟨w, hw⟩ := (isFinite_iff _).1 hfinite
  rw [hw] at hsub
  obtain ⟨hlt, rfl⟩ := abs_lt_of_limited hsub.symm
  exact ⟨hw, (abs_lt.1 hlt).2⟩

theorem width_nonneg (hs : Spans lo hi l h) : 0 ≤ rounded (h - l) :=
  le_rounded .zero (sub_nonneg.2 hs.le)

theorem value?_width_add_one (hs : Spans lo hi l h) (hfinite : (hi - lo).isFinite = true) :
    value? (hi - lo + 1) = some (rounded (rounded (h - l) + 1)) ∧
      rounded (rounded (h - l) + 1) < overflow := by
  obtain ⟨hwidth, hlt⟩ := hs.value?_width hfinite
  have hone : value? 1 = some 1 := by
    have h : Binary.ofFloat? 1 = some ⟨false, 2 ^ 52, -52⟩ := by decide +kernel
    rw [value?, h, Option.map_some, Binary.value]
    norm_num [withSign]
  have hlt' : rounded (rounded (h - l) + 1) < overflow := by
    have hnear := abs_rounded_sub_le (representable_rounded (h - l)) (rounded (h - l) + 1)
    rw [show rounded (h - l) - (rounded (h - l) + 1) = -1 by ring, abs_neg, abs_one] at hnear
    have := (abs_le.1 hnear).2
    have := (representable_rounded (h - l)).add_two_lt_overflow hlt
    linarith
  refine ⟨?_, hlt'⟩
  have hpos := rounded_width_add_one_pos hs.le
  rw [value?_add hwidth hone, limited_of_lt]
  exact abs_lt.2 ⟨by linarith, hlt'⟩

/-! ### The number of a draw -/

/-- A product with a draw is as finite as the other factor. -/
theorem value?_product {x : Float} {w : ℚ} (hr : value? r = some q) (hq : 0 ≤ q)
    (hq₁ : q ≤ 1 - 1 / 2 ^ 53) (hx : value? x = some w) (hw : 0 ≤ w) :
    value? (r * x) = some (rounded (q * w)) := by
  have hle := rounded_mul_le (representable_of_value? hx) hw (by linarith : q ≤ 1)
  have hnonneg := rounded_mul_nonneg hw hq
  have hlt := (abs_lt.1 (abs_lt_overflow_of_value? hx)).2
  rw [value?_mul hr hx, limited_of_lt]
  exact abs_lt.2 ⟨by linarith, by linarith⟩

theorem value?_realCandidate (hs : Spans lo hi l h) (hfinite : (hi - lo).isFinite = true)
    (hr : value? r = some q) (hq : 0 ≤ q) (hq₁ : q ≤ 1 - 1 / 2 ^ 53) :
    value? (realCandidate lo hi r) = some (realPoint l h q) := by
  have hwidth := (hs.value?_width hfinite).1
  have hproduct := value?_product hr hq hq₁ hwidth hs.width_nonneg
  have hlow := le_realPoint hs.representable_lo hs.le hq
  have hhigh := realPoint_le hs.representable_lo hs.representable_hi hs.le hq₁
  have hlimit := hs.abs_lt_overflow hlow (by linarith)
  rw [realCandidate, value?_add hs.value_lo hproduct]
  exact limited_of_lt hlimit

theorem wholePoint_bounds (hs : Spans lo hi l h) (hwhole : (isWhole lo && isWhole hi) = true)
    (hq : 0 ≤ q) (hq₁ : q ≤ 1 - 1 / 2 ^ 53) : l ≤ wholePoint l h q ∧ wholePoint l h q < h + 2 := by
  refine ⟨le_wholePoint hs.representable_lo hs.le hq, ?_⟩
  have hrep := hs.representable_hi
  have hle := hs.le
  obtain ⟨m, n, rfl, rfl⟩ := hs.whole_bounds hwhole
  exact wholePoint_lt hrep (by exact_mod_cast hle) hq₁

theorem value?_wholeCandidate (hs : Spans lo hi l h) (hwhole : (isWhole lo && isWhole hi) = true)
    (hfinite : (hi - lo).isFinite = true) (hr : value? r = some q) (hq : 0 ≤ q)
    (hq₁ : q ≤ 1 - 1 / 2 ^ 53) :
    value? (wholeCandidate lo hi r) = some (⌊wholePoint l h q⌋ : ℚ) := by
  have hwidth := (hs.value?_width_add_one hfinite).1
  have hpos := rounded_width_add_one_pos hs.le
  have hproduct := value?_product hr hq hq₁ hwidth (by linarith)
  obtain ⟨hlow, hhigh⟩ := hs.wholePoint_bounds hwhole hq hq₁
  have hlimit := hs.abs_lt_overflow hlow hhigh
  have hsum := value?_add hs.value_lo hproduct
  rw [show rounded (l + _) = wholePoint l h q from rfl, limited_of_lt hlimit] at hsum
  exact value?_floor hsum

theorem value?_candidate (hs : Spans lo hi l h) (hfinite : (hi - lo).isFinite = true)
    (hr : value? r = some q) (hq : 0 ≤ q) (hq₁ : q ≤ 1 - 1 / 2 ^ 53) :
    value? (candidate lo hi r) = some (point (isWhole lo && isWhole hi) l h q) := by
  rw [candidate, point]
  cases hwhole : isWhole lo && isWhole hi with
  | true => exact hs.value?_wholeCandidate hwhole hfinite hr hq hq₁
  | false => exact hs.value?_realCandidate hfinite hr hq hq₁

theorem le_point (hs : Spans lo hi l h) (hq : 0 ≤ q) :
    l ≤ point (isWhole lo && isWhole hi) l h q := by
  rw [point]
  cases hwhole : isWhole lo && isWhole hi with
  | false => exact le_realPoint hs.representable_lo hs.le hq
  | true =>
    have hlow := le_wholePoint hs.representable_lo hs.le hq
    obtain ⟨m, n, rfl, rfl⟩ := hs.whole_bounds hwhole
    have h : m ≤ ⌊wholePoint m n q⌋ := Int.le_floor.2 hlow
    show (m : ℚ) ≤ ⌊wholePoint m n q⌋
    exact_mod_cast h

/-- No value is beyond the upper bound of a range, but one whole number if the bounds are whole. -/
theorem point_le (hs : Spans lo hi l h) (hq : 0 ≤ q) (hq₁ : q ≤ 1 - 1 / 2 ^ 53) :
    point (isWhole lo && isWhole hi) l h q ≤ if isWhole lo && isWhole hi then h + 1 else h := by
  rw [point]
  cases hwhole : isWhole lo && isWhole hi with
  | false => exact realPoint_le hs.representable_lo hs.representable_hi hs.le hq₁
  | true =>
    have hhigh := (hs.wholePoint_bounds hwhole hq hq₁).2
    obtain ⟨m, n, rfl, rfl⟩ := hs.whole_bounds hwhole
    have hlt : ⌊wholePoint m n q⌋ < n + 2 := Int.floor_lt.2 (by exact_mod_cast hhigh)
    have hle : ⌊wholePoint m n q⌋ ≤ n + 1 := by omega
    show (⌊wholePoint m n q⌋ : ℚ) ≤ n + 1
    exact_mod_cast hle

theorem nearRange_candidate (hs : Spans lo hi l h) (hfinite : (hi - lo).isFinite = true)
    (hr : Draws.IsDraw r) : NearRange lo hi (candidate lo hi r) := by
  obtain ⟨q, hr, hq, hq₁⟩ := Draws.bounds_of_isDraw hr
  have hvalue := hs.value?_candidate hfinite hr hq hq₁
  have hlow := hs.le_point hq
  have hhigh := hs.point_le hq hq₁
  refine ⟨(le_iff hs.value_lo hvalue).2 hlow, ?_⟩
  cases hwhole : isWhole lo && isWhole hi with
  | false =>
    rw [hwhole] at hvalue hhigh
    exact (le_iff hvalue hs.value_hi).2 hhigh
  | true =>
    rw [hwhole] at hvalue hhigh
    have hle : (⌊wholePoint l h q⌋ : ℚ) ≤ h + 1 := hhigh
    have hhi := hs.value_hi
    obtain ⟨m, n, rfl, rfl⟩ := hs.whole_bounds hwhole
    refine ⟨(isWhole_iff hvalue).2 ⟨_, rfl⟩, ?_⟩
    rw [toInt_of_value? hvalue, toInt_of_value? hhi]
    exact_mod_cast hle

/-- Only the upper bound of a range can be missed. -/
theorem inRange_candidate_iff (hs : Spans lo hi l h) (hfinite : (hi - lo).isFinite = true)
    (hr : value? r = some q) (hq : 0 ≤ q) (hq₁ : q ≤ 1 - 1 / 2 ^ 53) :
    InRange lo hi (candidate lo hi r) ↔
      Within (isWhole lo && isWhole hi) l h (point (isWhole lo && isWhole hi) l h q) := by
  have hvalue := hs.value?_candidate hfinite hr hq hq₁
  have hlow := hs.le_point hq
  have hhigh := hs.point_le hq hq₁
  rw [InRange, Within, le_iff hs.value_lo hvalue, le_iff hvalue hs.value_hi,
    lt_iff hvalue hs.value_hi, beq_iff hvalue hs.value_lo]
  cases hwhole : isWhole lo && isWhole hi with
  | true =>
    rw [hwhole] at hvalue hlow
    simp only [if_true]
    exact ⟨fun h => h.2.2, fun h => ⟨(isWhole_iff hvalue).2 ⟨_, rfl⟩, hlow, h⟩⟩
  | false =>
    rw [hwhole] at hlow hhigh
    simp only [Bool.false_eq_true, if_false, lt_iff hs.value_lo hs.value_hi] at hhigh ⊢
    split
    · next hlt => exact ⟨fun h _ => h.2, fun h => ⟨hlow, h hlt⟩⟩
    · next hge => exact ⟨fun _ hlt => absurd hlt hge, fun _ => by linarith⟩

/-- A value below another one of the range is as the bounds promise. -/
theorem within_of_lt {q' : ℚ} (hs : Spans lo hi l h) (hq : 0 ≤ q') (hq₁ : q' ≤ 1 - 1 / 2 ^ 53)
    (hlt : point (isWhole lo && isWhole hi) l h q < point (isWhole lo && isWhole hi) l h q') :
    Within (isWhole lo && isWhole hi) l h (point (isWhole lo && isWhole hi) l h q) := by
  have hhigh := hs.point_le hq hq₁
  rw [Within]
  cases hwhole : isWhole lo && isWhole hi with
  | false =>
    rw [hwhole] at hlt hhigh
    exact fun _ => lt_of_lt_of_le hlt hhigh
  | true =>
    rw [hwhole] at hlt hhigh
    obtain ⟨m, n, rfl, rfl⟩ := hs.whole_bounds hwhole
    have hlt' : ⌊wholePoint m n q⌋ < n + 1 := by
      have h : (⌊wholePoint m n q⌋ : ℚ) < n + 1 := lt_of_lt_of_le hlt hhigh
      exact_mod_cast h
    have hle : ⌊wholePoint m n q⌋ ≤ n := by omega
    show (⌊wholePoint m n q⌋ : ℚ) ≤ n
    exact_mod_cast hle

end Spans

theorem within_of_le {whole : Bool} {l h p p' : ℚ} (hle : p ≤ p') (h' : Within whole l h p') :
    Within whole l h p := by
  cases whole with
  | true => exact le_trans hle h'
  | false => exact fun hlt => lt_of_le_of_lt hle (h' hlt)

/-- A range that is too wide for a double gives nothing finite. -/
theorem candidate_of_not_finite {lo hi : Float} (hfinite : (hi - lo).isFinite = false) (r : Float) :
    (candidate lo hi r).isFinite = false := by
  have hnone {x : Float} : x.isFinite = false ↔ value? x = none := by
    rw [← Bool.not_eq_true, isFinite_iff, ← Option.isSome_iff_exists, Option.not_isSome_iff_eq_none]
  rw [hnone] at hfinite ⊢
  rw [candidate]
  split
  · have hsum := value?_add_of_none (a := lo) (.inr (value?_mul_of_none r
      (value?_add_of_none (b := 1) (.inl hfinite))))
    rw [wholeCandidate, floor_of_none hsum, hsum]
  · exact value?_add_of_none (.inr (value?_mul_of_none r hfinite))

/-! ### What a range gives -/

/-- An accepted range has bounds with values, and its rule takes candidates. -/
theorem sample_of_bounds {spec : ParamSpec} {rule : Rule} {lo hi : Float}
    (hvalues : spec.values = none) (hbounds : spec.bounds? = some (lo, hi))
    (hrule : ParamSpec.resolve (some spec) = .ok rule) :
    (∃ l h, Spans lo hi l h) ∧
      ∀ name, sample name (some spec) = fromRange name (candidate lo hi) spec.exclude := by
  have hresolve := hrule
  simp only [ParamSpec.resolve, hvalues, hbounds] at hrule
  split at hrule
  · cases hrule
  · next hfinite =>
    split at hrule
    · cases hrule
    · next hcrossed =>
      rw [Bool.or_eq_true, Bool.not_eq_true', Bool.not_eq_true', not_or, Bool.not_eq_false,
        Bool.not_eq_false, isFinite_iff, isFinite_iff] at hfinite
      obtain ⟨⟨l, hl⟩, h, hh⟩ := hfinite
      refine ⟨⟨l, h, hl, hh, not_lt.1 fun hlt => hcrossed ((lt_iff hh hl).2 hlt)⟩, ?_⟩
      intro name
      funext s
      rw [sample, hresolve]
      split at hrule
      · next hwhole =>
        cases hrule
        show fromRange name (wholeCandidate lo hi) spec.exclude s = _
        congr 1
        funext r
        rw [candidate, if_pos hwhole]
      · next hwhole =>
        cases hrule
        show fromRange name (realCandidate lo hi) spec.exclude s = _
        congr 1
        funext r
        rw [candidate, if_neg hwhole]

theorem firstAllowed_eq_some {f : Float → Float} {excluded : List Value} {tries : ℕ} {s s' : Draws}
    {x : Float} (h : firstAllowed f excluded tries s = (some x, s')) :
    ∃ n, x = f (s.sequence n) ∧ isExcluded excluded x = false := by
  induction tries generalizing s with
  | zero => cases h
  | succ tries ih =>
    rw [firstAllowed] at h
    dsimp only at h
    split at h
    · exact ih (s := s.next.2) h
    · next hallowed =>
      cases h
      exact ⟨s.taken, rfl, by simpa using hallowed⟩

theorem fromRange_eq_ok {name : String} {f : Float → Float} {excluded : List Value} {s s' : Draws}
    {v : Value} (h : fromRange name f excluded s = (.ok v, s')) :
    ∃ n, v = .number (f (s.sequence n)) ∧ isExcluded excluded (f (s.sequence n)) = false := by
  rw [fromRange] at h
  split at h
  · next x s'' hfirst =>
    cases h
    obtain ⟨n, rfl, hallowed⟩ := firstAllowed_eq_some hfirst
    exact ⟨n, rfl, hallowed⟩
  · cases h

/-- Numbers of one value are excluded together. -/
theorem isExcluded_congr {excluded : List Value} {x y : Float} {q : ℚ} (hx : value? x = some q)
    (hy : value? y = some q) : isExcluded excluded x = isExcluded excluded y := by
  rw [isExcluded, isExcluded]
  congr 1
  funext v
  cases v with
  | bool b => rfl
  | text s => rfl
  | number n => exact beq_congr hx hy n

/-- A first candidate that is not excluded is what the range gives. -/
theorem fromRange_of_allowed {name : String} {f : Float → Float} {excluded : List Value} {s : Draws}
    (h : isExcluded excluded (f s.next.1) = false) :
    fromRange name f excluded s = (.ok (.number (f s.next.1)), s.next.2) := by
  have hfirst : firstAllowed f excluded maxTries s = (some (f s.next.1), s.next.2) := by
    show (if isExcluded excluded (f s.next.1) = true then _ else _) = _
    rw [h]
    rfl
  rw [fromRange, hfirst]

/-- **What a range gives.** Where the width is a double, every number is in the range but for the last
rounding, and all numbers are in the range exactly if the one of the greatest draw is, or is
excluded. Where the width is too large for a double, no number is finite. -/
theorem sample_range_bounds {spec : ParamSpec} {lo hi : Float} (hvalues : spec.values = none)
    (hbounds : spec.bounds? = some (lo, hi))
    (haccepted : ∃ rule, ParamSpec.resolve (some spec) = .ok rule) (name : String) :
    (∀ s : Draws, s.Proper → ∀ v s', sample name (some spec) s = (.ok v, s') →
      ∃ x, v = .number x ∧ lo ≤ hi ∧
        if (hi - lo).isFinite then NearRange lo hi x else x.isFinite = false) ∧
    ((hi - lo).isFinite = true →
      ((∀ s : Draws, s.Proper → ∀ x s', sample name (some spec) s = (.ok (.number x), s') →
          InRange lo hi x) ↔
        isExcluded spec.exclude (candidate lo hi Draws.greatest) = true ∨
          InRange lo hi (candidate lo hi Draws.greatest))) := by
  obtain ⟨rule, hrule⟩ := haccepted
  obtain ⟨⟨l, h, hs⟩, hsample⟩ := sample_of_bounds hvalues hbounds hrule
  refine ⟨?_, fun hfinite => ⟨?_, ?_⟩⟩
  · intro s hproper v s' hv
    rw [hsample] at hv
    obtain ⟨n, rfl, -⟩ := fromRange_eq_ok hv
    refine ⟨_, rfl, (le_iff hs.value_lo hs.value_hi).2 hs.le, ?_⟩
    split
    · next hfinite => exact hs.nearRange_candidate hfinite (hproper n)
    · next hfinite => exact candidate_of_not_finite (by simpa using hfinite) _
  · -- A stream that begins with the greatest number gives its candidate, unless that is excluded.
    intro hall
    by_cases hexcluded : isExcluded spec.exclude (candidate lo hi Draws.greatest) = true
    · exact .inl hexcluded
    · right
      apply hall (.start fun _ => Draws.greatest) fun _ => Draws.isDraw_fraction _
      rw [hsample]
      exact fromRange_of_allowed (Bool.not_eq_true _ ▸ hexcluded)
  · intro hgreatest s hproper x s' hx
    rw [hsample] at hx
    obtain ⟨n, hv, hallowed⟩ := fromRange_eq_ok hx
    cases hv
    obtain ⟨q, hr, hq, hq₁⟩ := Draws.bounds_of_isDraw (hproper n)
    have hmax : (0 : ℚ) ≤ 1 - 1 / 2 ^ 53 := by norm_num
    have hvalue := hs.value?_candidate hfinite hr hq hq₁
    have hvalue' := hs.value?_candidate hfinite Draws.value?_greatest hmax le_rfl
    have hle := point_mono (isWhole lo && isWhole hi) hs.le hq₁
    rw [hs.inRange_candidate_iff hfinite hr hq hq₁]
    rcases hgreatest with hexcluded | hin
    · -- The excluded number is another one, and therefore greater.
      refine hs.within_of_lt hmax le_rfl (lt_of_le_of_ne hle ?_)
      intro heq
      rw [heq] at hvalue
      rw [isExcluded_congr hvalue hvalue', hexcluded] at hallowed
      cases hallowed
    · rw [hs.inRange_candidate_iff hfinite Draws.value?_greatest hmax le_rfl] at hin
      exact within_of_le hle hin

/-- A digit. -/
def digit : ParamSpec := { min := some 0, max := some 9 }

theorem sample_range_bounds_digit :
    (sample "d" (some digit) (.ofSeed "s")).1 = .ok (.number 8) ∧ NearRange 0 9 8 ∧ InRange 0 9 8 := by
  have hvalues : digit.values = none := rfl
  have hbounds : digit.bounds? = some (0, 9) := rfl
  have haccepted : ParamSpec.resolve (some digit) = .ok (.whole 0 9) := by decide +kernel
  have hcandidate : wholeCandidate 0 9 (Draws.ofSeed "s").next.1 = 8 := by decide +kernel
  have hsample : sample "d" (some digit) (.ofSeed "s") =
      (.ok (.number 8), (Draws.ofSeed "s").next.2) := by
    rw [sample, haccepted, ← hcandidate]
    exact fromRange_nil "d" _ _
  have hwidth : ((9 : Float) - 0).isFinite = true := by decide +kernel
  have hgreatest : InRange 0 9 (candidate 0 9 Draws.greatest) := by decide +kernel
  have hproper := Draws.proper_ofSeed "s"
  obtain ⟨hnear, hiff⟩ := sample_range_bounds hvalues hbounds ⟨_, haccepted⟩ "d"
  refine ⟨by rw [hsample], ?_, (hiff hwidth).2 (.inr hgreatest) _ hproper _ _ hsample⟩
  obtain ⟨x, hx, -, hbound⟩ := hnear _ hproper _ _ hsample
  cases hx
  rw [if_pos hwidth] at hbound
  exact hbound

/-- With small bounds only the greatest draw goes beyond, and not with all of them. -/
example : candidate 1 2 Draws.greatest = 3 ∧ candidate 1 3 Draws.greatest = 3 := by decide +kernel

/-- One whole number, so great that a double near it has no place below 1. -/
def onlyOne : ParamSpec := { min := some 4503599627370497, max := some 4503599627370497 }

/-- The first draw of the seed is above a half, and the last rounding makes 1 of it. -/
theorem sample_above_max :
    ¬ ∀ (name : String) (spec : ParamSpec) (lo hi : Float) (s : Draws), spec.values = none →
      spec.bounds? = some (lo, hi) → (∃ rule, ParamSpec.resolve (some spec) = .ok rule) →
      s.Proper → ∀ x s', sample name (some spec) s = (.ok (.number x), s') → InRange lo hi x := by
  intro hclaim
  have haccepted : ParamSpec.resolve (some onlyOne) =
      .ok (.whole 4503599627370497 4503599627370497) := by decide +kernel
  have hcandidate : wholeCandidate 4503599627370497 4503599627370497 (Draws.ofSeed "s").next.1 =
      4503599627370498 := by decide +kernel
  have hsample : sample "n" (some onlyOne) (.ofSeed "s") =
      (.ok (.number 4503599627370498), (Draws.ofSeed "s").next.2) := by
    rw [sample, haccepted, ← hcandidate]
    exact fromRange_nil "n" _ _
  have hin := hclaim "n" onlyOne 4503599627370497 4503599627370497 (.ofSeed "s") rfl rfl
    ⟨_, haccepted⟩ (Draws.proper_ofSeed "s") _ _ hsample
  have hout : ¬ InRange 4503599627370497 4503599627370497 4503599627370498 := by decide +kernel
  exact hout hin

end Sampling
end QuizBank
