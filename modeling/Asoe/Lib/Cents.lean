-- Amounts of money as floats: the float nearest to each amount of cents, added
-- one after the other, with each partial sum rounded to cents or with the
-- difference of two sums rounded at the end.
import Asoe.Lib.FloatSums

open py PyFloat

namespace cents

/-- The float nearest to an amount of cents. -/
def amount (c : ℤ) : PyFloat := ofRat (c / 100)

/-- Up to this many cents the floats are closer than a cent. -/
def limit : ℤ := 800000000000000

theorem roundHalfEven_of_near {q : ℚ} {n : ℤ} (h : |q - n| < 1 / 2) : roundHalfEven q = n := by
  have hround := abs_le.mp (abs_roundHalfEven_sub q)
  obtain ⟨hlow, hhigh⟩ := abs_lt.mp h
  have hbelow : (roundHalfEven q : ℚ) < n + 1 := by linarith [hround.2]
  have habove : (n : ℚ) < roundHalfEven q + 1 := by linarith [hround.1]
  have hbelow' : roundHalfEven q < n + 1 := by exact_mod_cast hbelow
  have habove' : n < roundHalfEven q + 1 := by exact_mod_cast habove
  omega

theorem amount_near {c : ℤ} (h : |c| ≤ limit) :
    ∃ v, amount c = fin v ∧ |v - c / 100| ≤ 1 / 1024 ∧ |v| ≤ 8000000000001 := by
  have hcast : |(c : ℚ)| ≤ 800000000000000 := by exact_mod_cast h
  have hsize : |(c : ℚ) / 100| ≤ 8000000000000 := by
    rw [abs_div, abs_of_pos (by norm_num : (0 : ℚ) < 100), div_le_iff₀ (by norm_num)]
    linarith
  have hpower : |(c : ℚ) / 100| ≤ (2 : ℚ) ^ (43 : ℤ) := hsize.trans (by norm_num)
  obtain ⟨v, hv, hnear⟩ := ofRat_near (by norm_num) (by norm_num) hpower
  have hplace : (2 : ℚ) ^ ((43 : ℤ) - 53) = 1 / 1024 := by norm_num
  rw [hplace] at hnear
  refine ⟨v, hv, hnear, ?_⟩
  obtain ⟨hlow, hhigh⟩ := abs_le.mp hnear
  obtain ⟨hsmall, hlarge⟩ := abs_le.mp hsize
  exact abs_le.mpr ⟨by linarith, by linarith⟩

/-- One addition, rounded to cents, is exact. -/
theorem add_round {a b : ℤ} (ha : |a| ≤ limit) (hb : |b| ≤ limit) (hab : |a + b| ≤ limit) :
    ((amount a).add (amount b)).roundTo 2 = amount (a + b) := by
  obtain ⟨v, hv, hvnear, -⟩ := amount_near ha
  obtain ⟨w, hw, hwnear, -⟩ := amount_near hb
  have hcast : |((a + b : ℤ) : ℚ)| ≤ 800000000000000 := by exact_mod_cast hab
  obtain ⟨hvlow, hvhigh⟩ := abs_le.mp hvnear
  obtain ⟨hwlow, hwhigh⟩ := abs_le.mp hwnear
  obtain ⟨hlow, hhigh⟩ := abs_le.mp hcast
  push_cast at hlow hhigh
  have hsum : |v + w| ≤ (2 : ℚ) ^ (43 : ℤ) := by
    rw [abs_le]
    norm_num
    constructor <;> linarith
  obtain ⟨t, ht, htnear⟩ := ofRat_near (by norm_num) (by norm_num) hsum
  have hplace : (2 : ℚ) ^ ((43 : ℤ) - 53) = 1 / 1024 := by norm_num
  rw [hplace] at htnear
  obtain ⟨htlow, hthigh⟩ := abs_le.mp htnear
  have hround : roundHalfEven (t * 10 ^ 2) = a + b := by
    refine roundHalfEven_of_near (abs_lt.mpr ?_)
    push_cast
    constructor <;> linarith
  have hadd : (amount a).add (amount b) = fin t := by
    rw [hv, hw]
    exact ht
  rw [hadd, roundTo, hround, amount]
  norm_num

theorem amount_zero : amount 0 = fin 0 := by decide +kernel

/-- The amounts added one after the other. -/
def running (total : PyFloat) (xs : List PyFloat) : PyFloat :=
  xs.foldl (fun total x => (total.add x).roundTo 2) total

theorem running_cents {cs : List ℤ} {total : ℤ} (h : |total| + (cs.map (|·|)).sum ≤ limit) :
    running (amount total) (cs.map amount) = amount (total + cs.sum) := by
  induction cs generalizing total with
  | nil => simp [running]
  | cons c cs ih =>
    rw [List.map_cons, List.sum_cons] at h
    have hrest : 0 ≤ (cs.map (|·|)).sum :=
      List.sum_nonneg fun x hx => by
        obtain ⟨c, -, rfl⟩ := List.mem_map.mp hx
        exact abs_nonneg c
    have hnext : |total + c| ≤ |total| + |c| := abs_add_le total c
    have htotal := abs_nonneg total
    have hc := abs_nonneg c
    have hstep := add_round (a := total) (b := c) (by omega) (by omega) (by omega)
    rw [List.map_cons, running, List.foldl_cons, hstep]
    refine (ih (by omega)).trans ?_
    rw [List.sum_cons, add_assoc]

/-! ## Prices times counts -/

open float_sums

/-- The relative error of an amount. -/
theorem amount_rel {c : ℤ} (h : |c| ≤ limit) :
    ∃ v, amount c = fin v ∧ |v - c / 100| ≤ |(c : ℚ)| / 100 * (2 : ℚ) ^ (-52 : ℤ) := by
  by_cases hzero : c = 0
  · subst hzero
    exact ⟨0, amount_zero, by simp⟩
  · have hcast : |(c : ℚ)| ≤ 800000000000000 := by exact_mod_cast h
    have hone : (1 : ℚ) ≤ |(c : ℚ)| := by exact_mod_cast Int.one_le_abs hzero
    have habs : |(c : ℚ) / 100| = |(c : ℚ)| / 100 := by
      rw [abs_div, abs_of_pos (by norm_num : (0 : ℚ) < 100)]
    have hne : (c : ℚ) / 100 ≠ 0 := by
      rw [← abs_pos, habs]
      linarith
    obtain ⟨hlow, hhigh⟩ := exponentOf_bounds hne
    rw [habs] at hlow hhigh
    generalize exponentOf ((c : ℚ) / 100) = e at hlow hhigh
    have habove : -7 < e + 1 := by
      rw [← zpow_lt_zpow_iff_right₀ (by norm_num : (1 : ℚ) < 2)]
      refine lt_of_lt_of_le ?_ hhigh.le
      norm_num
      linarith
    have hbelow : e < 43 := by
      rw [← zpow_lt_zpow_iff_right₀ (by norm_num : (1 : ℚ) < 2)]
      refine lt_of_le_of_lt hlow ?_
      norm_num
      linarith
    obtain ⟨v, hv, hnear⟩ := ofRat_near (q := (c : ℚ) / 100) (n := e + 1) (by omega) (by omega)
      (by rw [habs]; exact hhigh.le)
    have hpower : (2 : ℚ) ^ (e + 1 - 53) = (2 : ℚ) ^ e * (2 : ℚ) ^ (-52 : ℤ) := by
      rw [← zpow_add₀ (by norm_num)]
      congr 1
      omega
    refine ⟨v, hv, hnear.trans ?_⟩
    rw [hpower]
    gcongr

/-- Up to this many cents, the sums of five hundred amounts are closer than a
cent. -/
def sum_limit : ℤ := 400000000000

theorem unit_33 : unit 33 = 1 / 1048576 := by
  unfold unit
  norm_num

theorem two_pow_33 : (2 : ℚ) ^ (33 : ℤ) = 8589934592 := by norm_num

theorem times_near {c k : ℤ} (hk : k ≠ 0) (h : |c * k| ≤ sum_limit) :
    NearTo (2 * unit 33) ((amount c).mul (.fin k)) ((c * k : ℤ) / 100) := by
  have hcast : |((c * k : ℤ) : ℚ)| ≤ 400000000000 := by exact_mod_cast h
  have hc : |c| ≤ limit := by
    have hone : 1 ≤ |k| := Int.one_le_abs hk
    have hle : |c| * 1 ≤ |c| * |k| := mul_le_mul_of_nonneg_left hone (abs_nonneg c)
    rw [abs_mul] at h
    unfold sum_limit at h
    unfold limit
    omega
  obtain ⟨v, hv, hnear⟩ := amount_rel hc
  have hunit := unit_33
  have hprod : |v * k - ((c * k : ℤ) : ℚ) / 100| ≤ unit 33 := by
    have heq : v * k - ((c * k : ℤ) : ℚ) / 100 = (v - c / 100) * k := by
      push_cast
      ring
    have hstep := mul_le_mul_of_nonneg_right hnear (abs_nonneg (k : ℚ))
    have hsame : |(c : ℚ)| / 100 * (2 : ℚ) ^ (-52 : ℤ) * |(k : ℚ)| =
        |((c * k : ℤ) : ℚ)| / 100 * (2 : ℚ) ^ (-52 : ℤ) := by
      push_cast
      rw [abs_mul]
      ring
    have hpower : (2 : ℚ) ^ (-52 : ℤ) = 1 / 4503599627370496 := by norm_num
    rw [heq, abs_mul, hunit]
    rw [hsame, hpower] at hstep
    linarith
  have hsize : |((c * k : ℤ) : ℚ) / 100| + unit 33 ≤ (2 : ℚ) ^ (33 : ℤ) := by
    rw [abs_div, abs_of_pos (by norm_num : (0 : ℚ) < 100), hunit, two_pow_33]
    linarith
  have hround := ofRat_nearTo (by norm_num) (by norm_num) hprod hsize
  have hmul : (amount c).mul (.fin k) = ofRat (v * k) := by
    rw [hv]
    rfl
  rw [hmul, two_mul]
  exact hround

/-- The products of prices and counts. -/
def products (xs : List (ℤ × ℤ)) : List PyFloat := xs.map fun x => (amount x.1).mul (.fin x.2)

/-- The exact sum of the products, in cents. -/
def cents_of (xs : List (ℤ × ℤ)) : ℤ := (xs.map fun x => x.1 * x.2).sum

theorem products_near {xs : List (ℤ × ℤ)} (hcount : ∀ x ∈ xs, x.2 ≠ 0)
    (hlength : xs.length ≤ 500) (hlimit : (xs.map fun x => |x.1 * x.2|).sum ≤ sum_limit) :
    NearTo (1500 * unit 33) (total (products xs)) (cents_of xs / 100) := by
  have hunit := unit_33
  have heach : ∀ x ∈ xs, |x.1 * x.2| ≤ sum_limit := fun x hx =>
    (List.single_le_sum (fun a ha => by
      obtain ⟨y, -, rfl⟩ := List.mem_map.mp ha
      exact abs_nonneg _) _ (List.mem_map_of_mem hx)).trans hlimit
  let es := xs.map fun x => ((x.1 * x.2 : ℤ) : ℚ) / 100
  have hnear : List.Forall₂ (NearTo (2 * unit 33)) (products xs) es := by
    unfold products
    rw [List.forall₂_map_left_iff, List.forall₂_map_right_iff, List.forall₂_same]
    exact fun x hx => times_near (hcount x hx) (heach x hx)
  have hexact : es.sum = cents_of xs / 100 := by
    simp only [es, cents_of]
    clear hnear heach hlimit hlength hcount es
    induction xs with
    | nil => simp
    | cons x xs ih =>
      rw [List.map_cons, List.sum_cons, ih, List.map_cons, List.sum_cons]
      push_cast
      ring
  have habs : (es.map (|·|)).sum = ((xs.map fun x => |x.1 * x.2|).sum : ℤ) / 100 := by
    simp only [es]
    clear hexact hnear heach hlimit hlength hcount es
    induction xs with
    | nil => simp
    | cons x xs ih =>
      simp only [List.map_cons, List.sum_cons, ih]
      push_cast
      rw [abs_div, abs_of_pos (by norm_num : (0 : ℚ) < 100)]
      ring
  have hcast : (((xs.map fun x => |x.1 * x.2|).sum : ℤ) : ℚ) ≤ 400000000000 := by
    exact_mod_cast hlimit
  have hcount' : ((products xs).length : ℚ) ≤ 500 := by
    rw [products, List.length_map]
    exact_mod_cast hlength
  have herr : ((products xs).length : ℚ) * (2 * unit 33 + unit 33) ≤ 1500 * unit 33 := by
    rw [hunit]
    linarith
  have hsize : (es.map (|·|)).sum + (products xs).length * (2 * unit 33 + unit 33) ≤
      (2 : ℚ) ^ (33 : ℤ) := by
    rw [hunit] at herr
    rw [habs, hunit, two_pow_33]
    linarith
  obtain ⟨v, hv, hsum⟩ := total_nearTo (by norm_num) (by norm_num) (by rw [hunit]; norm_num) hnear
    hsize
  rw [hexact] at hsum
  exact ⟨v, hv, hsum.trans herr⟩

theorem neg_near {err : ℚ} {x : PyFloat} {e : ℚ} (h : NearTo err x e) :
    NearTo err x.neg (-e) := by
  obtain ⟨v, rfl, hv⟩ := h
  refine ⟨-v, rfl, ?_⟩
  rw [← abs_neg]
  simpa [sub_eq_add_neg, add_comm] using hv

/-- The difference of two sums of moderate size is exact when it is rounded to
cents. -/
theorem difference_exact {xs ys : List (ℤ × ℤ)} (hx : ∀ x ∈ xs, x.2 ≠ 0) (hy : ∀ y ∈ ys, y.2 ≠ 0)
    (hxs : xs.length ≤ 500) (hys : ys.length ≤ 500)
    (hxlimit : (xs.map fun x => |x.1 * x.2|).sum ≤ sum_limit)
    (hylimit : (ys.map fun y => |y.1 * y.2|).sum ≤ sum_limit) :
    ((total (products xs)).sub (total (products ys))).roundTo 2 =
      amount (cents_of xs - cents_of ys) := by
  have hunit := unit_33
  have hbound : ∀ zs : List (ℤ × ℤ), |cents_of zs| ≤ (zs.map fun z => |z.1 * z.2|).sum := by
    intro zs
    unfold cents_of
    induction zs with
    | nil => simp
    | cons z zs ih =>
      rw [List.map_cons, List.sum_cons, List.map_cons, List.sum_cons]
      exact (abs_add_le _ _).trans (by omega)
  have hxabs := (hbound xs).trans hxlimit
  have hyabs := (hbound ys).trans hylimit
  have hxcast : |(cents_of xs : ℚ)| ≤ 400000000000 := by exact_mod_cast hxabs
  have hycast : |(cents_of ys : ℚ)| ≤ 400000000000 := by exact_mod_cast hyabs
  obtain ⟨hxlow, hxhigh⟩ := abs_le.mp hxcast
  obtain ⟨hylow, hyhigh⟩ := abs_le.mp hycast
  have hsize : |(cents_of xs : ℚ) / 100 + -((cents_of ys : ℚ) / 100)| +
      (1500 * unit 33 + 1500 * unit 33) ≤ (2 : ℚ) ^ (33 : ℤ) := by
    have habs : |(cents_of xs : ℚ) / 100 + -((cents_of ys : ℚ) / 100)| ≤ 8000000000 :=
      abs_le.mpr ⟨by linarith, by linarith⟩
    rw [hunit, two_pow_33]
    linarith
  obtain ⟨t, ht, htnear⟩ := add_nearTo (by norm_num) (by norm_num) (products_near hx hxs hxlimit)
    (neg_near (products_near hy hys hylimit)) hsize
  obtain ⟨htlow, hthigh⟩ := abs_le.mp htnear
  rw [hunit] at htlow hthigh
  have hround : roundHalfEven (t * 10 ^ 2) = cents_of xs - cents_of ys := by
    refine roundHalfEven_of_near (abs_lt.mpr ?_)
    push_cast
    constructor <;> linarith
  rw [sub, ht, roundTo, hround, amount]
  norm_num

end cents
