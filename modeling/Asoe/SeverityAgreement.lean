-- How the first Shadow verdict and the recipe agree on the severity of one
-- event: each of them computes the same ratio and compares it for itself.
import Asoe.Graph
import Asoe.RegisteredRecipes
import Asoe.Lib.FloatOrder

namespace asoe

open py prog

/-! ## What a recipe says -/

def SEVERE_CLASSES : List String := ["SEVERE_GAP", "SEVERE", "SEVERE_SHORTFALL"]

/-- The recipe found the event severe. -/
def ClassifiedSevere (outputs : PyDict) : Prop :=
  ∃ classification ∈ SEVERE_CLASSES,
    dict.get outputs "classification" = some (.str classification)

/-- The recipe turned its inputs down. -/
def InputsRefused (outputs : PyDict) : Prop := dict.get outputs "status" = some (.str "FAILED")

/-- The outputs are severe in the one case, and refused in the other. -/
def Judged (severe refused : Prop) (outputs : PyDict) : Prop :=
  (ClassifiedSevere outputs ↔ severe) ∧ (InputsRefused outputs ↔ refused)

theorem judged_refused {severe refused : Prop} {outputs : PyDict}
    (hclass : dict.get outputs "classification" = some .none)
    (hstatus : dict.get outputs "status" = some (.str "FAILED")) (hrefused : refused)
    (hsevere : severe → ¬ refused) : Judged severe refused outputs := by
  constructor
  · simp only [ClassifiedSevere, hclass]
    constructor
    · rintro ⟨_, -, heq⟩
      cases heq
    · intro hs
      exact absurd hrefused (hsevere hs)
  · simp [InputsRefused, hstatus, hrefused]

theorem judged_of_class {severe refused : Prop} {outputs : PyDict} {classification status : String}
    (hclass : dict.get outputs "classification" = some (.str classification))
    (hstatus : dict.get outputs "status" = some (.str status)) (hne : status ≠ "FAILED")
    (hrefused : ¬ refused) (hsevere : classification ∈ SEVERE_CLASSES ↔ severe) :
    Judged severe refused outputs := by
  constructor
  · rw [← hsevere]
    simp [ClassifiedSevere, hclass]
  · simp [InputsRefused, hstatus, hne, hrefused]

/-! ## Ratios -/

theorem div?_of_pos {x y : PyFloat} (hy : (PyFloat.fin 0).lt y = true) :
    x.div? y = some (quotient x y) := by
  cases y with
  | nan => cases hy
  | inf s => cases x <;> rfl
  | fin b =>
    have hb : b ≠ 0 := by
      intro hzero
      simp [PyFloat.lt, hzero] at hy
    cases x <;> simp [quotient, PyFloat.div?, hb]

theorem quotient_nonpos {x y : PyFloat} (hy : (PyFloat.fin 0).lt y = true)
    (hx : (PyFloat.fin 0).lt x = false) : (PyFloat.fin 0).lt (quotient x y) = false := by
  cases y with
  | nan => cases hy
  | inf s =>
    cases x with
    | nan | inf _ | fin _ => rfl
  | fin b =>
    have hb : 0 < b := by simpa [PyFloat.lt] using hy
    cases x with
    | nan => simp [quotient, PyFloat.div?, hb.ne', PyFloat.lt]
    | inf s =>
      cases s
      · cases hx
      · simp [quotient, PyFloat.div?, hb.ne', hb.le, PyFloat.lt]
    | fin a =>
      have ha : a ≤ 0 := by simpa [PyFloat.lt] using hx
      have hle := PyFloat.ofRat_nonpos (div_nonpos_of_nonpos_of_nonneg ha hb.le)
      simpa [quotient, PyFloat.div?, hb.ne'] using PyFloat.not_zero_lt_of_le hle

theorem zero_lt_of_quotient {x y : PyFloat} (hy : y.le (.fin 0) = false)
    (h : (PyFloat.fin 0).lt (quotient x y) = true) : (PyFloat.fin 0).lt x = true := by
  rcases PyFloat.pos_or_nan hy with hpos | hnan
  · by_contra hx
    rw [quotient_nonpos hpos (by simpa using hx)] at h
    cases h
  · rw [hnan] at h
    cases x <;> cases h

theorem share_of_pos {gap whole : PyFloat} (h : (PyFloat.fin 0).lt whole = true) :
    share_of (.float gap) (.float whole) = .ok (.float (quotient gap whole)) := by
  simp [share_of, compare_float_zero, PyVal.CmpOp.holds, h, div_float, div?_of_pos h, bind,
    Except.bind]

theorem max_zero_eq_zero (x : PyFloat) :
    (PyVal.float ((PyFloat.fin 0).max x)).eq (.int 0) = !(PyFloat.fin 0).lt x := by
  unfold PyFloat.max
  cases h : (PyFloat.fin 0).lt x with
  | false => rfl
  | true =>
    cases x with
    | nan => cases h
    | inf s => rfl
    | fin a =>
      have ha : 0 < a := by simpa [PyFloat.lt] using h
      simp [PyVal.eq, PyVal.eqNumber, PyVal.number?, ha.ne]

/-! ## Back order -/

theorem either_ok (a b : Bool) : either (.ok a) (.ok b) = .ok (a || b) := by
  cases a <;> rfl

theorem max_zero_of_lt {x : PyFloat} (h : (PyFloat.fin 0).lt x = true) :
    (PyFloat.fin 0).max x = x := by
  simp [PyFloat.max, h]

theorem zero_lt_of_reached {thr x : PyFloat} (hthr : (PyFloat.fin 0).lt thr = true)
    (h : thr.le x = true) : (PyFloat.fin 0).lt x = true := by
  cases thr with
  | nan => cases hthr
  | inf s => cases s <;> cases x <;> simp_all [PyFloat.le, PyFloat.lt, PyFloat.eq]
  | fin t =>
    cases x with
    | nan => cases h
    | inf s => simpa [PyFloat.le, PyFloat.lt, PyFloat.eq] using h
    | fin a =>
      simp only [PyFloat.le, PyFloat.lt, PyFloat.eq, Bool.or_eq_true, decide_eq_true_eq,
        PyFloat.fin.injEq] at *
      exact lt_of_lt_of_le hthr (h.elim le_of_lt le_of_eq)

theorem le_max_zero {thr x : PyFloat} (hthr : (PyFloat.fin 0).lt thr = true) :
    thr.le ((PyFloat.fin 0).max x) = thr.le x := by
  unfold PyFloat.max
  split
  · rfl
  · rename_i hx
    have hfirst : thr.le (.fin 0) = false := PyFloat.le_eq_false_of_le_zero hthr rfl
    have hsecond : thr.le x = false := by
      by_contra hreached
      exact hx (zero_lt_of_reached hthr (by simpa using hreached))
    rw [hfirst, hsecond]

/-- The share that is missing is severe. -/
def GapSevere (ordered available : PyFloat) : Prop :=
  ordered.le (.fin 0) = false ∧ available.lt (.fin 0) = false ∧
    BACK_ORDER_SEVERE_GAP_PCT.le
      ((PyFloat.fin 0).max (quotient (ordered.sub available) ordered)) = true

theorem zero_lt_severe_gap : (PyFloat.fin 0).lt BACK_ORDER_SEVERE_GAP_PCT = true := by
  decide +kernel

theorem zero_lt_of_gap {ordered available : PyFloat} (ho : ordered.le (.fin 0) = false)
    (hgap : (PyFloat.fin 0).lt (ordered.sub available) = true) :
    (PyFloat.fin 0).lt ordered = true := by
  rcases PyFloat.pos_or_nan ho with hpos | hnan
  · exact hpos
  · rw [hnan] at hgap
    cases hgap

theorem resolve_back_order_judged (order_id sku uom warehouses substitutes : PyVal)
    (ordered available unit_price : PyFloat) :
    returns (resolve_back_order order_id sku (.float ordered) (.float available)
        (.float unit_price) uom (.float BACK_ORDER_SEVERE_GAP_PCT) warehouses substitutes)
      (Judged (GapSevere ordered available)
        (ordered.le (.fin 0) = true ∨ available.lt (.fin 0) = true)) := by
  unfold resolve_back_order
  simp only [compare_float_zero, PyVal.CmpOp.holds, either_ok, sub_float]
  rw [ok_bind rfl]
  refine returns_ite (fun hrefused => ?_) fun hrefused => ?_
  · refine (returns_pure _).mpr (judged_refused (by simp [dict.get_cons])
      (by simp [dict.get_cons]) (by simpa using hrefused) ?_)
    rintro ⟨ho, ha, -⟩
    simp [ho, ha]
  obtain ⟨ho, ha⟩ : ordered.le (.fin 0) = false ∧ available.lt (.fin 0) = false := by
    simpa using hrefused
  have hrefused : ¬ (ordered.le (.fin 0) = true ∨ available.lt (.fin 0) = true) := by
    simp [ho, ha]
  rw [ok_bind rfl, ok_bind (maxZero_float _)]
  by_cases hgap : (PyFloat.fin 0).lt (ordered.sub available) = true
  · have hordered := zero_lt_of_gap ho hgap
    rw [max_zero_of_lt hgap, ok_bind (share_of_pos hordered)]
    refine returns_bind fun _ _ => returns_bind fun at_risk _ => ?_
    have hthere : (PyVal.float (ordered.sub available)).eq (.int 0) = false := by
      simpa [max_zero_of_lt hgap, hgap] using max_zero_eq_zero (ordered.sub available)
    simp only [hthere, compare_float, PyVal.CmpOp.holds]
    rw [if_neg Bool.false_ne_true, ok_bind rfl]
    refine returns_bind fun options _ => returns_bind fun gap_qty _ => ?_
    refine returns_bind fun gap_pct _ => (returns_pure _).mpr ?_
    have hsevere : GapSevere ordered available ↔
        BACK_ORDER_SEVERE_GAP_PCT.le (quotient (ordered.sub available) ordered) = true := by
      simp [GapSevere, ho, ha, le_max_zero zero_lt_severe_gap]
    refine judged_of_class (by simp [dict.get_cons]; rfl) (by simp [dict.get_cons]; rfl) ?_
      hrefused ?_
    · split <;> decide
    · rw [hsevere]
      split <;> simp_all [SEVERE_CLASSES]
  · refine returns_bind fun _ _ => returns_bind fun _ _ => returns_bind fun _ _ => ?_
    have hnone :
        (PyVal.float ((PyFloat.fin 0).max (ordered.sub available))).eq (.int 0) = true := by
      simpa [max_zero_eq_zero] using hgap
    refine returns_ite (fun _ => ?_) fun hsome => absurd hnone hsome
    refine (returns_pure _).mpr (judged_of_class (by simp [dict.get_cons]; rfl)
      (by simp [dict.get_cons]; rfl) (by decide) hrefused ?_)
    refine iff_of_false (by decide) ?_
    rintro ⟨-, -, hsevere⟩
    rw [le_max_zero zero_lt_severe_gap] at hsevere
    exact hgap (zero_lt_of_quotient ho (zero_lt_of_reached zero_lt_severe_gap hsevere))

/-! ## Over the maximum -/

/-- The share over the ceiling is severe. -/
def ExcessSevere (total max_qty : PyFloat) : Prop :=
  total.le (.fin 0) = false ∧ max_qty.le (.fin 0) = false ∧
    OVER_MAX_SEVERE_EXCEEDANCE_PCT.lt
      ((PyFloat.fin 0).max (quotient (total.sub max_qty) max_qty)) = true

theorem zero_le_severe_exceedance :
    (PyFloat.fin 0).le OVER_MAX_SEVERE_EXCEEDANCE_PCT = true := by
  decide +kernel

theorem lt_max_zero {thr x : PyFloat} (hthr : (PyFloat.fin 0).le thr = true) :
    thr.lt ((PyFloat.fin 0).max x) = thr.lt x := by
  unfold PyFloat.max
  split
  · rfl
  · rename_i hx
    have hfirst : thr.lt (.fin 0) = false := by
      by_contra hlt
      cases PyFloat.zero_lt_of_lt hthr (by simpa using hlt)
    have hsecond : thr.lt x = false := by
      by_contra hlt
      exact hx (PyFloat.zero_lt_of_lt hthr (by simpa using hlt))
    rw [hfirst, hsecond]

theorem trim_over_max_judged (order_id lines costs : PyVal) (total max_qty : PyFloat) :
    returns (trim_over_max order_id (.float total) (.float max_qty)
        (.float OVER_MAX_SEVERE_EXCEEDANCE_PCT) lines costs)
      (Judged (ExcessSevere total max_qty)
        (total.le (.fin 0) = true ∨ max_qty.le (.fin 0) = true)) := by
  unfold trim_over_max
  simp only [compare_float_zero, PyVal.CmpOp.holds, either_ok, sub_float]
  rw [ok_bind rfl]
  refine returns_ite (fun hrefused => ?_) fun hrefused => ?_
  · refine (returns_pure _).mpr (judged_refused (by simp [dict.get_cons])
      (by simp [dict.get_cons]) (by simpa using hrefused) ?_)
    rintro ⟨ht, hm, -⟩
    simp [ht, hm]
  obtain ⟨ht, hm⟩ : total.le (.fin 0) = false ∧ max_qty.le (.fin 0) = false := by
    simpa using hrefused
  have hrefused : ¬ (total.le (.fin 0) = true ∨ max_qty.le (.fin 0) = true) := by simp [ht, hm]
  rw [ok_bind rfl, ok_bind (maxZero_float _)]
  by_cases hexcess : (PyFloat.fin 0).lt (total.sub max_qty) = true
  · have hmax : (PyFloat.fin 0).lt max_qty = true := by
      rcases PyFloat.pos_or_nan hm with hpos | hnan
      · exact hpos
      · rw [hnan] at hexcess
        cases total <;> cases hexcess
    rw [max_zero_of_lt hexcess, ok_bind (share_of_pos hmax)]
    have hthere : (PyVal.float (total.sub max_qty)).eq (.int 0) = false := by
      simpa [max_zero_of_lt hexcess, hexcess] using max_zero_eq_zero (total.sub max_qty)
    simp only [hthere, compare_float, PyVal.CmpOp.holds]
    rw [if_neg Bool.false_ne_true, ok_bind rfl]
    refine returns_bind fun plan _ => returns_bind fun trimmed _ => ?_
    refine returns_bind fun at_risk _ => returns_bind fun excess _ => ?_
    refine returns_bind fun exceedance _ => (returns_pure _).mpr ?_
    have hsevere : ExcessSevere total max_qty ↔
        OVER_MAX_SEVERE_EXCEEDANCE_PCT.lt (quotient (total.sub max_qty) max_qty) = true := by
      simp [ExcessSevere, ht, hm, lt_max_zero zero_le_severe_exceedance]
    refine judged_of_class (by simp [dict.get_cons]; rfl) (by simp [dict.get_cons]; rfl) ?_
      hrefused ?_
    · split <;> decide
    · rw [hsevere]
      split <;> simp_all [SEVERE_CLASSES]
  · refine returns_bind fun _ _ => ?_
    have hnone : (PyVal.float ((PyFloat.fin 0).max (total.sub max_qty))).eq (.int 0) = true := by
      simpa [max_zero_eq_zero] using hexcess
    refine returns_ite (fun _ => ?_) fun hsome => absurd hnone hsome
    refine (returns_pure _).mpr (judged_of_class (by simp [dict.get_cons]; rfl)
      (by simp [dict.get_cons]; rfl) (by decide) hrefused ?_)
    refine iff_of_false (by decide) ?_
    rintro ⟨-, -, hsevere⟩
    rw [lt_max_zero zero_le_severe_exceedance] at hsevere
    exact hexcess (zero_lt_of_quotient hm
      (PyFloat.zero_lt_of_lt zero_le_severe_exceedance hsevere))

/-! ## Minimum order quantity -/

/-- The share that is short of the minimum is severe. -/
def ShortfallSevere (ordered moq : PyFloat) : Prop :=
  moq.le (.fin 0) = false ∧ ordered.lt (.fin 0) = false ∧ moq.le ordered = false ∧
    MOQ_SEVERE_SHORTFALL_PCT.le (quotient (moq.sub ordered) moq) = true

theorem div_float_pos {x y : PyFloat} (hy : y.le (.fin 0) = false) :
    (PyVal.float x).div (.float y) = .ok (.float (quotient x y)) := by
  rcases PyFloat.pos_or_nan hy with hpos | hnan
  · simp [div_float, div?_of_pos hpos]
  · rw [hnan]
    cases x <;> rfl

theorem uplift_of_float (uplift ordered : PyFloat) :
    ∃ pct, uplift_of (.float uplift) (.float ordered) = .ok (.float pct) := by
  unfold uplift_of
  simp only [compare_float_zero, PyVal.CmpOp.holds]
  rw [ok_bind rfl]
  cases hpos : (PyFloat.fin 0).lt ordered with
  | false => exact ⟨_, rfl⟩
  | true => exact ⟨_, by rw [if_pos rfl, div_float, div?_of_pos hpos]⟩

theorem uplift_review_float (severe : Bool) (ordered pct limit : PyFloat) :
    ∃ review, uplift_review severe (.float ordered) (.float pct) (.float limit) = .ok review := by
  unfold uplift_review
  simp only [compare_float_zero, compare_float]
  cases severe with
  | true => exact ⟨_, rfl⟩
  | false =>
    rw [if_neg Bool.false_ne_true, ok_bind rfl]
    split <;> exact ⟨_, rfl⟩

theorem rounded_uplift_float (pct : PyFloat) : ∃ v, rounded_uplift (.float pct) = .ok v := by
  unfold rounded_uplift
  split <;> exact ⟨_, rfl⟩

/-- The round-up never raises on numbers. -/
theorem round_up_moq_judged (order_id sku uom : PyVal) (ordered moq unit_cost uplift : PyFloat) :
    ∃ outputs, round_up_moq order_id sku (.float ordered) (.float moq) (.float unit_cost) uom
        (.float MOQ_SEVERE_SHORTFALL_PCT) (.float uplift) = .ok outputs ∧
      Judged (ShortfallSevere ordered moq)
        (moq.le (.fin 0) = true ∨ ordered.lt (.fin 0) = true) outputs := by
  have hguard : either ((PyVal.float moq).compare .le (.int 0))
      ((PyVal.float ordered).compare .lt (.int 0)) =
        .ok (moq.le (.fin 0) || ordered.lt (.fin 0)) := by
    rw [compare_float_zero, compare_float_zero, either_ok]
    rfl
  have hge : (PyVal.float ordered).compare .ge (.float moq) = .ok (moq.le ordered) :=
    compare_float _ _ _
  unfold round_up_moq
  rw [ok_bind hguard]
  by_cases hrefused : moq.le (.fin 0) = true ∨ ordered.lt (.fin 0) = true
  · rw [if_pos (by simpa using hrefused)]
    refine ⟨_, rfl,
      judged_refused (by simp [dict.get_cons]) (by simp [dict.get_cons]) hrefused ?_⟩
    rintro ⟨hm, ho, -, -⟩
    simp [hm, ho]
  obtain ⟨hm, ho⟩ : moq.le (.fin 0) = false ∧ ordered.lt (.fin 0) = false := by
    simpa using hrefused
  rw [if_neg (by simp [hm, ho]), ok_bind hge]
  by_cases hmet : moq.le ordered = true
  · rw [if_pos hmet]
    refine ⟨_, rfl, judged_of_class (by simp [dict.get_cons]; rfl) (by simp [dict.get_cons]; rfl)
      (by decide) hrefused ?_⟩
    refine iff_of_false (by decide) ?_
    rintro ⟨-, -, hshort, -⟩
    rw [hmet] at hshort
    cases hshort
  obtain ⟨severe, hreached⟩ :
      ∃ severe, MOQ_SEVERE_SHORTFALL_PCT.le (quotient (moq.sub ordered) moq) = severe :=
    ⟨_, rfl⟩
  have hcompare : (PyVal.float (quotient (moq.sub ordered) moq)).compare .ge
      (.float MOQ_SEVERE_SHORTFALL_PCT) = .ok severe := by
    rw [compare_float, ← hreached]
    rfl
  have hsevere : ShortfallSevere ordered moq ↔ severe = true := by
    simp [ShortfallSevere, hm, ho, hmet, hreached]
  obtain ⟨pct, hpct⟩ := uplift_of_float (moq.sub ordered) ordered
  obtain ⟨review, hreview⟩ := uplift_review_float severe ordered pct uplift
  obtain ⟨rounded, hrounded⟩ := rounded_uplift_float pct
  rw [if_neg hmet, ok_bind (sub_float _ _), ok_bind (div_float_pos hm), ok_bind hpct,
    ok_bind (mul_float _ _), ok_bind (round_float _ _), ok_bind hcompare, ok_bind hreview,
    ok_bind (round_float _ _),
    ok_bind (format_float _ _), ok_bind (round_float _ _), ok_bind hrounded]
  refine ⟨_, rfl, judged_of_class (by simp [dict.get_cons]; rfl) (by simp [dict.get_cons]; rfl) ?_
    hrefused ?_⟩
  · cases severe <;> decide
  · rw [hsevere]
    cases severe <;> decide

/-! ## The Shadow -/

/-- The Shadow returns a verdict, and it is RED in just this case. -/
def RedIff (severe : Prop) (verdict : Except PyErr ShadowDecision) : Prop :=
  ∃ decision, verdict = .ok decision ∧ (decision.status = .RED ↔ severe)

variable {event : OrderEvent}

theorem shadow_for_back_order_red {ordered available : PyFloat}
    (hordered : metadata_float event "ordered_qty" = .ok ordered)
    (havailable : metadata_float event "available_qty" = .ok available) :
    RedIff (ordered.le (.fin 0) = false ∧ BACK_ORDER_SEVERE_GAP_PCT.le
        ((PyFloat.fin 0).max (quotient (ordered.sub available) ordered)) = true)
      (shadow_for_back_order event) := by
  unfold shadow_for_back_order
  rw [ok_bind hordered, ok_bind havailable]
  by_cases ho : ordered.le (.fin 0) = true
  · rw [if_pos ho]
    exact ⟨_, rfl, by simp [ho]⟩
  · rw [if_neg ho]
    dsimp only
    split
    · rename_i hsevere
      exact ⟨_, rfl, by simp [ho, hsevere]⟩
    · rename_i hsevere
      exact ⟨_, rfl, by simp [hsevere]⟩

theorem shadow_for_over_max_red {total max_qty : PyFloat}
    (htotal : metadata_float event "total_ordered" = .ok total)
    (hmax : metadata_float event "max_qty" = .ok max_qty) :
    RedIff (max_qty.le (.fin 0) = false ∧ OVER_MAX_SEVERE_EXCEEDANCE_PCT.lt
        ((PyFloat.fin 0).max (quotient (total.sub max_qty) max_qty)) = true)
      (shadow_for_over_max event) := by
  unfold shadow_for_over_max
  rw [ok_bind htotal, ok_bind hmax]
  by_cases hm : max_qty.le (.fin 0) = true
  · rw [if_pos hm]
    exact ⟨_, rfl, by simp [hm]⟩
  · rw [if_neg hm]
    dsimp only
    split
    · rename_i hsevere
      exact ⟨_, rfl, by simp [hm, hsevere]⟩
    · rename_i hsevere
      exact ⟨_, rfl, by simp [hsevere]⟩

theorem shadow_for_moq_red {ordered moq : PyFloat}
    (hordered : metadata_float event "ordered_qty" = .ok ordered)
    (hmoq : metadata_float event "moq_qty" = .ok moq) :
    RedIff (moq.le (.fin 0) = false ∧ moq.le ordered = false ∧
        MOQ_SEVERE_SHORTFALL_PCT.le (quotient (moq.sub ordered) moq) = true)
      (shadow_for_moq event) := by
  unfold shadow_for_moq
  rw [ok_bind hordered, ok_bind hmoq]
  by_cases hm : moq.le (.fin 0) = true
  · rw [if_pos hm]
    exact ⟨_, rfl, by simp [hm]⟩
  by_cases hmet : moq.le ordered = true
  · rw [if_neg hm, if_pos hmet]
    exact ⟨_, rfl, by simp [hmet]⟩
  · rw [if_neg hm, if_neg hmet]
    dsimp only
    split
    · rename_i hsevere
      exact ⟨_, rfl, by simp [hm, hmet, hsevere]⟩
    · rename_i hsevere
      exact ⟨_, rfl, by simp [hsevere]⟩

/-! ## The parameters -/

theorem back_order_params_ok {event : OrderEvent} {params : PyDict}
    (h : back_order_params event = .ok params) (from_iso : FromIso) :
    ∃ ordered available unit_price,
      metadata_float event "ordered_qty" = .ok ordered ∧
      metadata_float event "available_qty" = .ok available ∧
      registered_recipe from_iso .BackOrderResolutionRecipe params =
        resolve_back_order (.str event.order_id) (sku_of event) (.float ordered)
          (.float available) (.float unit_price) ((metadata_get event "uom").or (.str "CS"))
          (.float BACK_ORDER_SEVERE_GAP_PCT) (metadata_get event "alternate_warehouses")
          (metadata_get event "substitutes") := by
  unfold back_order_params at h
  cases hordered : metadata_float event "ordered_qty" with
  | error e => simp [hordered, error_bind] at h
  | ok ordered =>
    cases havailable : metadata_float event "available_qty" with
    | error e => simp [hordered, havailable, ok_bind, error_bind] at h
    | ok available =>
      cases hprice : metadata_float event "unit_price" with
      | error e => simp [hordered, havailable, hprice, ok_bind, error_bind] at h
      | ok unit_price =>
        rw [hordered, havailable, hprice] at h
        cases h
        exact ⟨ordered, available, unit_price, rfl, rfl, rfl⟩

theorem over_max_params_ok {event : OrderEvent} {params : PyDict}
    (h : over_max_params event = .ok params) (from_iso : FromIso) :
    ∃ total max_qty,
      metadata_float event "total_ordered" = .ok total ∧
      metadata_float event "max_qty" = .ok max_qty ∧
      registered_recipe from_iso .OverMaxTrimRecipe params =
        trim_over_max (.str event.order_id) (.float total) (.float max_qty)
          (.float OVER_MAX_SEVERE_EXCEEDANCE_PCT) (metadata_get event "order_lines")
          (metadata_get event "unit_cost_per_line") := by
  unfold over_max_params at h
  cases htotal : metadata_float event "total_ordered" with
  | error e => simp [htotal, error_bind] at h
  | ok total =>
    cases hmax : metadata_float event "max_qty" with
    | error e => simp [htotal, hmax, ok_bind, error_bind] at h
    | ok max_qty =>
      rw [htotal, hmax] at h
      cases h
      exact ⟨total, max_qty, rfl, rfl, rfl⟩

theorem moq_params_ok {event : OrderEvent} {params : PyDict}
    (h : moq_params event = .ok params) (from_iso : FromIso) :
    ∃ ordered moq unit_cost,
      metadata_float event "ordered_qty" = .ok ordered ∧
      metadata_float event "moq_qty" = .ok moq ∧
      registered_recipe from_iso .MOQRoundUpRecipe params =
        round_up_moq (.str event.order_id) (sku_of event) (.float ordered) (.float moq)
          (.float unit_cost) ((metadata_get event "uom").or (.str "CS"))
          (.float MOQ_SEVERE_SHORTFALL_PCT) (.float MOQ_UPLIFT_REVIEW_PCT) := by
  unfold moq_params at h
  cases hordered : metadata_float event "ordered_qty" with
  | error e => simp [hordered, error_bind] at h
  | ok ordered =>
    cases hmoq : metadata_float event "moq_qty" with
    | error e => simp [hordered, hmoq, ok_bind, error_bind] at h
    | ok moq =>
      cases hcost : metadata_float event "unit_cost" with
      | error e => simp [hordered, hmoq, hcost, ok_bind, error_bind] at h
      | ok unit_cost =>
        rw [hordered, hmoq, hcost] at h
        cases h
        exact ⟨ordered, moq, unit_cost, rfl, rfl, rfl⟩

/-! ## The agreement on quantities -/

/-- The recipe is severe only under RED, and RED without an outcome of the
recipe that is severe or refused is an exception of the recipe. -/
def SeverityAgrees (verdict : Except PyErr ShadowDecision) (run : Except PyErr PyDict) : Prop :=
  (∀ outputs, run = .ok outputs → ClassifiedSevere outputs →
    ∃ decision, verdict = .ok decision ∧ decision.status = .RED) ∧
  ∀ decision, verdict = .ok decision → decision.status = .RED →
    (∃ exc, run = .error exc) ∨
      ∃ outputs, run = .ok outputs ∧ (ClassifiedSevere outputs ∨ InputsRefused outputs)

theorem agree_of_judged {red severe refused : Prop} {verdict : Except PyErr ShadowDecision}
    {run : Except PyErr PyDict} (hred : RedIff red verdict)
    (hrun : returns run (Judged severe refused)) (hsevere : severe → red)
    (hopen : red → ¬ refused → severe) : SeverityAgrees verdict run := by
  obtain ⟨decision, hverdict, hstatus⟩ := hred
  refine ⟨?_, ?_⟩
  · intro outputs hout hclass
    exact ⟨decision, hverdict, hstatus.mpr (hsevere ((hrun outputs hout).1.mp hclass))⟩
  · intro other hother hstop
    obtain rfl : decision = other := by
      rw [hverdict] at hother
      exact Except.ok.inj hother
    rcases hrunning : run with exc | outputs
    · exact Or.inl ⟨exc, rfl⟩
    · obtain ⟨hclass, hfailed⟩ := hrun outputs hrunning
      refine Or.inr ⟨outputs, rfl, ?_⟩
      by_cases hrefused : refused
      · exact Or.inr (hfailed.mpr hrefused)
      · exact Or.inl (hclass.mpr (hopen (hstatus.mp hstop) hrefused))

theorem back_order_agrees {params : PyDict}
    (h : back_order_params event = .ok params) (from_iso : FromIso) :
    SeverityAgrees (shadow_for_back_order event)
      (registered_recipe from_iso .BackOrderResolutionRecipe params) := by
  obtain ⟨ordered, available, unit_price, hordered, havailable, hrun⟩ :=
    back_order_params_ok h from_iso
  rw [hrun]
  refine agree_of_judged (shadow_for_back_order_red hordered havailable)
    (resolve_back_order_judged _ _ _ _ _ _ _ _) ?_ ?_
  · rintro ⟨ho, -, hsevere⟩
    exact ⟨ho, hsevere⟩
  · rintro ⟨ho, hsevere⟩ hopen
    exact ⟨ho, by simpa [ho] using hopen, hsevere⟩

theorem over_max_agrees {params : PyDict}
    (h : over_max_params event = .ok params) (from_iso : FromIso) :
    SeverityAgrees (shadow_for_over_max event)
      (registered_recipe from_iso .OverMaxTrimRecipe params) := by
  obtain ⟨total, max_qty, htotal, hmax, hrun⟩ := over_max_params_ok h from_iso
  rw [hrun]
  refine agree_of_judged (shadow_for_over_max_red htotal hmax) (trim_over_max_judged _ _ _ _ _)
    ?_ ?_
  · rintro ⟨-, hm, hsevere⟩
    exact ⟨hm, hsevere⟩
  · rintro ⟨hm, hsevere⟩ hopen
    exact ⟨by simpa [hm] using hopen, hm, hsevere⟩

theorem moq_agrees {params : PyDict} (h : moq_params event = .ok params) (from_iso : FromIso) :
    SeverityAgrees (shadow_for_moq event) (registered_recipe from_iso .MOQRoundUpRecipe params) ∧
      ∃ outputs, registered_recipe from_iso .MOQRoundUpRecipe params = .ok outputs := by
  obtain ⟨ordered, moq, unit_cost, hordered, hmoq, hrun⟩ := moq_params_ok h from_iso
  rw [hrun]
  obtain ⟨outputs, hout, hjudged⟩ := round_up_moq_judged (.str event.order_id) (sku_of event)
    ((metadata_get event "uom").or (.str "CS")) ordered moq unit_cost MOQ_UPLIFT_REVIEW_PCT
  refine ⟨?_, outputs, hout⟩
  rw [hout]
  refine agree_of_judged (shadow_for_moq_red hordered hmoq) ((returns_ok _).mpr hjudged) ?_ ?_
  · rintro ⟨hm, -, hshort, hsevere⟩
    exact ⟨hm, hshort, hsevere⟩
  · rintro ⟨hm, hshort, hsevere⟩ hopen
    exact ⟨hm, by simpa [hm] using hopen, hshort, hsevere⟩

/-- The intents whose recipes compare a share of a quantity with a limit. -/
def QUANTITY_INTENTS : List Intent := [.BACK_ORDER, .OVER_MAX, .MIN_ORDER_QTY]

/-- The check of a quantity intent. -/
def quantity_check (intent : Intent) (event : OrderEvent) : Except PyErr ShadowDecision :=
  match intent with
  | .BACK_ORDER => shadow_for_back_order event
  | .OVER_MAX => shadow_for_over_max event
  | _ => shadow_for_moq event

theorem few_lines_of_quantity (h : (classify_intent event).intent ∈ QUANTITY_INTENTS) :
    ¬ event.line_count > MASS_UPDATE_LINE_COUNT_THRESHOLD := by
  intro hlines
  simp [classify_intent, hlines, QUANTITY_INTENTS] at h

theorem shadow_decision_quantity {intent : Intent} {variance : PyFloat}
    (hquantity : intent ∈ QUANTITY_INTENTS)
    (hlines : ¬ event.line_count > MASS_UPDATE_LINE_COUNT_THRESHOLD)
    (hvariance : ¬ CIRCUIT_BREAKER_MAX_VARIANCE.lt variance = true) :
    shadow_decision intent variance event = quantity_check intent event := by
  simp only [QUANTITY_INTENTS, List.mem_cons, List.not_mem_nil, or_false] at hquantity
  rcases hquantity with rfl | rfl | rfl <;>
    simp [shadow_decision, quantity_check, hlines, hvariance]

theorem shadow_decision_variance (intent : Intent) (event : OrderEvent) {variance : PyFloat}
    (hvariance : CIRCUIT_BREAKER_MAX_VARIANCE.lt variance = true) :
    ∃ decision, shadow_decision intent variance event = .ok decision ∧
      decision.status = .RED := by
  unfold shadow_decision
  split
  · exact ⟨_, rfl, rfl⟩
  · exact ⟨_, rfl, rfl⟩

/-- The invocation of a state holds the parameters of its recipe. -/
theorem validate_types_invocation {state checked : GraphState} {name : RecipeName}
    {invocation : RecipeInvocation} (hselected : state.selected_recipe = some name)
    (hguard : ¬ (name = .PriceHoldReleaseRecipe ∧
      state.event.sap_base_price.le (.fin 0) = true))
    (hchecked : validate_types state = .ok checked)
    (hinvocation : checked.invocation = some invocation) :
    invocation.recipe_name = name ∧ invocation_params state name = .ok invocation.params := by
  unfold validate_types at hchecked
  simp only [hselected, hguard, if_false] at hchecked
  cases hparams : invocation_params state name with
  | error e =>
    rw [hparams] at hchecked
    cases hchecked
  | ok params =>
    rw [hparams] at hchecked
    cases hchecked
    cases hinvocation
    exact ⟨rfl, rfl⟩

/-- The Shadow and the recipe of a quantity intent agree on severity, but
for a batch over the limit of the breaker, which is RED by itself, and for a
recipe that raises on the options of the order. -/
theorem quantity_severity_agrees (from_iso : FromIso) (state : GraphState)
    (hintent : state.intent = (classify_intent state.event).intent)
    (hquantity : state.intent ∈ QUANTITY_INTENTS)
    (hselected : state.selected_recipe = propose_recipe state.intent)
    {checked : GraphState} {invocation : RecipeInvocation}
    (hchecked : validate_types state = .ok checked)
    (hinvocation : checked.invocation = some invocation) :
    let verdict := shadow_decision state.intent state.batch_total_variance state.event
    let run := registered_recipe from_iso invocation.recipe_name invocation.params
    (∀ outputs, run = .ok outputs → ClassifiedSevere outputs →
      ∃ decision, verdict = .ok decision ∧ decision.status = .RED) ∧
    ∀ decision, verdict = .ok decision → decision.status = .RED →
      CIRCUIT_BREAKER_MAX_VARIANCE.lt state.batch_total_variance = true ∨
      (state.intent ≠ .MIN_ORDER_QTY ∧ ∃ exc, run = .error exc) ∨
      ∃ outputs, run = .ok outputs ∧ (ClassifiedSevere outputs ∨ InputsRefused outputs) := by
  dsimp only
  have hlines := few_lines_of_quantity (hintent ▸ hquantity)
  by_cases hvariance : CIRCUIT_BREAKER_MAX_VARIANCE.lt state.batch_total_variance = true
  · refine ⟨fun _ _ _ => shadow_decision_variance _ _ hvariance, ?_⟩
    intro _ _ _
    exact Or.inl hvariance
  rw [shadow_decision_quantity hquantity hlines hvariance]
  simp only [QUANTITY_INTENTS, List.mem_cons, List.not_mem_nil, or_false] at hquantity
  rcases hquantity with heq | heq | heq <;> simp only [heq, propose_recipe] at hselected ⊢
  · obtain ⟨hname, hparams⟩ :=
      validate_types_invocation hselected (by simp) hchecked hinvocation
    obtain ⟨hsevere, hred⟩ := back_order_agrees hparams from_iso
    rw [hname]
    refine ⟨hsevere, ?_⟩
    intro decision hverdict hstop
    rcases hred decision hverdict hstop with hexc | hout
    · exact Or.inr (Or.inl ⟨by decide, hexc⟩)
    · exact Or.inr (Or.inr hout)
  · obtain ⟨hname, hparams⟩ :=
      validate_types_invocation hselected (by simp) hchecked hinvocation
    obtain ⟨hsevere, hred⟩ := over_max_agrees hparams from_iso
    rw [hname]
    refine ⟨hsevere, ?_⟩
    intro decision hverdict hstop
    rcases hred decision hverdict hstop with hexc | hout
    · exact Or.inr (Or.inl ⟨by decide, hexc⟩)
    · exact Or.inr (Or.inr hout)
  · obtain ⟨hname, hparams⟩ :=
      validate_types_invocation hselected (by simp) hchecked hinvocation
    obtain ⟨⟨hsevere, hred⟩, outputs, hreturns⟩ := moq_agrees hparams from_iso
    rw [hname]
    refine ⟨hsevere, ?_⟩
    intro decision hverdict hstop
    rcases hred decision hverdict hstop with ⟨exc, hexc⟩ | hout
    · rw [hreturns] at hexc
      cases hexc
    · exact Or.inr (Or.inr hout)

/-- A back order of a hundred of which nothing is there. -/
def emptyStock (alternate_warehouses : PyVal) : OrderEvent :=
  { order_id := "4711", event_type := "BACK_ORDER_OOS", po_price := .fin 10,
    sap_base_price := .fin 10,
    metadata := [("ordered_qty", .int 100), ("available_qty", .int 0),
      ("alternate_warehouses", alternate_warehouses)] }

/-- A back order of a hundred of which ninety are there. -/
def smallGap : OrderEvent :=
  { emptyStock .none with
    metadata := [("ordered_qty", .int 100), ("available_qty", .int 90)] }

/-- The state in which an event's parameters are built. -/
def selectedState (event : OrderEvent) (variance : PyFloat) : GraphState :=
  { event := event, intent := (classify_intent event).intent
    selected_recipe := propose_recipe (classify_intent event).intent
    batch_total_variance := variance }

theorem quantity_severity_agrees_empty_stock :
    ∃ checked, validate_types (selectedState (emptyStock .none) (.fin 0)) = .ok checked ∧
      ∃ invocation ∈ checked.invocation, ∃ outputs,
        registered_recipe (fun _ => .ok 0) invocation.recipe_name invocation.params =
          .ok outputs ∧ ClassifiedSevere outputs ∧
        ∃ decision, shadow_decision .BACK_ORDER (.fin 0) (emptyStock .none) = .ok decision ∧
          decision.status = .RED := by
  obtain ⟨checked, hchecked, invocation, hinvocation, outputs, hrun, hclass⟩ :
      ∃ checked, validate_types (selectedState (emptyStock .none) (.fin 0)) = .ok checked ∧
        ∃ invocation ∈ checked.invocation, ∃ outputs,
          registered_recipe (fun _ => .ok 0) invocation.recipe_name invocation.params =
            .ok outputs ∧ dict.get outputs "classification" = some (.str "SEVERE_GAP") := by
    decide +kernel
  have hsevere : ClassifiedSevere outputs := ⟨"SEVERE_GAP", by decide, hclass⟩
  refine ⟨checked, hchecked, invocation, hinvocation, outputs, hrun, hsevere, ?_⟩
  exact (quantity_severity_agrees (fun _ => .ok 0) (selectedState (emptyStock .none) (.fin 0))
    (by decide +kernel) (by decide +kernel) (by decide +kernel) hchecked hinvocation).1
    outputs hrun hsevere

/-- A warehouse that is not a record makes the recipe raise under RED, and a
batch over the limit of the breaker is RED on a small gap. -/
theorem severity_can_disagree :
    (∃ checked, validate_types (selectedState (emptyStock (.list [.str "x"])) (.fin 0)) =
        .ok checked ∧
      ∃ invocation ∈ checked.invocation,
        registered_recipe (fun _ => .ok 0) invocation.recipe_name invocation.params =
          .error ⟨"AttributeError", "'str' object has no attribute 'get'"⟩ ∧
        ∃ decision, shadow_decision .BACK_ORDER (.fin 0) (emptyStock (.list [.str "x"])) =
          .ok decision ∧ decision.status = .RED) ∧
    ∃ checked, validate_types (selectedState smallGap (.fin 20000)) = .ok checked ∧
      ∃ invocation ∈ checked.invocation,
        (∃ outputs, registered_recipe (fun _ => .ok 0) invocation.recipe_name invocation.params =
          .ok outputs ∧ dict.get outputs "classification" = some (.str "MINOR_GAP") ∧
          dict.get outputs "status" = some (.str "REVIEW_REQUIRED")) ∧
        ∃ decision, shadow_decision .BACK_ORDER (.fin 20000) smallGap = .ok decision ∧
          decision.status = .RED := by
  decide +kernel

end asoe
