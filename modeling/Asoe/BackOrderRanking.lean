-- The ranking of the resolution options of a back order: every alternative
-- that covers the gap is offered once, and the cheaper freight first as long
-- as the rounded scores tell two freights apart.
import Asoe.QuantityRecipes
import Asoe.SeverityAgreement
import Asoe.Lib.FloatMonotone
import Asoe.Lib.StableSort
import Asoe.Lib.Traverse
import Mathlib.Data.List.ReduceOption

namespace asoe

open py prog stable_sort

/-! ## What can cover the gap -/

/-- The quantity under the key is a number, and no smaller than the gap. -/
def covers (gap : PyFloat) (key : String) (v : PyVal) : Bool :=
  match get_float v key with
  | .ok qty => gap.le qty
  | .error _ => false

/-- The entries of a list that cover the gap, each with its index. -/
def covering (gap : PyFloat) (key : String) (vs : List PyVal) : List (PyVal × ℕ) :=
  vs.zipIdx.filter fun v => covers gap key v.1

def freight_of (gap : PyFloat) (dc : PyVal) : PyFloat :=
  match get_float dc "freight_delta_per_unit" with
  | .ok freight_delta => (freight_delta.mul gap).roundTo 2
  | .error _ => .nan

/-- The option of a warehouse: its place in the list, and its total freight. -/
def OfWarehouse (gap : PyFloat) (dc : PyVal × ℕ) (o : ResolutionOption) : Prop :=
  o.id = "alt-dc-" ++ toString (dc.2 + 1) ∧ o.kind = .ALT_DC ∧ o.extra_cost = freight_of gap dc.1

def OfSubstitute (sub : PyVal × ℕ) (o : ResolutionOption) : Prop :=
  o.id = "substitute-" ++ toString (sub.2 + 1) ∧ o.kind = .SUBSTITUTE

/-- One of two warehouses has the higher total freight. -/
def dearer (a b : ResolutionOption) : Prop :=
  a.kind = .ALT_DC ∧ b.kind = .ALT_DC ∧ b.extra_cost.lt a.extra_cost = true

/-- Every warehouse and every substitute that covers the gap is offered once,
with the two standing options and nothing else, and no warehouse is ranked
after a dearer one. -/
structure OptionsRight (gap : PyFloat) (warehouses substitutes : List PyVal)
    (options : List ResolutionOption) : Prop where
  offered : ∃ alt subs, options.Perm (alt ++ subs ++ standing_options) ∧
    List.Forall₂ (OfWarehouse gap) (covering gap "qty" warehouses) alt ∧
    List.Forall₂ OfSubstitute (covering gap "available_qty" substitutes) subs
  ranked : options.Pairwise fun a b => ¬ dearer a b

/-- The `resolution_options` of a result are these. -/
def Lists (out : PyDict) (options : List ResolutionOption) : Prop :=
  dict.get out "resolution_options" = some (.list (options.map (·.toVal)))

/-! ## When the scores tell the freights apart -/

def order_value (gap unit_price : PyFloat) : PyFloat :=
  (unit_price.mul gap).add (lit (1 / 1000000000))

/-- The score of a warehouse, from its total freight. -/
def freight_score (gap unit_price total_freight : PyFloat) : PyFloat :=
  score (lit (85 / 100)) (lit 1) ((total_freight.div? (order_value gap unit_price)).getD .nan)

/-- No quantity is a NaN, and no warehouse is listed before a cheaper one whose
score, rounded to four places, is the same. -/
structure ToldApart (gap unit_price : PyFloat) (warehouses substitutes : List PyVal) : Prop where
  warehouse : ∀ dc ∈ warehouses, get_float dc "qty" ≠ .ok .nan
  substitute : ∀ sub ∈ substitutes, get_float sub "available_qty" ≠ .ok .nan
  scores : (covering gap "qty" warehouses).Pairwise fun dc dc' =>
    (freight_of gap dc'.1).lt (freight_of gap dc.1) = true →
      freight_score gap unit_price (freight_of gap dc.1) ≠
        freight_score gap unit_price (freight_of gap dc'.1)

/-! ## The sort by score -/

theorem sortsBy_score {options : List ResolutionOption}
    (hscores : ∀ o ∈ options, o.composite_score ≠ .nan) :
    SortsBy (fun a b : ResolutionOption => PyFloat.lt a.composite_score b.composite_score = false)
      (fun o => OrderDual.toDual o.composite_score.place) options := by
  intro a ha b hb
  rw [OrderDual.toDual_le_toDual, ← not_lt, ← PyFloat.lt_iff_place (hscores a ha) (hscores b hb),
    Bool.not_eq_true]

/-! ## The freight in the score -/

theorem freight_weights : ∃ a c : ℚ, 0 < c ∧ lit (15 / 100) = .fin c ∧
    ((lit (1 / 2)).mul (lit (85 / 100))).add ((lit (35 / 100)).mul (lit 1)) = .fin a :=
  ⟨1745144855606067 / 2251799813685248, 5404319552844595 / 36028797018963968, by norm_num,
    by decide +kernel, by decide +kernel⟩

/-- The value of an order is a positive number, if it is a number at all. -/
theorem order_value_pos {gap unit_price : PyFloat} (hgap : (PyFloat.fin 0).lt gap = true)
    (hprice : (PyFloat.fin 0).le unit_price = true) :
    order_value gap unit_price = .nan ∨ order_value gap unit_price = .inf false ∨
      ∃ v : ℚ, 0 < v ∧ order_value gap unit_price = .fin v := by
  have hnonneg : (unit_price.mul gap) = .nan ∨ (PyFloat.fin 0).le (unit_price.mul gap) = true := by
    rcases unit_price with _ | s | u
    · exact Or.inl rfl
    · obtain rfl : s = false := by simpa [PyFloat.le, PyFloat.lt, PyFloat.eq] using hprice
      rcases gap with _ | t | g
      · exact Or.inl rfl
      · obtain rfl : t = false := by simpa [PyFloat.lt] using hgap
        exact Or.inr rfl
      · have hg : 0 < g := by simpa [PyFloat.lt] using hgap
        right
        simp [PyFloat.mul, hg.ne', hg.not_gt, PyFloat.le, PyFloat.lt]
    · have hu : 0 ≤ u := PyFloat.le_fin.mp hprice
      rcases gap with _ | t | g
      · exact Or.inl rfl
      · obtain rfl : t = false := by simpa [PyFloat.lt] using hgap
        rcases hu.eq_or_lt with rfl | hpos
        · exact Or.inl rfl
        · right
          simp [PyFloat.mul, hpos.ne', hpos.not_gt, PyFloat.le, PyFloat.lt]
      · have hg : 0 < g := by simpa [PyFloat.lt] using hgap
        exact Or.inr (PyFloat.ofRat_mono le_rfl (mul_nonneg hu hg.le))
  obtain ⟨e, he, hepos, hexact⟩ :
      ∃ e : ℚ, lit (1 / 1000000000) = .fin e ∧ 0 < e ∧ PyFloat.ofRat (e + 0) = .fin e :=
    ⟨4835703278458517 / 4835703278458516698824704, by decide +kernel, by norm_num,
      by decide +kernel⟩
  unfold order_value
  rw [he]
  rcases hnonneg with hnan | hpos
  · rw [hnan]
    exact Or.inl rfl
  · have hcomm : (unit_price.mul gap).add (.fin e) = PyFloat.add (.fin e) (unit_price.mul gap) := by
      cases unit_price.mul gap <;> simp [PyFloat.add, add_comm]
    have hle := PyFloat.add_le (a := e) hpos
    rw [hcomm]
    rw [show PyFloat.add (.fin e) (.fin 0) = .fin e from hexact] at hle
    generalize PyFloat.add (.fin e) (unit_price.mul gap) = x at hle ⊢
    rcases x with _ | s | v
    · exact Or.inl rfl
    · obtain rfl : s = false := by simpa [PyFloat.le, PyFloat.lt, PyFloat.eq] using hle
      exact Or.inr (Or.inl rfl)
    · exact Or.inr (Or.inr ⟨v, hepos.trans_le (PyFloat.le_fin.mp hle), rfl⟩)

/-- A higher freight is not scored better. -/
theorem freight_score_antitone {gap unit_price x y : PyFloat}
    (hgap : (PyFloat.fin 0).lt gap = true) (hprice : (PyFloat.fin 0).le unit_price = true)
    (hx : freight_score gap unit_price x ≠ .nan) (hy : freight_score gap unit_price y ≠ .nan)
    (h : x.le y = true) :
    (freight_score gap unit_price y).le (freight_score gap unit_price x) = true := by
  obtain ⟨a, c, hc, hweight, hbase⟩ := freight_weights
  have hscore : ∀ z, freight_score gap unit_price z =
      (PyFloat.sub (.fin a) (PyFloat.mul (.fin c)
        ((z.div? (order_value gap unit_price)).getD .nan))).roundTo 4 := by
    intro z
    rw [freight_score, score, hweight, hbase]
  rw [hscore] at hx hy ⊢
  rw [hscore]
  refine PyFloat.roundTo_le (PyFloat.sub_le (PyFloat.mul_le hc ?_))
  rcases order_value_pos hgap hprice with hnan | hinf | ⟨v, hv, hvalue⟩
  · rw [hnan] at hx
    cases x <;> exact absurd rfl hx
  · rw [hinf] at hx hy ⊢
    cases x <;> cases y <;> first | exact absurd rfl hx | exact absurd rfl hy | rfl
  · rw [hvalue]
    exact PyFloat.div_le hv h

/-! ## What is offered -/

/-- The source skips an entry whose quantity is below the gap, and a NaN is not. -/
def not_below (gap : PyFloat) (key : String) (v : PyVal × ℕ) : Bool :=
  match get_float v.1 key with
  | .ok qty => !qty.lt gap
  | .error _ => false

def substitute_score (sub : PyVal) : PyFloat :=
  match get_float sub "price_delta_pct", get_float sub "acceptance_rate" with
  | .ok price_delta_pct, .ok acceptance_rate =>
    score acceptance_rate ((lit 1).sub price_delta_pct.abs) (price_delta_pct.abs.mul (lit (1 / 2)))
  | _, _ => .nan

/-- An entry is skipped, or it gives an option. -/
def Gives (skips : Bool) (Q : ResolutionOption → Prop) (r : Option ResolutionOption) : Prop :=
  (skips = false ∧ r = none) ∨ (skips = true ∧ ∃ o, r = some o ∧ Q o)

theorem warehouse_option_gives (gap unit_price : PyFloat) (dc : PyVal × ℕ) :
    returns (warehouse_option (.float gap) (.float unit_price) dc.2 dc.1)
      (Gives (not_below gap "qty" dc) fun o => OfWarehouse gap dc o ∧
        o.composite_score = freight_score gap unit_price (freight_of gap dc.1)) := by
  unfold warehouse_option
  refine returns_bind fun qty hqty => returns_bind fun below hbelow => ?_
  have hskip : not_below gap "qty" dc = !qty.lt gap := by simp [not_below, hqty]
  rw [compare_float] at hbelow
  obtain rfl : qty.lt gap = below := Except.ok.inj hbelow
  refine returns_ite (fun hlow => ?_) fun hlow => ?_
  · exact (returns_pure _).mpr (Or.inl ⟨by rw [hskip, hlow]; rfl, rfl⟩)
  · refine returns_bind fun freight_delta hdelta => returns_bind fun product hproduct => ?_
    obtain rfl : PyVal.float (freight_delta.mul gap) = product := Except.ok.inj hproduct
    refine returns_bind fun rounded hrounded => returns_bind fun total htotal => ?_
    obtain rfl : PyVal.float ((freight_delta.mul gap).roundTo 2) = rounded :=
      Except.ok.inj hrounded
    obtain rfl : (freight_delta.mul gap).roundTo 2 = total := Except.ok.inj htotal
    refine returns_bind fun plant _ => returns_bind fun source _ => returns_bind fun eta _ => ?_
    refine returns_bind fun price hprice => returns_bind fun value hvalue => ?_
    obtain rfl : PyVal.float (unit_price.mul gap) = price := Except.ok.inj hprice
    obtain rfl : PyVal.float (order_value gap unit_price) = value := Except.ok.inj hvalue
    refine returns_bind fun quotient hquotient => returns_bind fun penalty hpenalty => ?_
    have hfreight : freight_of gap dc.1 = (freight_delta.mul gap).roundTo 2 := by
      simp [freight_of, hdelta]
    rw [div_float] at hquotient
    split at hquotient
    · rename_i z hz
      obtain rfl : PyVal.float z = quotient := Except.ok.inj hquotient
      obtain rfl : z = penalty := Except.ok.inj hpenalty
      refine (returns_pure _).mpr (Or.inr ⟨by rw [hskip, Bool.eq_false_of_not_eq_true hlow]; rfl,
        _, rfl, ⟨rfl, rfl, hfreight.symm⟩, ?_⟩)
      rw [freight_score, hfreight, hz, Option.getD_some]
    · cases hquotient

theorem substitute_option_gives (gap unit_price : PyFloat) (sub : PyVal × ℕ) :
    returns (substitute_option (.float gap) (.float unit_price) sub.2 sub.1)
      (Gives (not_below gap "available_qty" sub) fun o => OfSubstitute sub o ∧
        o.composite_score = substitute_score sub.1) := by
  unfold substitute_option
  refine returns_bind fun qty hqty => returns_bind fun below hbelow => ?_
  have hskip : not_below gap "available_qty" sub = !qty.lt gap := by simp [not_below, hqty]
  rw [compare_float] at hbelow
  obtain rfl : qty.lt gap = below := Except.ok.inj hbelow
  refine returns_ite (fun hlow => ?_) fun hlow => ?_
  · exact (returns_pure _).mpr (Or.inl ⟨by rw [hskip, hlow]; rfl, rfl⟩)
  · refine returns_bind fun price_delta hdelta => returns_bind fun acceptance hacceptance => ?_
    refine returns_bind fun sku _ => returns_bind fun substitute_sku _ => ?_
    refine returns_bind fun _ _ => returns_bind fun _ _ => returns_bind fun _ _ => ?_
    refine returns_bind fun extra_cost _ => (returns_pure _).mpr (Or.inr
      ⟨by rw [hskip, Bool.eq_false_of_not_eq_true hlow]; rfl, _, rfl, ⟨rfl, rfl⟩, ?_⟩)
    simp only [substitute_score, hdelta, hacceptance]

theorem given_forall₂ {give : PyVal × ℕ → Except PyErr (Option ResolutionOption)}
    {keep : PyVal × ℕ → Bool} {Q : PyVal × ℕ → ResolutionOption → Prop}
    (hgives : ∀ v, returns (give v) (Gives (keep v) (Q v))) (vs : List (PyVal × ℕ)) :
    returns (vs.mapM give) fun rs => List.Forall₂ Q (vs.filter keep) rs.reduceOption := by
  intro rs hrs
  have hall := mapM_ok_iff.mp hrs
  clear hrs
  induction hall with
  | nil => exact List.Forall₂.nil
  | @cons v r vs rs hr _ ih =>
    rcases hgives v r hr with ⟨hskip, rfl⟩ | ⟨hkeep, o, rfl, hQ⟩
    · rw [List.filter_cons_of_neg (by simp [hskip]), List.reduceOption_cons_of_none]
      exact ih
    · rw [List.filter_cons_of_pos hkeep, List.reduceOption_cons_of_some]
      exact List.Forall₂.cons hQ ih

/-- What the source offers, and how it sorts it. -/
structure Built (gap unit_price : PyFloat) (warehouses substitutes : List PyVal)
    (alt subs options : List ResolutionOption) : Prop where
  sorted : options = (alt ++ subs ++ standing_options).insertionSort fun a b =>
    PyFloat.lt a.composite_score b.composite_score = false
  warehouse : List.Forall₂ (fun dc o => OfWarehouse gap dc o ∧
    o.composite_score = freight_score gap unit_price (freight_of gap dc.1))
    (warehouses.zipIdx.filter (not_below gap "qty")) alt
  substitute : List.Forall₂ (fun sub o => OfSubstitute sub o ∧
    o.composite_score = substitute_score sub.1)
    (substitutes.zipIdx.filter (not_below gap "available_qty")) subs

theorem build_options_returns (gap unit_price : PyFloat) (warehouses substitutes : List PyVal) :
    returns (build_options (.float gap) (.float unit_price) (.list warehouses) (.list substitutes))
      fun options => ∃ alt subs, Built gap unit_price warehouses substitutes alt subs options := by
  unfold build_options
  refine returns_bind fun ws hws => returns_bind fun alt halt => ?_
  obtain rfl : warehouses = ws := Except.ok.inj hws
  refine returns_bind fun ss hss => returns_bind fun subs hsubs => (returns_pure _).mpr ?_
  obtain rfl : substitutes = ss := Except.ok.inj hss
  refine ⟨alt.reduceOption, subs.reduceOption, sortByKey_eq _ _ _, ?_, ?_⟩
  · exact given_forall₂ (warehouse_option_gives gap unit_price) _ alt halt
  · exact given_forall₂ (substitute_option_gives gap unit_price) _ subs hsubs

/-- An order with a gap that is not refused lists the options for it. -/
theorem resolve_back_order_lists (order_id sku uom severe_gap_pct : PyVal)
    {ordered available : PyFloat} (unit_price : PyFloat) (warehouses substitutes : List PyVal)
    (hordered : (PyFloat.fin 0).lt ordered = true) (havailable : available.lt (.fin 0) = false)
    (hgap : (PyFloat.fin 0).lt (ordered.sub available) = true) :
    returns (resolve_back_order order_id sku (.float ordered) (.float available)
        (.float unit_price) uom severe_gap_pct (.list warehouses) (.list substitutes))
      fun out => ∃ alt subs options, Lists out options ∧
        Built (ordered.sub available) unit_price warehouses substitutes alt subs options := by
  have hrefused : ordered.le (.fin 0) = false := by
    rcases ordered with _ | s | q
    · cases hordered
    · simp_all [PyFloat.le, PyFloat.lt, PyFloat.eq]
    · rw [← Bool.not_eq_true, PyFloat.le_fin]
      simpa [PyFloat.lt] using hordered
  have hthere : (PyVal.float (ordered.sub available)).eq (.int 0) = false := by
    simpa [max_zero_of_lt hgap, hgap] using max_zero_eq_zero (ordered.sub available)
  have hlist : ∀ xs : List PyVal, (PyVal.list xs).or (.list []) = .list xs := by
    intro xs
    cases xs <;> rfl
  unfold resolve_back_order
  simp only [compare_float_zero, PyVal.CmpOp.holds, either_ok, sub_float, hrefused, havailable]
  rw [ok_bind rfl, if_neg (by simp), ok_bind rfl, ok_bind (maxZero_float _), max_zero_of_lt hgap,
    hlist, hlist]
  refine returns_bind fun gap_pct _ => returns_bind fun at_risk _ => returns_bind fun _ _ => ?_
  refine returns_ite (fun hnone => absurd (hthere.symm.trans hnone) Bool.false_ne_true) fun _ => ?_
  refine returns_bind fun severe _ => returns_bind fun options hoptions => ?_
  refine returns_bind fun gap_rounded _ => returns_bind fun pct_rounded _ => ?_
  obtain ⟨alt, subs, hbuilt⟩ := build_options_returns _ _ _ _ options hoptions
  exact (returns_pure _).mpr ⟨alt, subs, options, rfl, hbuilt⟩

/-! ## What is listed says what the options are -/

theorem toVal_injective : Function.Injective ResolutionOption.toVal := by
  intro a b h
  have hkind : ∀ k k' : ResolutionKind, k.value = k'.value → k = k' := by
    intro k k'
    cases k <;> cases k' <;> simp [ResolutionKind.value]
  obtain ⟨id, kind, title, details, extra_cost, composite_score⟩ := a
  obtain ⟨id', kind', title', details', extra_cost', composite_score'⟩ := b
  simp only [ResolutionOption.toVal, PyVal.dict.injEq, List.cons_append, List.nil_append,
    List.cons.injEq, Prod.mk.injEq, PyVal.str.injEq, true_and] at h
  obtain ⟨rfl, hvalue, rfl, htail⟩ := h
  obtain rfl := hkind _ _ hvalue
  obtain ⟨rfl, hlast⟩ := List.append_inj' htail rfl
  simp only [List.cons.injEq, Prod.mk.injEq, PyVal.float.injEq, true_and, and_true] at hlast
  obtain ⟨rfl, rfl⟩ := hlast
  rfl

theorem lists_unique {out : PyDict} {options options' : List ResolutionOption}
    (h : Lists out options) (h' : Lists out options') : options = options' := by
  unfold Lists at h h'
  rw [h, Option.some.injEq, PyVal.list.injEq] at h'
  exact List.map_injective_iff.mpr toVal_injective h'

/-! ## What covers the gap -/

/-- An entry that covers the gap is not below it, and the other way round but
for a NaN. -/
theorem not_below_iff {gap : PyFloat} (hgap : (PyFloat.fin 0).lt gap = true) {key : String}
    {v : PyVal × ℕ} :
    not_below gap key v = true ↔
      covers gap key v.1 = true ∨ get_float v.1 key = .ok .nan := by
  unfold not_below covers
  cases hread : get_float v.1 key with
  | error e => simp
  | ok qty =>
    rcases gap with _ | s | g
    · cases hgap
    · rcases qty with _ | t | q <;> simp [PyFloat.lt, PyFloat.le, PyFloat.eq]
      cases s <;> cases t <;> simp
    · rcases qty with _ | t | q
      · simp [PyFloat.lt]
      · cases t <;> simp [PyFloat.lt, PyFloat.le, PyFloat.eq]
      · rw [PyFloat.le_fin]
        simp [PyFloat.lt]

theorem covering_eq {gap : PyFloat} (hgap : (PyFloat.fin 0).lt gap = true) {key : String}
    {vs : List PyVal} (h : ∀ v ∈ vs, get_float v key ≠ .ok .nan) :
    covering gap key vs = vs.zipIdx.filter (not_below gap key) := by
  refine List.filter_congr fun v hv => ?_
  rw [Bool.eq_iff_iff, not_below_iff hgap]
  exact ⟨Or.inl, fun hor => hor.resolve_right (h v.1 (List.fst_mem_of_mem_zipIdx hv))⟩

theorem covers_not_nan {gap : PyFloat} {key : String} {v : PyVal} (h : covers gap key v = true) :
    get_float v key ≠ .ok .nan := by
  intro hnan
  rw [covers, hnan] at h
  cases gap <;> cases h

/-- As many entries cover the gap as are offered, so none of them is a NaN. -/
theorem not_nan_of_length {gap : PyFloat} (hgap : (PyFloat.fin 0).lt gap = true) {key : String}
    {vs : List PyVal}
    (h : (covering gap key vs).length = (vs.zipIdx.filter (not_below gap key)).length) :
    ∀ v ∈ vs, get_float v key ≠ .ok .nan := by
  have hsub : covering gap key vs =
      (vs.zipIdx.filter (not_below gap key)).filter fun v => covers gap key v.1 := by
    rw [List.filter_filter]
    refine List.filter_congr fun v _ => ?_
    rw [Bool.eq_iff_iff, Bool.and_eq_true, not_below_iff hgap]
    exact ⟨fun hc => ⟨hc, Or.inl hc⟩, And.left⟩
  rw [hsub, List.length_filter_eq_length_iff] at h
  intro v hv hnan
  obtain ⟨i, hi, rfl⟩ := List.mem_iff_getElem.mp hv
  have hmem : (vs[i], i) ∈ vs.zipIdx := List.mk_mem_zipIdx_iff_getElem?.mpr (by simp [hi])
  have hkept : (vs[i], i) ∈ vs.zipIdx.filter (not_below gap key) :=
    List.mem_filter.mpr ⟨hmem, (not_below_iff hgap).mpr (Or.inr hnan)⟩
  exact covers_not_nan (h _ hkept) hnan

/-! ## What is in the list -/

section offered

variable {gap unit_price : PyFloat} {warehouses substitutes : List PyVal}
  {alt subs options : List ResolutionOption}

theorem forall_of_forall₂ {α β : Type} {R : α → β → Prop} {P : β → Prop} {xs : List α}
    {ys : List β} (h : List.Forall₂ R xs ys) (hR : ∀ x ∈ xs, ∀ y, R x y → P y) :
    ∀ y ∈ ys, P y := by
  induction h with
  | nil => simp
  | cons hxy _ ih =>
    rw [List.forall_mem_cons] at hR ⊢
    exact ⟨hR.1 _ hxy, ih hR.2⟩

theorem count_kinds (halt : ∀ o ∈ alt, o.kind = .ALT_DC)
    (hsubs : ∀ o ∈ subs, o.kind = .SUBSTITUTE) :
    (alt ++ subs ++ standing_options).countP (fun o => decide (o.kind = .ALT_DC)) = alt.length ∧
      (alt ++ subs ++ standing_options).countP (fun o => decide (o.kind = .SUBSTITUTE)) =
        subs.length := by
  have hstanding : standing_options.countP (fun o => decide (o.kind = .ALT_DC)) = 0 ∧
      standing_options.countP (fun o => decide (o.kind = .SUBSTITUTE)) = 0 := by
    decide +kernel
  rw [List.countP_append, List.countP_append, List.countP_append, List.countP_append,
    hstanding.1, hstanding.2]
  have halt_all : alt.countP (fun o => decide (o.kind = .ALT_DC)) = alt.length :=
    List.countP_eq_length.mpr fun o ho => by simp [halt o ho]
  have halt_none : alt.countP (fun o => decide (o.kind = .SUBSTITUTE)) = 0 :=
    List.countP_eq_zero.mpr fun o ho => by simp [halt o ho]
  have hsubs_all : subs.countP (fun o => decide (o.kind = .SUBSTITUTE)) = subs.length :=
    List.countP_eq_length.mpr fun o ho => by simp [hsubs o ho]
  have hsubs_none : subs.countP (fun o => decide (o.kind = .ALT_DC)) = 0 :=
    List.countP_eq_zero.mpr fun o ho => by simp [hsubs o ho]
  omega

theorem Built.perm (h : Built gap unit_price warehouses substitutes alt subs options) :
    options.Perm (alt ++ subs ++ standing_options) := by
  rw [h.sorted]
  exact List.perm_insertionSort _ _

theorem Built.kinds (h : Built gap unit_price warehouses substitutes alt subs options) :
    (∀ o ∈ alt, o.kind = .ALT_DC) ∧ ∀ o ∈ subs, o.kind = .SUBSTITUTE :=
  ⟨forall_of_forall₂ h.warehouse fun _ _ _ hQ => hQ.1.2.1,
    forall_of_forall₂ h.substitute fun _ _ _ hQ => hQ.1.2⟩

/-- Those that cover the gap are offered when no quantity is a NaN. -/
theorem Built.offered_iff (hgap : (PyFloat.fin 0).lt gap = true)
    (h : Built gap unit_price warehouses substitutes alt subs options) :
    (∃ alt subs, options.Perm (alt ++ subs ++ standing_options) ∧
      List.Forall₂ (OfWarehouse gap) (covering gap "qty" warehouses) alt ∧
      List.Forall₂ OfSubstitute (covering gap "available_qty" substitutes) subs) ↔
    (∀ dc ∈ warehouses, get_float dc "qty" ≠ .ok .nan) ∧
      ∀ sub ∈ substitutes, get_float sub "available_qty" ≠ .ok .nan := by
  constructor
  · rintro ⟨alt', subs', hperm, halt, hsubs⟩
    have hcounts := count_kinds h.kinds.1 h.kinds.2
    have hcounts' := count_kinds (forall_of_forall₂ halt fun _ _ _ hQ => hQ.2.1)
      (forall_of_forall₂ hsubs fun _ _ _ hQ => hQ.2)
    rw [← h.perm.countP_eq, ← h.perm.countP_eq] at hcounts
    rw [← hperm.countP_eq, ← hperm.countP_eq] at hcounts'
    refine ⟨not_nan_of_length hgap ?_, not_nan_of_length hgap ?_⟩
    · rw [halt.length_eq, h.warehouse.length_eq, ← hcounts.1, hcounts'.1]
    · rw [hsubs.length_eq, h.substitute.length_eq, ← hcounts.2, hcounts'.2]
  · rintro ⟨hdc, hsub⟩
    rw [covering_eq hgap hdc, covering_eq hgap hsub]
    exact ⟨alt, subs, h.perm, h.warehouse.imp fun _ _ hQ => hQ.1,
      h.substitute.imp fun _ _ hQ => hQ.1⟩

/-! ## How it is ranked -/

/-- No weighted score is a NaN, which compares with nothing. -/
structure Comparable (gap unit_price : PyFloat) (warehouses substitutes : List PyVal) : Prop where
  warehouse : ∀ dc ∈ covering gap "qty" warehouses,
    freight_score gap unit_price (freight_of gap dc.1) ≠ .nan
  substitute : ∀ sub ∈ covering gap "available_qty" substitutes, substitute_score sub.1 ≠ .nan

theorem standing_scores : ∀ o ∈ standing_options, o.composite_score ≠ .nan ∧ o.kind ≠ .ALT_DC := by
  decide +kernel

theorem pairwise_iff_of_forall₂ {α β : Type} {Q : α → β → Prop} {R : α → α → Prop}
    {S : β → β → Prop} {xs : List α} {ys : List β} (h : List.Forall₂ Q xs ys)
    (hRS : ∀ x y x' y', Q x y → Q x' y' → (R x x' ↔ S y y')) : xs.Pairwise R ↔ ys.Pairwise S := by
  induction h with
  | nil => simp
  | @cons x y xs ys hxy hrest ih =>
    have hhead : (∀ x' ∈ xs, R x x') ↔ ∀ y' ∈ ys, S y y' := by
      clear ih
      induction hrest with
      | nil => simp
      | cons hxy' _ ih =>
        rw [List.forall_mem_cons, List.forall_mem_cons, ih, hRS _ _ _ _ hxy hxy']
    rw [List.pairwise_cons, List.pairwise_cons, ih, hhead]

theorem Built.ranked_iff (hgap : (PyFloat.fin 0).lt gap = true)
    (hprice : (PyFloat.fin 0).le unit_price = true)
    (hcomparable : Comparable gap unit_price warehouses substitutes)
    (hdc : ∀ dc ∈ warehouses, get_float dc "qty" ≠ .ok .nan)
    (hsub : ∀ sub ∈ substitutes, get_float sub "available_qty" ≠ .ok .nan)
    (h : Built gap unit_price warehouses substitutes alt subs options) :
    options.Pairwise (fun a b => ¬ dearer a b) ↔
      (covering gap "qty" warehouses).Pairwise fun dc dc' =>
        (freight_of gap dc'.1).lt (freight_of gap dc.1) = true →
          freight_score gap unit_price (freight_of gap dc.1) ≠
            freight_score gap unit_price (freight_of gap dc'.1) := by
  have hwarehouse := h.warehouse
  have hsubstitute := h.substitute
  rw [← covering_eq hgap hdc] at hwarehouse
  rw [← covering_eq hgap hsub] at hsubstitute
  have halt : ∀ o ∈ alt, o.composite_score ≠ .nan ∧
      o.composite_score = freight_score gap unit_price o.extra_cost :=
    forall_of_forall₂ hwarehouse fun dc hmem o hQ => by
      rw [hQ.2, hQ.1.2.2]
      exact ⟨hcomparable.warehouse dc hmem, rfl⟩
  have hsubs : ∀ o ∈ subs, o.composite_score ≠ .nan :=
    forall_of_forall₂ hsubstitute fun sub hmem o hQ => by
      rw [hQ.2]
      exact hcomparable.substitute sub hmem
  have hother : ∀ o ∈ subs ++ standing_options, o.kind ≠ .ALT_DC := by
    intro o ho
    rcases List.mem_append.mp ho with ho | ho
    · rw [h.kinds.2 o ho]
      decide
    · exact (standing_scores o ho).2
  have hscores : ∀ o ∈ alt ++ (subs ++ standing_options), o.composite_score ≠ .nan := by
    simp only [List.forall_mem_append]
    exact ⟨fun o ho => (halt o ho).1, hsubs, fun o ho => (standing_scores o ho).1⟩
  have hmem : ∀ o ∈ alt ++ (subs ++ standing_options), o.kind = .ALT_DC → o ∈ alt := by
    intro o ho hkind
    exact (List.mem_append.mp ho).resolve_right fun hrest => hother o hrest hkind
  have hworse : ∀ a ∈ alt ++ (subs ++ standing_options), ∀ b ∈ alt ++ (subs ++ standing_options),
      dearer a b → OrderDual.toDual b.composite_score.place ≤
        OrderDual.toDual a.composite_score.place := by
    rintro a ha b hb ⟨hkind, hkind', hlower⟩
    rw [OrderDual.toDual_le_toDual, ← PyFloat.le_iff_place (hscores a ha) (hscores b hb)]
    have hscore := halt a (hmem a ha hkind)
    have hscore' := halt b (hmem b hb hkind')
    rw [hscore.2] at hscore
    rw [hscore'.2] at hscore'
    rw [(halt a (hmem a ha hkind)).2, (halt b (hmem b hb hkind')).2]
    exact freight_score_antitone hgap hprice hscore'.1 hscore.1 (by simp [PyFloat.le, hlower])
  rw [h.sorted, List.append_assoc, worse_behind_iff (sortsBy_score hscores) dearer hworse,
    List.pairwise_append]
  have hpairs : (covering gap "qty" warehouses).Pairwise (fun dc dc' =>
      (freight_of gap dc'.1).lt (freight_of gap dc.1) = true →
        freight_score gap unit_price (freight_of gap dc.1) ≠
          freight_score gap unit_price (freight_of gap dc'.1)) ↔
      alt.Pairwise fun a b =>
        b.extra_cost.lt a.extra_cost = true → a.composite_score ≠ b.composite_score :=
    pairwise_iff_of_forall₂ hwarehouse fun dc o dc' o' hQ hQ' => by
      rw [hQ.2, hQ'.2, hQ.1.2.2, hQ'.1.2.2]
  rw [hpairs]
  have hrank : ∀ a ∈ alt, ∀ b ∈ alt, OrderDual.toDual a.composite_score.place ≠
      OrderDual.toDual b.composite_score.place ↔ a.composite_score ≠ b.composite_score := by
    intro a ha b hb
    rw [OrderDual.toDual.injective.ne_iff, Ne, PyFloat.place_eq_iff (halt a ha).1 (halt b hb).1]
  constructor
  · rintro ⟨hpair, -, -⟩
    refine hpair.imp_of_mem fun ha hb hab hlower => ?_
    exact (hrank _ ha _ hb).mp (hab ⟨h.kinds.1 _ ha, h.kinds.1 _ hb, hlower⟩)
  · intro hpair
    refine ⟨hpair.imp_of_mem fun ha hb hab hd => (hrank _ ha _ hb).mpr (hab hd.2.2), ?_, ?_⟩
    · exact List.pairwise_of_forall_mem_list fun a ha b _ hd => absurd hd.1 (hother a ha)
    · exact fun a _ b hb hd => absurd hd.2.1 (hother b hb)

end offered

/-! ## The ranking -/

def warehouseAt (plant : String) (freight_delta : PyFloat) : PyVal :=
  .dict [("plant", .str plant), ("qty", .int 50), ("eta_days", .int 2),
    ("freight_delta_per_unit", .float freight_delta)]

def backOrder (warehouses : List PyVal) : Except PyErr PyDict :=
  resolve_back_order (.str "ord-1") (.str "SKU-1") (.float (.fin 30)) (.float (.fin 20))
    (.float (.fin 1000)) (.str "CS") (.float BACK_ORDER_SEVERE_GAP_PCT) (.list warehouses)
    (.list [])

def backOrderOut (warehouses : List PyVal) : PyDict :=
  match backOrder warehouses with
  | .ok out => out
  | .error _ => []

def tenUnits : PyFloat := (PyFloat.fin 30).sub (.fin 20)

/-- What two warehouses ask for the gap: 200.00 and 100.00, dearer first. -/
def apart : List PyVal := [warehouseAt "DC-A" (.fin 20), warehouseAt "DC-B" (.fin 10)]

/-- 1.25 and 0.62, dearer first: both score 0.775. -/
def alike : List PyVal := [warehouseAt "DC-A" (.fin (1 / 8)), warehouseAt "DC-B" (.fin (1 / 16))]

def optionsOf (warehouses : List PyVal) : List ResolutionOption :=
  match build_options (.float tenUnits) (.float (.fin 1000)) (.list warehouses) (.list []) with
  | .ok options => options
  | .error _ => []

instance (a b : ResolutionOption) : Decidable (dearer a b) :=
  inferInstanceAs (Decidable (_ ∧ _ ∧ _))

end asoe
