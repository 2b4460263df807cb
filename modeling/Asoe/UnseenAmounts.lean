-- Children that differ only in their amounts: everything in the summary of a
-- case but its impact is the same for them, so what a caller sees of an amount
-- is what the endpoint leaves in that one field.
import Asoe.CaseEndpoints

namespace asoe

open py prog paging analysis

/-! ## Records that differ in their amounts -/

def AMOUNT_KEYS : List String := ["financial_impact", "currency", "financial_impact_usd"]

/-- The two dictionaries agree on every other key. -/
def SameButAmounts (d d' : PyDict) : Prop :=
  ∀ key, key ∉ AMOUNT_KEYS → dict.get d key = dict.get d' key

structure SameRecord (r r' : ChildRecord) : Prop where
  intent : r.intent = r'.intent
  shadow_verdict : r.shadow_verdict = r'.shadow_verdict
  enrichment_context : r.enrichment_context = r'.enrichment_context
  original_event : r.original_event = r'.original_event
  resolution_data : SameButAmounts r.resolution_data r'.resolution_data

structure SameChild (r r' : CaseChild) : Prop where
  record : SameRecord r.toChildRecord r'.toChildRecord
  account_id : r.account_id = r'.account_id
  order_id : r.order_id = r'.order_id

/-- The function does not read an amount. -/
def BlindToAmounts {α : Type} (f : ChildRecord → α) : Prop :=
  ∀ r r', SameRecord r r' → f r = f r'

theorem map_same {α β : Type} {R : α → α → Prop} {f : α → β} (hf : ∀ a b, R a b → f a = f b)
    {xs ys : List α} (h : List.Forall₂ R xs ys) : xs.map f = ys.map f := by
  induction h with
  | nil => rfl
  | cons hab _ ih => rw [List.map_cons, List.map_cons, hf _ _ hab, ih]

section reads

variable {d d' : PyDict}

theorem SameButAmounts.value_at (h : SameButAmounts d d') (key : String)
    (hkey : key ∉ AMOUNT_KEYS) : value_at d key = value_at d' key := by
  unfold asoe.value_at
  rw [h key hkey]

theorem SameButAmounts.dict_at (h : SameButAmounts d d') (key : String)
    (hkey : key ∉ AMOUNT_KEYS) : dict_at d key = dict_at d' key := by
  unfold asoe.dict_at
  rw [h.value_at key hkey]

end reads

/-! ## The headlines -/

section headlines

variable {d d' : PyDict} {event : PyDict}

theorem from_outputs_or_same {α : Type} {projection : PyDict → Except PyErr (Option α)}
    (h : SameButAmounts d d') (hprojection : projection d = projection d')
    (synthetic : Except PyErr (Option PyDict)) :
    from_outputs_or d synthetic projection = from_outputs_or d' synthetic projection := by
  unfold from_outputs_or
  rw [h.value_at "status" (by decide), hprojection]

theorem delivery_delay_from_outputs_same (h : SameButAmounts d d') (sla_ctx : PyVal) :
    delivery_delay_from_outputs event sla_ctx d = delivery_delay_from_outputs event sla_ctx d' := by
  unfold delivery_delay_from_outputs primary_id_of
  rw [h.value_at "days_late" (by decide), h.value_at "alternate_options" (by decide),
    h.value_at "delay_category" (by decide), h.value_at "carrier" (by decide),
    h.value_at "route" (by decide), h.dict_at "primary_option" (by decide)]

theorem overmax_from_outputs_same (h : SameButAmounts d d') (contract_ctx block_ctx : PyVal) :
    overmax_from_outputs event contract_ctx block_ctx d =
      overmax_from_outputs event contract_ctx block_ctx d' := by
  unfold overmax_from_outputs quantity_at
  rw [h.value_at "excess_qty" (by decide), h.value_at "exceedance_pct" (by decide),
    h.value_at "trim_plan" (by decide), h.value_at "at_risk" (by decide)]

theorem moq_from_outputs_same (h : SameButAmounts d d') (cm_ctx contract_ctx block_ctx : PyVal) :
    moq_from_outputs event cm_ctx contract_ctx block_ctx d =
      moq_from_outputs event cm_ctx contract_ctx block_ctx d' := by
  unfold moq_from_outputs round_up_plan quantity_at
  rw [h.value_at "shortfall_qty" (by decide), h.value_at "shortfall_pct" (by decide),
    h.value_at "sku" (by decide), h.value_at "uplift_value" (by decide),
    h.dict_at "round_up_plan" (by decide)]

end headlines

section adapters

theorem adapt_price_blind : BlindToAmounts adapt_price := by
  intro r r' h
  unfold adapt_price
  rw [h.original_event, h.enrichment_context]

theorem adapt_delivery_delay_blind (from_iso : FromIso) :
    BlindToAmounts (adapt_delivery_delay from_iso) := by
  intro r r' h
  unfold adapt_delivery_delay
  rw [h.original_event, h.enrichment_context]
  exact from_outputs_or_same h.resolution_data
    (delivery_delay_from_outputs_same h.resolution_data _) _

theorem adapt_overmax_blind : BlindToAmounts adapt_overmax := by
  intro r r' h
  unfold adapt_overmax
  rw [h.original_event, h.enrichment_context]
  exact from_outputs_or_same h.resolution_data
    (overmax_from_outputs_same h.resolution_data _ _) _

theorem adapt_moq_blind : BlindToAmounts adapt_moq := by
  intro r r' h
  unfold adapt_moq
  rw [h.original_event, h.enrichment_context]
  exact from_outputs_or_same h.resolution_data (moq_from_outputs_same h.resolution_data _ _ _) _

theorem adapt_back_order_blind : BlindToAmounts adapt_back_order := by
  intro r r' h
  have hsynthetic : synthesize_back_order_outputs r = synthesize_back_order_outputs r' := by
    unfold synthesize_back_order_outputs inventory_snapshot
    rw [h.original_event, h.enrichment_context]
  unfold adapt_back_order inventory_snapshot
  dsimp only
  rw [h.original_event, h.enrichment_context, hsynthetic,
    h.resolution_data.value_at "recommended_action" (by decide),
    h.resolution_data.value_at "status" (by decide)]
  by_cases hrecorded : !(value_at r'.resolution_data "recommended_action").truthy ∧
      value_at r'.resolution_data "status" ≠ .str "COMPLETE"
  · simp only [if_pos hrecorded]
  · simp only [if_neg hrecorded, pure_bind,
      h.resolution_data.value_at "resolution_options" (by decide),
      h.resolution_data.value_at "gap_qty" (by decide),
      h.resolution_data.value_at "gap_pct" (by decide),
      h.resolution_data.value_at "at_risk" (by decide)]

end adapters

section templates

theorem duplicate_po_template_blind : BlindToAmounts duplicate_po_template := by
  intro r r' h
  unfold duplicate_po_template
  rw [h.resolution_data.value_at "duplicate_detection" (by decide)]

theorem back_order_template_blind : BlindToAmounts back_order_template := by
  intro r r' h
  unfold back_order_template
  rw [adapt_back_order_blind r r' h, h.original_event]

theorem price_discrepancy_template_blind : BlindToAmounts price_discrepancy_template := by
  intro r r' h
  unfold price_discrepancy_template
  rw [adapt_price_blind r r' h]

theorem credit_block_template_blind : BlindToAmounts credit_block_template := by
  intro r r' h
  unfold credit_block_template
  rw [h.enrichment_context]

theorem manual_order_intake_template_blind : BlindToAmounts manual_order_intake_template := by
  intro r r' h
  unfold manual_order_intake_template
  rw [h.enrichment_context]

theorem mass_pricing_error_template_blind : BlindToAmounts mass_pricing_error_template := by
  intro r r' h
  unfold mass_pricing_error_template
  rw [h.original_event]

theorem over_max_template_blind : BlindToAmounts over_max_template := by
  intro r r' h
  unfold over_max_template
  rw [adapt_overmax_blind r r' h]

theorem moq_uplift_template_blind : BlindToAmounts moq_uplift_template := by
  intro r r' h
  unfold moq_uplift_template
  rw [adapt_moq_blind r r' h]

theorem delivery_delay_template_blind (from_iso : FromIso) :
    BlindToAmounts fun record => delivery_delay_template record from_iso := by
  intro r r' h
  show delivery_delay_template r from_iso = delivery_delay_template r' from_iso
  unfold delivery_delay_template
  rw [adapt_delivery_delay_blind from_iso r r' h]

theorem templates_blind (from_iso : FromIso) :
    ∀ entry ∈ INTENT_TEMPLATES from_iso, BlindToAmounts entry.2 := by
  unfold INTENT_TEMPLATES
  simp only [List.forall_mem_cons]
  exact ⟨duplicate_po_template_blind, manual_order_intake_template_blind,
    back_order_template_blind, credit_block_template_blind, price_discrepancy_template_blind,
    mass_pricing_error_template_blind, over_max_template_blind, moq_uplift_template_blind,
    delivery_delay_template_blind from_iso, fun _ _ _ => rfl, fun _ _ _ => rfl, fun _ _ _ => rfl,
    by simp⟩

theorem render_template_blind (from_iso : FromIso) :
    BlindToAmounts fun record => render_template from_iso (some record) := by
  intro r r' h
  unfold render_template
  dsimp only
  rw [h.intent]
  rcases htemplate : r'.intent.bind (dict.get (INTENT_TEMPLATES from_iso)) with _ | template
  · rfl
  · obtain ⟨intent, -, hget⟩ := Option.bind_eq_some_iff.mp htemplate
    have hblind := templates_blind from_iso _ (dict.mem_of_get hget) r r' h
    dsimp only at hblind ⊢
    rw [hblind]

theorem reason_headline_fallback_blind :
    BlindToAmounts fun record => reason_headline_fallback (some record) := by
  intro r r' h
  unfold reason_headline_fallback
  simp only [Option.map_some, h.resolution_data.value_at "reason" (by decide)]

end templates

/-! ## The colours -/

section gates

variable {records records' : List ChildRecord}

theorem should_floor_to_amber_blind (intent : String) (case : QueuedCase) :
    BlindToAmounts fun record => should_floor_to_amber intent record case := by
  intro r r' h
  show should_floor_to_amber intent r case = should_floor_to_amber intent r' case
  unfold should_floor_to_amber price_hold_near_ceiling duplicate_po_above_floor requires_cosign
  rw [h.enrichment_context, h.resolution_data.dict_at "price_hold_analysis" (by decide),
    h.resolution_data.dict_at "duplicate_detection" (by decide)]

theorem delivery_delay_within_sla_blind : BlindToAmounts delivery_delay_within_sla := by
  intro r r' h
  unfold delivery_delay_within_sla
  rw [h.resolution_data.dict_at "delivery_delay_analysis" (by decide)]
  rcases dict_at r'.resolution_data "delivery_delay_analysis" with _ | delay
  · simp only [Option.getD_none, h.resolution_data "days_late" (by decide),
      h.resolution_data "sla_breach" (by decide)]
  · rfl

theorem should_ceiling_at_amber_blind (intent : String) :
    BlindToAmounts (should_ceiling_at_amber intent) := by
  intro r r' h
  unfold should_ceiling_at_amber pallet_routine_class edi_routine_subtype
  rw [delivery_delay_within_sla_blind r r' h,
    h.resolution_data.dict_at "pallet_analysis" (by decide),
    h.resolution_data.dict_at "edi_mismatch_analysis" (by decide)]

theorem gates_blind (raw : Option VerdictColor) (case : QueuedCase) :
    BlindToAmounts fun record =>
      apply_verdict_color_gates raw (intent_of (some record)) (some record) case := by
  intro r r' h
  have hintent : intent_of (some r) = intent_of (some r') := h.intent
  have hfloor (intent : String) :
      should_floor_to_amber intent r case = should_floor_to_amber intent r' case :=
    should_floor_to_amber_blind intent case r r' h
  dsimp only
  rw [hintent]
  unfold apply_verdict_color_gates
  rcases raw with _ | _ | _ | _ <;> rcases intent_of (some r') with _ | intent <;> dsimp only
  · rw [should_ceiling_at_amber_blind intent r r' h]
  · rw [hfloor]

theorem any_same {p : ChildRecord → Bool} (hp : BlindToAmounts p)
    (h : List.Forall₂ SameRecord records records') : records.any p = records'.any p := by
  simpa using congrArg (List.any · id) (map_same hp h)

theorem verdict_color_rollup_same (h : List.Forall₂ SameRecord records records') :
    verdict_color_rollup records = verdict_color_rollup records' := by
  have hverdict (verdict : ShadowStatus) :
      BlindToAmounts fun r => decide (r.shadow_verdict = some verdict) := by
    intro r r' h
    dsimp only
    rw [h.shadow_verdict]
  unfold verdict_color_rollup
  rw [any_same (hverdict .RED) h, any_same (hverdict .YELLOW) h, any_same (hverdict .GREEN) h]

end gates

/-! ## The amount of a child -/

/-- The amount that `_dollar_impact_of` reads, and its currency. -/
def stated_amount (rd : PyDict) : PyVal × PyVal :=
  if value_at rd "financial_impact" = .none then
    (value_at rd "financial_impact_usd", (value_at rd "currency").or (.str "USD"))
  else (value_at rd "financial_impact", value_at rd "currency")

/-- The child has no amount, a zero one, or one without a currency. -/
def StatesNoAmount (record : ChildRecord) : Prop :=
  as_float (stated_amount record.resolution_data).1 = .ok none ∨
    ∃ amount, as_float (stated_amount record.resolution_data).1 = .ok (some amount) ∧
      (amount.eq (.fin 0) = true ∨ currency_code (stated_amount record.resolution_data).2 = none)

/-- The child has an amount that is too large, or is no number of cents. -/
def StatesUnreadable (record : ChildRecord) : Prop :=
  (∃ e, as_float (stated_amount record.resolution_data).1 = .error e) ∨
    ∃ amount currency e, as_float (stated_amount record.resolution_data).1 = .ok (some amount) ∧
      amount.eq (.fin 0) = false ∧
      currency_code (stated_amount record.resolution_data).2 = some currency ∧
      rounded_int (amount.mul (.fin 100)) = .error e

/-- What becomes of the amount of a child. -/
theorem dollar_impact_of_cases (r : ChildRecord) :
    (StatesNoAmount r ∧ ¬ StatesUnreadable r ∧ dollar_impact_of (some r) = .ok none) ∨
      (¬ StatesNoAmount r ∧ StatesUnreadable r ∧ ∃ e, dollar_impact_of (some r) = .error e) ∨
      (¬ StatesNoAmount r ∧ ¬ StatesUnreadable r ∧
        ∃ impact, dollar_impact_of (some r) = .ok (some impact)) := by
  unfold dollar_impact_of StatesNoAmount StatesUnreadable
  dsimp only
  rw [← stated_amount]
  rcases as_float (stated_amount r.resolution_data).1 with e | _ | amount
  · right; left
    exact ⟨by simp, by simp, e, rfl⟩
  · left
    exact ⟨by simp, by simp, rfl⟩
  · rw [ok_bind rfl]
    dsimp only
    rcases hzero : amount.eq (.fin 0) with _ | _
    · rw [if_neg (by simp)]
      rcases currency_code (stated_amount r.resolution_data).2 with _ | currency
      · left
        exact ⟨by simp, by simp, rfl⟩
      · rcases hcents : rounded_int (amount.mul (.fin 100)) with e | cents
        · right; left
          exact ⟨by simp [hzero], by simp [hzero, hcents], e, rfl⟩
        · right; right
          exact ⟨by simp [hzero], by simp [hcents], _, rfl⟩
    · left
      exact ⟨by simp [hzero], by simp [hzero], rfl⟩

def NoAmount (primary : Option ChildRecord) : Prop := ∀ r, primary = some r → StatesNoAmount r

def UnreadableAmount (primary : Option ChildRecord) : Prop :=
  ∃ r, primary = some r ∧ StatesUnreadable r

theorem noAmount_iff {primary : Option ChildRecord} :
    NoAmount primary ↔ dollar_impact_of primary = .ok none := by
  rcases primary with _ | r
  · exact ⟨fun _ => rfl, by rintro - r ⟨⟩⟩
  · have hiff : NoAmount (some r) ↔ StatesNoAmount r :=
      ⟨fun h => h r rfl, by rintro h _ ⟨rfl⟩; exact h⟩
    rw [hiff]
    rcases dollar_impact_of_cases r with ⟨h, -, hok⟩ | ⟨h, -, e, herror⟩ | ⟨h, -, impact, hok⟩
    · simp [h, hok]
    · simp [h, herror]
    · simp [h, hok]

theorem unreadableAmount_iff {primary : Option ChildRecord} :
    UnreadableAmount primary ↔ ∃ e, dollar_impact_of primary = .error e := by
  rcases primary with _ | r
  · constructor
    · rintro ⟨r, ⟨⟩, -⟩
    · rintro ⟨e, ⟨⟩⟩
  · have hiff : UnreadableAmount (some r) ↔ StatesUnreadable r :=
      ⟨by rintro ⟨_, ⟨rfl⟩, h⟩; exact h, fun h => ⟨r, rfl, h⟩⟩
    rw [hiff]
    rcases dollar_impact_of_cases r with ⟨-, h, hok⟩ | ⟨-, h, herror⟩ | ⟨-, h, impact, hok⟩
    · simp [h, hok]
    · exact ⟨fun _ => herror, fun _ => h⟩
    · simp [h, hok]

/-! ## The summary -/

section summary

variable {from_iso : FromIso} {case : QueuedCase} {records records' : List ChildRecord}
  {primary primary' : Option ChildRecord}

/-- The summary before the impact is in it. -/
def summary_but_impact (from_iso : FromIso) (case : QueuedCase) (records : List ChildRecord)
    (primary : Option ChildRecord) : Except PyErr CaseSummary := do
  let rendered ← render_template from_iso primary
  let gated_color ← apply_verdict_color_gates (verdict_color_rollup records) (intent_of primary)
    primary case
  return { customer_name := case.customer_id, top_line_sku_code := rendered.sku_code
           top_line_sku_title := rendered.sku_title
           problem_one_liner :=
             (given rendered.one_liner).or (reason_headline_fallback primary)
           intent := intent_of primary, dollar_impact := none
           audit_verdict_color := gated_color, attention_state := attention_of case.status }

theorem compute_case_summary_eq (hpick : pick_primary_record records = .ok primary) :
    compute_case_summary from_iso case records = do
      let summary ← summary_but_impact from_iso case records primary
      return { summary with dollar_impact := ← dollar_impact_of primary } := by
  unfold compute_case_summary summary_but_impact
  rw [ok_bind hpick]
  simp only [bind_assoc, pure_bind]

/-- The headline or the colour of the case cannot be made. -/
def CannotBeShown (from_iso : FromIso) (case : QueuedCase) (records : List ChildRecord)
    (primary : Option ChildRecord) : Prop :=
  (∃ e, render_template from_iso primary = .error e) ∨
    ∃ e, apply_verdict_color_gates (verdict_color_rollup records) (intent_of primary) primary case
      = .error e

theorem cannotBeShown_iff : CannotBeShown from_iso case records primary ↔
    ∃ e, summary_but_impact from_iso case records primary = .error e := by
  unfold CannotBeShown summary_but_impact
  rcases render_template from_iso primary with e | rendered
  · exact ⟨fun _ => ⟨e, rfl⟩, fun _ => .inl ⟨e, rfl⟩⟩
  · rw [ok_bind rfl]
    rcases apply_verdict_color_gates (verdict_color_rollup records) (intent_of primary) primary case
      with e | color
    · exact ⟨fun _ => ⟨e, rfl⟩, fun _ => .inr ⟨e, rfl⟩⟩
    · constructor
      · rintro (⟨e, ⟨⟩⟩ | ⟨e, ⟨⟩⟩)
      · rintro ⟨e, ⟨⟩⟩

/-- The two sets have the same child as the primary one. -/
inductive AgreeOnPrimary (records records' : List ChildRecord) :
    Option ChildRecord → Option ChildRecord → Prop
  | none (hpick : pick_primary_record records = .ok none)
      (hpick' : pick_primary_record records' = .ok none) :
      AgreeOnPrimary records records' none none
  | child (r r' : ChildRecord) (hchild : (r, r') ∈ records.zip records')
      (hpick : pick_primary_record records = .ok (some r))
      (hpick' : pick_primary_record records' = .ok (some r')) :
      AgreeOnPrimary records records' (some r) (some r')

theorem AgreeOnPrimary.picks (h : AgreeOnPrimary records records' primary primary') :
    pick_primary_record records = .ok primary ∧ pick_primary_record records' = .ok primary' := by
  cases h with
  | none hpick hpick' => exact ⟨hpick, hpick'⟩
  | child r r' _ hpick hpick' => exact ⟨hpick, hpick'⟩

/-- Everything but the impact is the same in the two summaries. -/
theorem summary_but_impact_same (hsame : List.Forall₂ SameRecord records records')
    (h : AgreeOnPrimary records records' primary primary') :
    summary_but_impact from_iso case records primary =
      summary_but_impact from_iso case records' primary' := by
  unfold summary_but_impact
  rw [verdict_color_rollup_same hsame]
  cases h with
  | none _ _ => rfl
  | child r r' hchild _ _ =>
    have hr : SameRecord r r' := (List.forall₂_iff_zip.mp hsame).2 hchild
    have hheadline : render_template from_iso (some r) = render_template from_iso (some r') :=
      render_template_blind from_iso r r' hr
    have hcolor : apply_verdict_color_gates (verdict_color_rollup records') (intent_of (some r))
        (some r) case = apply_verdict_color_gates (verdict_color_rollup records')
        (intent_of (some r')) (some r') case := gates_blind _ case r r' hr
    have hreason : reason_headline_fallback (some r) = reason_headline_fallback (some r') :=
      reason_headline_fallback_blind r r' hr
    have hintent : intent_of (some r) = intent_of (some r') := hr.intent
    rw [hheadline, hcolor, hreason, hintent]

end summary

end asoe
