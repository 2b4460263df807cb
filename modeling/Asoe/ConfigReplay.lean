-- The rows of the tenant config beside the entries that their edits leave in
-- the audit log: the key of an entry stands for a row, its new value for the
-- weights of the row, and an empty new value for a row that went.
import Asoe.ConfigRoutes
import Asoe.Lib.Runs
import Asoe.Lib.PyJsonRead
import Asoe.Lib.TableLog

namespace asoe

open py prog runs grouping tablelog policy_repository tenant_config_repository

/-! ## Calls -/

inductive ConfigCall where
  | put (req : TenantConfigUpsertRequest)
  | delete (req : TenantConfigDeleteRequest)

def ConfigCall.scope : ConfigCall → PyDict
  | .put req => req.scope
  | .delete req => req.scope

/-- Some weight is put. -/
def ConfigCall.SomeWeight : ConfigCall → Prop
  | .put req => req.weights ≠ []
  | .delete _ => True

instance : DecidablePred ConfigCall.SomeWeight
  | .put req => inferInstanceAs (Decidable (req.weights ≠ []))
  | .delete _ => instDecidableTrue

theorem ConfigCall.once : (call : ConfigCall) → Once call.scope
  | .put req => req.once
  | .delete req => req.once

/-- The weights that the call leaves; a removal leaves none. -/
def ConfigCall.weights : ConfigCall → Weights
  | .put req => req.weights
  | .delete _ => []

def ConfigCall.change_reason : ConfigCall → Option String
  | .put req => req.change_reason
  | .delete req => req.change_reason

/-- A call with its caller, its path and what it draws. -/
structure ConfigStep where
  user : AuthenticatedUser
  tenant_id : String
  layer : String
  call : ConfigCall
  draws : ConfigDraws

section steps

variable (db : Database) (as_float : PyVal → Option PyFloat)

def ConfigStep.answer (st : ConfigStep) : ConfigM Unit :=
  match st.call with
  | .put req => do
    let _ ← upsert_layer db as_float st.user st.draws st.tenant_id st.layer req
  | .delete req => do
    let _ ← delete_layer db as_float st.user st.draws st.tenant_id st.layer req

def config_step (st : ConfigStep) (tables : ConfigTables) : ConfigTables :=
  endState (st.answer db as_float tables)

/-- The rows that the call leaves. -/
def ConfigStep.rows_after (st : ConfigStep) (rows : List ConfigRow) : List ConfigRow :=
  match st.call with
  | .put req => (upsert rows st.tenant_id st.layer req.scope req.weights st.user.sub
      st.draws.record_id st.draws.row_now).1
  | .delete req => delete rows st.tenant_id st.layer req.scope

/-- The event that the call builds. -/
def ConfigStep.event (st : ConfigStep) (rows : List ConfigRow) : Except PyErr ConfigChangeEvent :=
  validate_python as_float (config_payload st.layer st.tenant_id st.call.scope st.call.weights
    (weights_before db rows st.tenant_id st.layer st.call.scope) st.user.sub
    st.call.change_reason st.draws.timestamp)

/-- What the audit log is told of an event. -/
def ConfigStep.entry (st : ConfigStep) (event : ConfigChangeEvent) : AuditInsert :=
  AuditEventCall.insert ⟨st.tenant_id, policy_key_for_event event,
    (event.previous_weights.map ofWeights).getD .none, ofWeights event.new_weights, st.user.sub,
    st.call.change_reason, st.draws.audit_id, st.draws.audit_now⟩

/-- What a call that went through did: the rows are edited, and then the
event is written down. A removal found its row. -/
structure Edited (st : ConfigStep) (tables tables' : ConfigTables) : Prop where
  edited : ∃ event, st.event db as_float tables.tenant_config = .ok event ∧
    tables' = { tables with
      tenant_config := st.rows_after tables.tenant_config
      policy_audit_log := insert_audit_event (st.entry event) tables.policy_audit_log }
  found : (∃ req, st.call = .delete req) →
    (get_row tables.tenant_config st.tenant_id st.layer st.call.scope).isSome = true

theorem wp_validate_scope {layer : String} {scope : PyDict} {Q : Unit → ConfigTables → Prop}
    {E : ConfigError → ConfigTables → Prop} {tables : ConfigTables} (hQ : Q () tables)
    (hE : ∀ e, E e tables) : wp (validate_scope_for_layer layer scope) Q E tables := by
  unfold validate_scope_for_layer
  split
  · exact (wp_require _ _).mpr ⟨fun _ => hQ, fun _ => hE _⟩
  · split
    · rw [wp_bind, wp_require]
      refine ⟨fun _ => ?_, fun _ => hE _⟩
      exact (wp_require _ _).mpr ⟨fun _ => hQ, fun _ => hE _⟩
    · split
      · exact (wp_require _ _).mpr ⟨fun _ => hQ, fun _ => hE _⟩
      · split
        · exact (wp_require _ _).mpr ⟨fun _ => hQ, fun _ => hE _⟩
        · exact hQ

theorem wp_build_event {user : AuthenticatedUser} {draws : ConfigDraws} {tenant_id layer : String}
    {scope : PyDict} {weights : Weights} {previous : PyVal} {change_reason : Option String}
    {Q : ConfigChangeEvent → ConfigTables → Prop} {E : ConfigError → ConfigTables → Prop}
    {tables : ConfigTables}
    (hQ : ∀ event, validate_python as_float (config_payload layer tenant_id scope weights previous
      user.sub change_reason draws.timestamp) = .ok event → Q event tables)
    (hE : ∀ e, E e tables) :
    wp (build_config_change_event as_float user draws tenant_id layer scope weights previous
      change_reason) Q E tables := by
  unfold build_config_change_event
  cases h : validate_python as_float (config_payload layer tenant_id scope weights previous
      user.sub change_reason draws.timestamp) with
  | error e => exact hE _
  | ok event => exact hQ event h

/-- A call that is refused changes nothing. -/
theorem answer_edits (st : ConfigStep) (tables : ConfigTables) :
    wp (st.answer db as_float) (fun _ tables' => Edited db as_float st tables tables')
      (fun _ tables' => tables' = tables) tables := by
  obtain ⟨user, tenant_id, layer, call, draws⟩ := st
  unfold ConfigStep.answer
  cases call with
  | put req =>
    simp only [upsert_layer, config_role, validate_layer_name, wp_bind, wp_require]
    refine ⟨fun _ => ⟨fun _ => ?_, fun _ => trivial⟩, fun _ => trivial⟩
    refine wp_validate_scope ?_ fun _ => rfl
    rw [wp_get]
    refine wp_build_event as_float (fun event hevent => ⟨⟨event, hevent, rfl⟩, ?_⟩) fun _ => rfl
    rintro ⟨req, h⟩
    cases h
  | delete req =>
    simp only [delete_layer, config_role, validate_layer_name, wp_bind, wp_require]
    refine ⟨fun _ => ⟨fun _ => ?_, fun _ => trivial⟩, fun _ => trivial⟩
    refine wp_validate_scope ?_ fun _ => rfl
    rw [wp_get]
    refine ⟨fun hfound => ?_, fun _ => rfl⟩
    refine wp_build_event as_float (fun event hevent => ?_) fun _ => rfl
    exact ⟨⟨event, hevent, rfl⟩, fun _ => hfound⟩

end steps

/-! ## Keys -/

/-- The scope of a layer, as its keys say. -/
def scope_of (layer : String) (scope : PyDict) : Option ConfigScope :=
  if layer = "tenant" then some .tenant
  else if layer = "tier" then ((dict.get scope "customer_tier").bind text?).map .tier
  else if layer = "customer" then ((dict.get scope "customer_id").bind text?).map .customer
  else if layer = "channel" then
    ((dict.get scope "customer_id").bind text?).bind fun customer_id =>
      ((dict.get scope "channel").bind text?).map (.channel customer_id)
  else none

/-- The key that stands for a place of the table. -/
def place_key (layer : String) (scope : PyDict) : String :=
  match scope_of layer scope with
  | some s => CONFIG_AUDIT_PREFIX ++ s.text
  | none => ""

/-- The rows of a tenant. -/
def tenant_rows (rows : List ConfigRow) (tenant_id : String) : List ConfigRow :=
  rows.filter fun row => row.tenant_id = tenant_id

/-- A row as the log should tell it. -/
def row_entry (row : ConfigRow) : String × String :=
  (place_key row.layer row.scope, json_dumps (ofWeights row.weights))

/-- The edits that the audit log tells of a tenant. -/
def config_edits (log : List AuditRow) (tenant_id : String) : List (Edit String String) :=
  ((rows_of log tenant_id).filter fun row =>
      CONFIG_AUDIT_PREFIX.toList.isPrefixOf row.policy_key.toList).map fun row =>
    (row.policy_key, if row.new_value = json_dumps (.dict []) then none else some row.new_value)

/-- Replaying the entries of a tenant gives its rows. -/
def Reconstructed (tables : ConfigTables) (tenant_id : String) : Prop :=
  Tells row_entry (tenant_rows tables.tenant_config tenant_id)
    (config_edits tables.policy_audit_log tenant_id)

theorem json_dumps_weights (weights : Weights) :
    json_dumps (ofWeights weights) = json_dumps (.dict []) ↔ weights = [] := by
  constructor
  · intro h
    cases weights with
    | nil => rfl
    | cons p rest =>
      have hchars := String.ofList_inj.mp h
      simp only [ofWeights, List.map_cons, json.dumps, json.dumpsDict, json.members] at hchars
      cases hrest : json.dumpsDict false (rest.map fun p => (p.1, PyVal.float p.2)) with
      | nil => simp [hrest, json.commas, json.member, json.quoted] at hchars
      | cons q rest => simp [hrest, json.commas, json.member, json.quoted] at hchars
  · rintro rfl
    rfl

theorem scope_of_canonical {scope : PyDict} (h : Once scope) (layer : String) :
    scope_of layer (canonical_scope scope) = scope_of layer scope := by
  have hget : ∀ key, (dict.get (canonical_scope scope) key).bind text? =
      (dict.get scope key).bind text? := by
    intro key
    cases hscope : dict.get scope key with
    | none =>
      cases hcanonical : dict.get (canonical_scope scope) key with
      | none => rfl
      | some v =>
        have hthere := (h.get_filter.mp hcanonical).1
        rw [hscope] at hthere
        cases hthere
    | some v =>
      by_cases hv : v = .none
      · subst hv
        cases hcanonical : dict.get (canonical_scope scope) key with
        | none => rfl
        | some w =>
          obtain ⟨hthere, hkept⟩ := h.get_filter.mp hcanonical
          obtain rfl := Option.some.inj (hscope.symm.trans hthere)
          simp at hkept
      · have hkept : dict.get (canonical_scope scope) key = some v :=
          h.get_filter.mpr ⟨hscope, by simpa using hv⟩
        rw [hkept]
  simp only [scope_of, hget]

/-! ## What an event says -/

theorem field_ok {α : Type} {payload : PyDict} {key : String} {read : PyVal → Option α} {a : α} :
    field payload key read = .ok a ↔ ∃ v, dict.get payload key = some v ∧ read v = some a := by
  unfold field
  cases hget : dict.get payload key with
  | none => simp
  | some v => cases hread : read v <;> simp [hread]

theorem validate_python_ok {as_float : PyVal → Option PyFloat} {payload : PyDict}
    {event : ConfigChangeEvent} (h : validate_python as_float payload = .ok event) :
    read_scope payload = .ok event.scope ∧
      field payload "new_weights" (weights? as_float) = .ok event.new_weights ∧
      field payload "previous_weights" (optional? (weights? as_float)) =
        .ok event.previous_weights := by
  have hfields : returns (validate_python as_float payload) fun event =>
      read_scope payload = .ok event.scope ∧
        field payload "new_weights" (weights? as_float) = .ok event.new_weights ∧
        field payload "previous_weights" (optional? (weights? as_float)) =
          .ok event.previous_weights := by
    unfold validate_python
    refine returns_bind fun scope hscope => ?_
    refine returns_ite (fun _ => returns_error _) fun _ => ?_
    refine returns_bind fun _ _ => returns_bind fun _ _ => returns_bind fun _ _ => ?_
    refine returns_bind fun _ _ => returns_bind fun new_weights hnew => ?_
    refine returns_bind fun previous_weights hprevious => returns_bind fun _ _ => ?_
    exact (returns_pure _).mpr ⟨hscope, hnew, hprevious⟩
  exact hfields event h

/-- The layer that is read from a payload with the keys of the scope. -/
theorem read_scope_ok {payload scope : PyDict} {layer : String} {s : ConfigScope}
    (h : read_scope payload = .ok s) (hlayer : dict.get payload "layer" = some (.str layer))
    (hkeys : ∀ key ∈ ["customer_tier", "customer_id", "channel"],
      dict.get payload key = dict.get scope key) : scope_of layer scope = some s := by
  have htext : ∀ {key : String} {read : PyVal → Option String},
      key ∈ ["customer_tier", "customer_id", "channel"] →
      (∀ v t, read v = some t → text? v = some t) → ∀ {t : String},
      field payload key read = .ok t → (dict.get scope key).bind text? = some t := by
    intro key read hkey hread t hfield
    obtain ⟨v, hv, ht⟩ := field_ok.mp hfield
    rw [← hkeys key hkey, hv, Option.bind_some, hread v t ht]
  have hscope : returns (read_scope payload) fun s => scope_of layer scope = some s := by
    unfold read_scope
    refine returns_bind fun name hname => ?_
    obtain ⟨v, hv, hliteral⟩ := field_ok.mp hname
    obtain rfl := Option.some.inj (hlayer.symm.trans hv)
    obtain ⟨hname, hallowed⟩ := Option.filter_eq_some_iff.mp hliteral
    obtain rfl := Option.some.inj hname
    unfold scope_of
    refine returns_ite (fun htenant => ?_) fun htenant => ?_
    · rw [if_pos htenant]
      exact (returns_pure _).mpr rfl
    rw [if_neg htenant]
    refine returns_ite (fun htier => ?_) fun htier => ?_
    · rw [if_pos htier]
      refine returns_bind fun tier hfield => (returns_pure _).mpr ?_
      rw [htext (by simp) (fun v t ht => (Option.filter_eq_some_iff.mp ht).1) hfield]
      rfl
    rw [if_neg htier]
    refine returns_ite (fun hcustomer => ?_) fun hcustomer => ?_
    · rw [if_pos hcustomer]
      refine returns_bind fun customer_id hfield => (returns_pure _).mpr ?_
      rw [htext (by simp) (fun v t ht => ht) hfield]
      rfl
    · have hchannel : layer = "channel" := by simpa [htenant, htier, hcustomer] using hallowed
      rw [if_neg hcustomer, if_pos hchannel]
      refine returns_bind fun customer_id hfield => returns_bind fun name hfield' => ?_
      refine (returns_pure _).mpr ?_
      rw [htext (by simp) (fun v t ht => ht) hfield, htext (by simp) (fun v t ht => ht) hfield']
      rfl
  exact hscope s h

/-! ## Calls that are told as they are -/

section told

variable (db : Database) (as_float : PyVal → Option PyFloat)

/-- What was written comes back as it was. -/
def HandsBack (weights : Weights) : Prop :=
  weights? as_float (stored_weights db weights) = some weights

/-- The scope of the call does not speak for its event, some weight is put,
and the key of the place is the key of no other row. -/
structure Plain (st : ConfigStep) (tables : ConfigTables) : Prop where
  layer : ∀ v ∈ dict.get st.call.scope "layer", v = .str st.layer
  new_weights : ∀ v ∈ dict.get st.call.scope "new_weights",
    weights? as_float v = some st.call.weights
  previous_weights : ∀ v ∈ dict.get st.call.scope "previous_weights",
    optional? (weights? as_float) v = some ((get_row tables.tenant_config st.tenant_id st.layer
      st.call.scope).map ConfigRow.weights)
  some_weight : st.call.SomeWeight
  own_key : ∀ row ∈ tables.tenant_config, row.tenant_id = st.tenant_id →
    (place_key row.layer row.scope = place_key st.layer st.call.scope ↔
      row.layer = st.layer ∧ row.scope_hash = scope_hash st.call.scope)

theorem plain_iff (st : ConfigStep) (tables : ConfigTables) :
    Plain as_float st tables ↔
      (∀ v ∈ dict.get st.call.scope "layer", v = .str st.layer) ∧
      (∀ v ∈ dict.get st.call.scope "new_weights", weights? as_float v = some st.call.weights) ∧
      (∀ v ∈ dict.get st.call.scope "previous_weights", optional? (weights? as_float) v =
        some ((get_row tables.tenant_config st.tenant_id st.layer st.call.scope).map
          ConfigRow.weights)) ∧
      st.call.SomeWeight ∧
      ∀ row ∈ tables.tenant_config, row.tenant_id = st.tenant_id →
        (place_key row.layer row.scope = place_key st.layer st.call.scope ↔
          row.layer = st.layer ∧ row.scope_hash = scope_hash st.call.scope) := by
  constructor
  · intro h
    exact ⟨h.layer, h.new_weights, h.previous_weights, h.some_weight, h.own_key⟩
  · rintro ⟨hlayer, hnew, hprevious, hsome, hown⟩
    exact ⟨hlayer, hnew, hprevious, hsome, hown⟩

instance (st : ConfigStep) (tables : ConfigTables) : Decidable (Plain as_float st tables) :=
  decidable_of_iff _ (plain_iff as_float st tables).symm

variable {db as_float}

theorem weights?_ofWeights (hfloat : ∀ x, as_float (.float x) = some x) (weights : Weights) :
    weights? as_float (ofWeights weights) = some weights := by
  have hmap : (weights.map fun p => (p.1, PyVal.float p.2)).mapM
      (fun p => (as_float p.2).map fun x => (p.1, x)) = some weights := by
    induction weights with
    | nil => rfl
    | cons p weights ih =>
      rw [List.map_cons, List.mapM_cons, ih]
      simp [hfloat]
  exact hmap

theorem optional?_weights {v : PyVal} {weights : Weights} (h : weights? as_float v = some weights) :
    optional? (weights? as_float) v = some (some weights) := by
  unfold optional?
  split
  · cases h
  · rw [h]
    rfl

theorem weights_before_read {rows : List ConfigRow} {tenant_id layer : String} {scope : PyDict}
    (hrows : ∀ row ∈ rows, HandsBack db as_float row.weights) :
    optional? (weights? as_float) (weights_before db rows tenant_id layer scope) =
      some ((get_row rows tenant_id layer scope).map ConfigRow.weights) := by
  unfold weights_before
  cases hrow : get_row rows tenant_id layer scope with
  | none => rfl
  | some row =>
    exact optional?_weights (hrows row (List.mem_of_find?_eq_some hrow))

/-- The event of such a call names its place, its weights and those before. -/
theorem event_of_plain {st : ConfigStep} {tables : ConfigTables} {event : ConfigChangeEvent}
    (hfloat : ∀ x, as_float (.float x) = some x) (h : Plain as_float st tables)
    (hrows : ∀ row ∈ tables.tenant_config, HandsBack db as_float row.weights)
    (hevent : st.event db as_float tables.tenant_config = .ok event) :
    scope_of st.layer st.call.scope = some event.scope ∧ event.new_weights = st.call.weights ∧
      event.previous_weights = (get_row tables.tenant_config st.tenant_id st.layer
        st.call.scope).map ConfigRow.weights := by
  obtain ⟨hscope, hnew, hprevious⟩ := validate_python_ok hevent
  have hget : ∀ key, dict.get (config_payload st.layer st.tenant_id st.call.scope st.call.weights
      (weights_before db tables.tenant_config st.tenant_id st.layer st.call.scope) st.user.sub
      st.call.change_reason st.draws.timestamp) key = (dict.get st.call.scope key).or _ :=
    fun key => st.call.once.get_update _ key
  refine ⟨read_scope_ok hscope ?_ ?_, ?_, ?_⟩
  · rw [hget]
    cases hlayer : dict.get st.call.scope "layer" with
    | none => rfl
    | some v => rw [h.layer v hlayer]; rfl
  · intro key hkey
    rw [hget]
    simp only [List.mem_cons, List.not_mem_nil, or_false] at hkey
    rcases hkey with rfl | rfl | rfl
    all_goals exact Option.or_none
  · obtain ⟨v, hv, hread⟩ := field_ok.mp hnew
    rw [hget] at hv
    cases hoverride : dict.get st.call.scope "new_weights" with
    | some w =>
      rw [hoverride] at hv
      obtain rfl := Option.some.inj hv
      exact Option.some.inj (hread.symm.trans (h.new_weights _ hoverride))
    | none =>
      rw [hoverride] at hv
      obtain rfl : ofWeights st.call.weights = v := Option.some.inj hv
      exact Option.some.inj (hread.symm.trans (weights?_ofWeights hfloat _))
  · obtain ⟨v, hv, hread⟩ := field_ok.mp hprevious
    rw [hget] at hv
    cases hoverride : dict.get st.call.scope "previous_weights" with
    | some w =>
      rw [hoverride] at hv
      obtain rfl := Option.some.inj hv
      exact Option.some.inj (hread.symm.trans (h.previous_weights _ hoverride))
    | none =>
      rw [hoverride] at hv
      obtain rfl : weights_before db _ _ _ _ = v := Option.some.inj hv
      exact Option.some.inj (hread.symm.trans (weights_before_read hrows))

end told

/-! ## Rows and entries of a tenant -/

theorem canonical_canonical (scope : PyDict) :
    canonical_scope (canonical_scope scope) = canonical_scope scope := by
  rw [canonical_scope, canonical_scope, List.filter_filter]
  simp only [Bool.and_self]

theorem scope_hash_canonical (scope : PyDict) :
    scope_hash (canonical_scope scope) = scope_hash scope := by
  rw [scope_hash, canonical_canonical, scope_hash]

theorem tenant_rows_update {rows : List ConfigRow} {tenant_id layer hash : String}
    (f : ConfigRow → ConfigRow) (hf : ∀ row, (f row).tenant_id = row.tenant_id) (t : String) :
    tenant_rows (rows.map fun row => if At tenant_id layer hash row then f row else row) t =
      (tenant_rows rows t).map fun row => if At tenant_id layer hash row then f row else row := by
  unfold tenant_rows
  rw [List.filter_map]
  congr 1
  refine List.filter_congr fun row _ => ?_
  simp only [Function.comp_apply]
  split
  · rw [hf]
  · rfl

/-- A row after the call wrote to it. -/
def ConfigStep.updated (st : ConfigStep) (row : ConfigRow) : ConfigRow :=
  { row with weights := st.call.weights, created_by := st.user.sub, updated_at := st.draws.row_now }

/-- The row that the call adds. -/
def ConfigStep.inserted (st : ConfigStep) : ConfigRow :=
  ⟨st.draws.record_id, st.tenant_id, st.layer, scope_hash st.call.scope,
    canonical_scope st.call.scope, st.call.weights, st.user.sub, st.draws.row_now, st.draws.row_now⟩

section edits

variable {st : ConfigStep} {rows : List ConfigRow}

/-- What a call does to the rows: it writes to those at its place, adds one
there, or takes them away. -/
theorem rows_after_cases (st : ConfigStep) (rows : List ConfigRow) :
    (∃ existing req, st.call = .put req ∧
      get_row rows st.tenant_id st.layer st.call.scope = some existing ∧
      st.rows_after rows = rows.map fun row =>
        if At st.tenant_id st.layer (scope_hash st.call.scope) row then st.updated row else row) ∨
    (∃ req, st.call = .put req ∧ get_row rows st.tenant_id st.layer st.call.scope = none ∧
      st.rows_after rows = rows ++ [st.inserted]) ∨
    (∃ req, st.call = .delete req ∧ st.rows_after rows = rows.filter fun row =>
      ¬ At st.tenant_id st.layer (scope_hash st.call.scope) row) := by
  obtain ⟨user, tenant_id, layer, call, draws⟩ := st
  cases call with
  | put req =>
    have hrow : get_row rows tenant_id layer (canonical_scope req.scope) =
        get_row rows tenant_id layer req.scope := by
      rw [get_row, get_row, scope_hash_canonical]
    cases hget : get_row rows tenant_id layer req.scope with
    | some existing =>
      refine .inl ⟨existing, req, rfl, hget, ?_⟩
      simp only [ConfigStep.rows_after, upsert, hrow, hget, scope_hash_canonical]
      rfl
    | none =>
      refine .inr (.inl ⟨req, rfl, hget, ?_⟩)
      simp only [ConfigStep.rows_after, upsert, hrow, hget, scope_hash_canonical]
      rfl
  | delete req =>
    refine .inr (.inr ⟨req, rfl, ?_⟩)
    simp only [ConfigStep.rows_after, delete]
    cases hget : get_row rows tenant_id layer req.scope with
    | none =>
      refine (List.filter_eq_self.mpr fun row hrow => ?_).symm
      have hnot : ¬ At tenant_id layer (scope_hash req.scope) row := by
        simpa using List.find?_eq_none.mp hget row hrow
      exact decide_eq_true hnot
    | some existing =>
      have hat : At tenant_id layer (scope_hash req.scope) existing := by
        simpa using List.find?_some hget
      simp only [hat.2.2]
      rfl

/-- The rows of another tenant stay. -/
theorem rows_after_other {t : String} (ht : t ≠ st.tenant_id) :
    tenant_rows (st.rows_after rows) t = tenant_rows rows t := by
  have hnot : ∀ row, row.tenant_id = t →
      ¬ At st.tenant_id st.layer (scope_hash st.call.scope) row :=
    fun row hrow hat => ht (hrow.symm.trans hat.1)
  obtain ⟨existing, req, -, -, hrows⟩ | ⟨req, -, -, hrows⟩ | ⟨req, -, hrows⟩ :=
    rows_after_cases st rows
  · rw [hrows, tenant_rows_update st.updated fun _ => rfl]
    refine (List.map_congr_left fun row hrow => if_neg (hnot row ?_)).trans (List.map_id' _)
    simpa using (List.mem_filter.mp hrow).2
  · rw [hrows, tenant_rows, List.filter_append]
    simp [tenant_rows, ConfigStep.inserted, Ne.symm ht]
  · rw [hrows, tenant_rows, List.filter_filter]
    refine List.filter_congr fun row hrow => ?_
    by_cases htenant : row.tenant_id = t
    · simp [htenant, hnot row htenant]
    · simp [htenant]

theorem weights_of_rows_after {row : ConfigRow} (h : row ∈ st.rows_after rows) :
    row.weights = st.call.weights ∨ ∃ r ∈ rows, row.weights = r.weights := by
  obtain ⟨existing, req, -, -, hrows⟩ | ⟨req, -, -, hrows⟩ | ⟨req, -, hrows⟩ :=
    rows_after_cases st rows
  · rw [hrows] at h
    obtain ⟨r, hr, rfl⟩ := List.mem_map.mp h
    split
    · exact .inl rfl
    · exact .inr ⟨r, hr, rfl⟩
  · rw [hrows] at h
    rcases List.mem_append.mp h with h | h
    · exact .inr ⟨row, h, rfl⟩
    · obtain rfl := List.mem_singleton.mp h
      exact .inl rfl
  · rw [hrows] at h
    exact .inr ⟨row, (List.mem_filter.mp h).1, rfl⟩

end edits

/-- The entry of an event adds one edit to those of its tenant. -/
theorem config_edits_insert (st : ConfigStep) (event : ConfigChangeEvent) (log : List AuditRow)
    (t : String) :
    config_edits (insert_audit_event (st.entry event) log) t =
      config_edits log t ++ if st.tenant_id = t then
        [(policy_key_for_event event, if event.new_weights = [] then none
          else some (json_dumps (ofWeights event.new_weights)))] else [] := by
  have hprefix : CONFIG_AUDIT_PREFIX.toList.isPrefixOf (policy_key_for_event event).toList =
      true := by
    rw [policy_key_for_event, String.toList_append]
    simp
  have hvalue : json_dumps (ofWeights event.new_weights) = json_dumps (.dict []) ↔
      event.new_weights = [] := json_dumps_weights _
  unfold config_edits insert_audit_event rows_of
  rw [List.filter_append, List.filter_append, List.map_append]
  congr 1
  by_cases ht : st.tenant_id = t
  · simp only [new_row, ConfigStep.entry, AuditEventCall.insert, ht, decide_true, hprefix,
      List.filter_cons_of_pos, List.filter_nil, List.map_cons, List.map_nil, if_true, hvalue]
  · simp [new_row, ConfigStep.entry, AuditEventCall.insert, ht]

/-! ## Runs -/

section run

variable {db : Database} {as_float : PyVal → Option PyFloat}

theorem get_row_at {rows : List ConfigRow} {tenant_id layer : String} {scope : PyDict}
    {row : ConfigRow} (h : get_row rows tenant_id layer scope = some row) :
    row ∈ rows ∧ At tenant_id layer (scope_hash scope) row :=
  ⟨List.mem_of_find?_eq_some h, by simpa using List.find?_some h⟩

theorem place_key_of_event {st : ConfigStep} {event : ConfigChangeEvent}
    (h : scope_of st.layer st.call.scope = some event.scope) :
    policy_key_for_event event = place_key st.layer st.call.scope := by
  rw [policy_key_for_event, place_key, h]

/-- A call that is told as it is keeps the log in step with the rows. -/
theorem reconstructed_after {st : ConfigStep} {tables tables' : ConfigTables}
    (hfloat : ∀ x, as_float (.float x) = some x) (hplain : Plain as_float st tables)
    (hrows : ∀ row ∈ tables.tenant_config, HandsBack db as_float row.weights)
    (hedited : Edited db as_float st tables tables')
    (h : ∀ t, Reconstructed tables t) (t : String) : Reconstructed tables' t := by
  obtain ⟨⟨event, hevent, rfl⟩, -⟩ := hedited
  obtain ⟨hscope, hnew, -⟩ := event_of_plain hfloat hplain hrows hevent
  unfold Reconstructed
  simp only [config_edits_insert, place_key_of_event hscope, hnew]
  by_cases ht : st.tenant_id = t
  · subst ht
    have htells := h st.tenant_id
    unfold Reconstructed at htells
    have hplace : ∀ row ∈ tenant_rows tables.tenant_config st.tenant_id,
        At st.tenant_id st.layer (scope_hash st.call.scope) row ↔
          (row_entry row).1 = place_key st.layer st.call.scope := by
      intro row hrow
      obtain ⟨hmem, htenant⟩ := List.mem_filter.mp hrow
      have htenant : row.tenant_id = st.tenant_id := by simpa using htenant
      rw [row_entry, hplain.own_key row hmem htenant]
      exact ⟨fun hat => hat.2, fun hat => ⟨htenant, hat⟩⟩
    rw [if_pos rfl]
    obtain ⟨existing, req, hcall, hget, hafter⟩ | ⟨req, hcall, hget, hafter⟩ |
      ⟨req, hcall, hafter⟩ := rows_after_cases st tables.tenant_config
    · -- The row is there, and the entry speaks of it.
      have hsome : st.call.weights ≠ [] := by
        have hput := hplain.some_weight
        rw [hcall] at hput ⊢
        exact hput
      obtain ⟨hmem, hat⟩ := get_row_at hget
      have hthere : existing ∈ tenant_rows tables.tenant_config st.tenant_id :=
        List.mem_filter.mpr ⟨hmem, by simpa using hat.1⟩
      rw [if_neg hsome, hafter, tenant_rows_update st.updated fun _ => rfl]
      refine htells.updated hplace (fun row hrow hat => ?_) ⟨existing, hthere, hat⟩
      exact Prod.ext ((hplace row hrow).mp hat) rfl
    · -- The row is new, and so is its key.
      have hsome : st.call.weights ≠ [] := by
        have hput := hplain.some_weight
        rw [hcall] at hput ⊢
        exact hput
      have hfilter : tenant_rows (tables.tenant_config ++ [st.inserted]) st.tenant_id =
          tenant_rows tables.tenant_config st.tenant_id ++ [st.inserted] := by
        simp [tenant_rows, ConfigStep.inserted]
      rw [if_neg hsome, hafter, hfilter]
      refine htells.inserted ?_ fun row hrow hkey => ?_
      · rw [row_entry, place_key, ConfigStep.inserted]
        simp only [scope_of_canonical st.call.once]
        rfl
      · have hat := (hplace row hrow).mpr hkey
        have hnot := List.find?_eq_none.mp hget row (List.mem_filter.mp hrow).1
        exact hnot (by simpa using hat)
    · have hnone : st.call.weights = [] := by
        rw [hcall]
        rfl
      have hfilter : tenant_rows (tables.tenant_config.filter fun row =>
            ¬ At st.tenant_id st.layer (scope_hash st.call.scope) row) st.tenant_id =
          (tenant_rows tables.tenant_config st.tenant_id).filter fun row =>
            ¬ At st.tenant_id st.layer (scope_hash st.call.scope) row := by
        rw [tenant_rows, tenant_rows, List.filter_filter, List.filter_filter]
        exact List.filter_congr fun row _ => Bool.and_comm _ _
      rw [if_pos hnone, hafter, hfilter]
      exact htells.removed hplace
  · rw [if_neg ht, List.append_nil, rows_after_other (Ne.symm ht)]
    exact h t

/-- What the entry of a call says: its place, the weights of the row before
and after, and the caller. -/
structure ConfigRecorded (st : ConfigStep) (tables tables' : ConfigTables) (row : AuditRow) :
    Prop where
  appended : tables'.policy_audit_log = tables.policy_audit_log ++ [row]
  tenant_id : row.tenant_id = st.tenant_id
  policy_key : row.policy_key = place_key st.layer st.call.scope
  previous_value : row.previous_value = (get_row tables.tenant_config st.tenant_id st.layer
    st.call.scope).map fun before => json_dumps (ofWeights before.weights)
  new_value : row.new_value = json_dumps (ofWeights st.call.weights)
  changed_by : row.changed_by = st.user.sub

theorem config_recorded {st : ConfigStep} {tables tables' : ConfigTables}
    (hfloat : ∀ x, as_float (.float x) = some x) (hplain : Plain as_float st tables)
    (hrows : ∀ row ∈ tables.tenant_config, HandsBack db as_float row.weights)
    (hedited : Edited db as_float st tables tables') :
    ∃ row, ConfigRecorded st tables tables' row := by
  obtain ⟨⟨event, hevent, rfl⟩, -⟩ := hedited
  obtain ⟨hscope, hnew, hprevious⟩ := event_of_plain hfloat hplain hrows hevent
  refine ⟨_, rfl, rfl, place_key_of_event hscope, ?_, ?_, rfl⟩
  · simp only [new_row, ConfigStep.entry, AuditEventCall.insert, hprevious]
    cases get_row tables.tenant_config st.tenant_id st.layer st.call.scope <;> rfl
  · simp only [new_row, ConfigStep.entry, AuditEventCall.insert, hnew]

/-- The call goes through. -/
def ConfigGoesThrough (db : Database) (as_float : PyVal → Option PyFloat) (st : ConfigStep)
    (tables : ConfigTables) : Prop :=
  ∃ tables', st.answer db as_float tables = .ok () tables'

/-- The log is in step with the rows of every tenant, and the rows come back
as they were written. -/
def LogInStep (db : Database) (as_float : PyVal → Option PyFloat) (tables : ConfigTables) : Prop :=
  (∀ t, Reconstructed tables t) ∧ ∀ row ∈ tables.tenant_config, HandsBack db as_float row.weights

theorem logInStep_empty : LogInStep db as_float {} :=
  ⟨fun _ => List.Perm.refl _, fun _ h => by cases h⟩

theorem logInStep_step (hfloat : ∀ x, as_float (.float x) = some x) {st : ConfigStep}
    {tables : ConfigTables}
    (hplain : ConfigGoesThrough db as_float st tables → Plain as_float st tables)
    (hback : HandsBack db as_float st.call.weights) (h : LogInStep db as_float tables) :
    LogInStep db as_float (config_step db as_float st tables) := by
  obtain ⟨htold, hrows⟩ := h
  have hspec := answer_edits db as_float st tables
  unfold config_step
  rcases hrun : st.answer db as_float tables with ⟨⟨⟩, tables'⟩ | ⟨e, tables'⟩
  · have hedited : Edited db as_float st tables tables' := by
      have hedited := wp_ok hspec hrun
      exact hedited
    refine ⟨reconstructed_after hfloat (hplain ⟨tables', hrun⟩) hrows hedited htold, ?_⟩
    obtain ⟨⟨event, -, htables⟩, -⟩ := hedited
    intro row hrow
    have hrow : row ∈ tables'.tenant_config := hrow
    rw [htables] at hrow
    obtain hnew | ⟨r, hr, hkept⟩ := weights_of_rows_after hrow
    · rw [hnew]
      exact hback
    · rw [hkept]
      exact hrows r hr
  · have hsame : tables' = tables := by
      have hsame := wp_error hspec hrun
      exact hsame
    rw [hsame]
    exact ⟨htold, hrows⟩

end run

/-- As long as each call that goes through is told as it is, the entries of
every tenant give its rows in every state that is reached, and each call is
recorded with its place, the weights before and after, and the caller. -/
theorem replaying_the_entries_gives_the_rows_while_each_call_is_plain {db : Database}
    {as_float : PyVal → Option PyFloat} (hfloat : ∀ x, as_float (.float x) = some x)
    {tables : ConfigTables} (hstart : LogInStep db as_float tables) {steps : List ConfigStep}
    (hback : AllSteps (config_step db as_float) (fun st _ => HandsBack db as_float st.call.weights)
      tables steps)
    (hplain : AllSteps (config_step db as_float)
      (fun st tables => ConfigGoesThrough db as_float st tables → Plain as_float st tables)
      tables steps) :
    (∀ t, Reconstructed (run (config_step db as_float) tables steps) t) ∧
      AllSteps (config_step db as_float) (fun st before =>
        (∀ t, Reconstructed (config_step db as_float st before) t) ∧
        ∀ after, st.answer db as_float before = .ok () after →
          ∃ row, ConfigRecorded st before after row) tables steps := by
  have hboth := allSteps_and hback hplain
  have hkeep : ∀ st tables, (HandsBack db as_float st.call.weights ∧
      (ConfigGoesThrough db as_float st tables → Plain as_float st tables)) →
      LogInStep db as_float tables → LogInStep db as_float (config_step db as_float st tables) :=
    fun st tables h hin => logInStep_step hfloat h.2 h.1 hin
  refine ⟨(invariant hkeep hstart hboth).1, ?_⟩
  refine allSteps_mono (fun st before h => ?_) (invariant_before hkeep hstart hboth)
  obtain ⟨hin, hback, hplain⟩ := h
  refine ⟨(logInStep_step hfloat hplain hback hin).1, fun after hrun => ?_⟩
  have hedited : Edited db as_float st before after := by
    have hedited := wp_ok (answer_edits db as_float st before) hrun
    exact hedited
  exact config_recorded hfloat (hplain ⟨after, hrun⟩) hin.2 hedited

/-! ## Calls that are not told as they are -/

/-- A database that hands back what `json.loads` makes of a text. -/
def jsonDatabase : Database :=
  ⟨.sqlite, fun _ => .none, fun text => (json.loads text.toList).getD .none⟩

/-- Numbers are taken as floats. -/
def floatOf : PyVal → Option PyFloat
  | .float x => some x
  | .int n => some (.fin n)
  | _ => none

def configAdmin : AuthenticatedUser := ⟨"admin@acme.com", ["admin"], "T1", []⟩

def configDraws (n : ℕ) : ConfigDraws :=
  let now : ClockReading := ⟨"2026-01-01", "00:00:0" ++ toString n⟩
  ⟨now, "row" ++ toString n, now, "event" ++ toString n, now⟩

def putStep (n : ℕ) (layer : String) (scope : PyDict) (weights : Weights)
    (h : Once scope := by decide) : ConfigStep :=
  ⟨configAdmin, "T1", layer, .put ⟨scope, h, weights, none⟩, configDraws n⟩

def deleteStep (n : ℕ) (layer : String) (scope : PyDict) (h : Once scope := by decide) :
    ConfigStep :=
  ⟨configAdmin, "T1", layer, .delete ⟨scope, h, none⟩, configDraws n⟩

def tierRun : List ConfigStep :=
  [putStep 1 "tier" [("customer_tier", .str "smb")] [("po", .fin (1 / 2))],
    putStep 2 "tier" [("customer_tier", .str "smb")] [("po", .fin 1)],
    deleteStep 3 "tier" [("customer_tier", .str "smb")]]

theorem the_entries_of_a_tier_give_its_row :
    Reconstructed (run (config_step jsonDatabase floatOf) {} tierRun) "T1" := by
  have hfloat : ∀ x, floatOf (.float x) = some x := fun _ => rfl
  have hstart : LogInStep jsonDatabase floatOf {} := logInStep_empty
  have hback : AllSteps (config_step jsonDatabase floatOf)
      (fun st _ => HandsBack jsonDatabase floatOf st.call.weights) {} tierRun := by
    unfold HandsBack
    decide +kernel
  have hplain : AllSteps (config_step jsonDatabase floatOf) (Plain floatOf) {} tierRun := by
    decide +kernel
  have hgone : AllSteps (config_step jsonDatabase floatOf) (fun st tables =>
      ConfigGoesThrough jsonDatabase floatOf st tables → Plain floatOf st tables) {} tierRun := by
    refine allSteps_mono ?_ hplain
    intro st tables h _
    exact h
  have hrun := @replaying_the_entries_gives_the_rows_while_each_call_is_plain jsonDatabase floatOf
    hfloat {} hstart tierRun hback hgone
  exact hrun.1 "T1"

def collidingRun : List ConfigStep :=
  [putStep 1 "channel" [("customer_id", .str "a:b"), ("channel", .str "c")] [("po", .fin 1)],
    putStep 2 "channel" [("customer_id", .str "a"), ("channel", .str "b:c")] [("po", .fin 2)]]

def emptyRun : List ConfigStep := [putStep 1 "tenant" [] []]

def forgedRun : List ConfigStep :=
  [putStep 1 "tier"
    [("customer_tier", .str "smb"), ("new_weights", .dict [("po", .float (.fin 9))])]
    [("po", .fin 1)]]

/-- The run goes through, and its entries do not give the rows. -/
def Misled (steps : List ConfigStep) : Prop :=
  AllSteps (config_step jsonDatabase floatOf) (fun st tables =>
    wp (st.answer jsonDatabase floatOf) (fun _ _ => True) (fun _ _ => False) tables) {} steps ∧
  ¬ Reconstructed (run (config_step jsonDatabase floatOf) {} steps) "T1"

instance (tables : ConfigTables) (t : String) : Decidable (Reconstructed tables t) :=
  inferInstanceAs (Decidable (List.Perm _ _))

instance : DecidablePred Misled := fun _ => inferInstanceAs (Decidable (_ ∧ _))

/-- Two channels with one key, a row without weights, and a scope that brings
its own `new_weights`. -/
theorem some_entries_do_not_give_the_rows :
    Misled collidingRun ∧ Misled emptyRun ∧ Misled forgedRun := by
  decide +kernel

end asoe
