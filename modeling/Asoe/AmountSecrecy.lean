-- Two sets of children that differ only in their amounts, and a caller who may
-- not act on them: the listing tells him the same of both, the detail view
-- only while neither states an amount.
import Asoe.UnseenAmounts
import Asoe.Lib.Traverse

namespace asoe

open py prog paging CaseStores

/-! ## Outcomes -/

section outcomes

variable {α β γ : Type} {x y : Except PyErr α}

theorem told_raised_iff :
    told (x.mapError .raised) = told (y.mapError .raised) ↔ x.toOption = y.toOption := by
  rcases x with e | a <;> rcases y with e' | b
  · exact ⟨fun _ => rfl, fun _ => rfl⟩
  · exact ⟨by rintro ⟨⟩, by rintro ⟨⟩⟩
  · exact ⟨by rintro ⟨⟩, by rintro ⟨⟩⟩
  · constructor
    · rintro ⟨⟩
      rfl
    · rintro ⟨⟩
      rfl

theorem ok_of_mapError {ε δ : Type} {x : Except ε α} {f : ε → δ} {a : α}
    (h : x.mapError f = .ok a) : x = .ok a := by
  rcases x with e | b
  · cases h
  · cases h
    rfl

theorem told_bind (h : x.toOption = y.toOption) (f : α → β) :
    told (do return f (← x.mapError .raised)) = told (do return f (← y.mapError .raised)) := by
  rcases x with e | a <;> rcases y with e' | b
  · rfl
  · cases h
  · cases h
  · cases h
    rfl

theorem toOption_mapM {f g : γ → Except PyErr α} {xs : List γ}
    (h : ∀ a ∈ xs, (f a).toOption = (g a).toOption) :
    (xs.mapM f).toOption = (xs.mapM g).toOption := by
  induction xs with
  | nil => rfl
  | cons a xs ih =>
    have ha := h a List.mem_cons_self
    have hrest := ih fun b hb => h b (List.mem_cons_of_mem a hb)
    rw [List.mapM_cons, List.mapM_cons]
    rcases hf : f a with e | b <;> rcases hg : g a with e' | b' <;> rw [hf, hg] at ha <;> cases ha
    · rfl
    · rcases hfs : xs.mapM f with e | bs <;> rcases hgs : xs.mapM g with e' | bs' <;>
        rw [hfs, hgs] at hrest <;> cases hrest
      · rfl
      · rfl

end outcomes

/-! ## Stores that differ in their amounts -/

/-- The same cases and intents, and children that differ only in amounts. -/
structure SameStores (s s' : CaseStores) : Prop where
  cases : s.cases = s'.cases
  cached_intents : s.cached_intents = s'.cached_intents
  children : ∀ tenant_id case_id,
    List.Forall₂ SameChild (s.children tenant_id case_id) (s'.children tenant_id case_id)

section listing

variable {s s' : CaseStores} {user : CaseReader} {tenant_id : String} {request : CasesRequest}

theorem SameStores.intents_for (h : SameStores s s') (case_id : String) :
    s.intents_for tenant_id case_id = s'.intents_for tenant_id case_id := by
  have hintents := map_same (f := fun r : CaseChild => given r.intent)
    (fun a b hab => congrArg given hab.record.intent) (h.children tenant_id case_id)
  have hfound : (s.children tenant_id case_id).filterMap (fun r => given r.intent) =
      (s'.children tenant_id case_id).filterMap fun r => given r.intent := by
    simpa only [List.filterMap_map, Function.id_comp] using congrArg (List.filterMap id) hintents
  unfold CaseStores.intents_for
  rw [h.cached_intents, hfound]

theorem SameStores.query (h : SameStores s s') :
    s.query tenant_id request = s'.query tenant_id request := by
  unfold CaseStores.query CaseStores.matches_any
  simp only [h.intents_for]

theorem SameStores.in_scope (h : SameStores s s') (case : ListedCase) :
    s.in_scope user case = s'.in_scope user case := by
  have hchildren := h.children case.tenant_id case.case_id
  have hany {p : CaseChild → Bool} (hp : ∀ a b, SameChild a b → p a = p b) :
      (s.children case.tenant_id case.case_id).any p =
        (s'.children case.tenant_id case.case_id).any p := by
    simpa using congrArg (List.any · id) (map_same hp hchildren)
  have haccount := hany (p := fun r => r.account_id.any (· ∈ user.assigned_accounts))
    fun a b hab => by rw [hab.account_id]
  have horder (retailer_id : String) := hany
    (p := fun r => retailer_id.toList.isPrefixOf r.order_id.toList)
    fun a b hab => by rw [hab.order_id]
  unfold CaseStores.in_scope
  simp only [haccount, horder]

theorem SameStores.found (h : SameStores s s') :
    s.found user tenant_id request = s'.found user tenant_id request := by
  unfold CaseStores.found
  rw [h.query, h.cases]
  simp only [h.in_scope]

theorem mem_of_found {case : ListedCase} (h : case ∈ s.found user tenant_id request) :
    case ∈ s.cases ∧ case.tenant_id = tenant_id := by
  have hkept := List.mem_filter.mp (mem_newest.mp h)
  refine ⟨hkept.1, ?_⟩
  have hkeeps := hkept.2
  simp only [Bool.and_eq_true, CaseQuery.keeps, decide_eq_true_eq] at hkeeps
  exact hkeeps.1.1.1

end listing

/-! ## The replies -/

section replies

variable {from_iso : FromIso} {s s' : CaseStores} {user : CaseReader} {case : ListedCase}

/-- The item of a case: its summary, and the impact where it is exposed. -/
def item_of (s : CaseStores) (case : ListedCase) (tenant_id : String) (expose : Bool)
    (summary : CaseSummary) (impact : Option DollarImpact) : Item where
  case := case
  child_intents := (s.intents_for tenant_id case.case_id).insertionSort (· ≤ ·)
  summary := if expose then { summary with dollar_impact := impact }
    else { summary with dollar_impact := none }

theorem serialise_outcome {tenant_id : String} {expose : Bool} {primary : Option ChildRecord}
    (hpick : pick_primary_record ((s.children tenant_id case.case_id).map (·.toChildRecord)) =
      .ok primary) :
    (s.serialise_case from_iso case tenant_id expose).toOption =
      (summary_but_impact from_iso case.toQueuedCase
        ((s.children tenant_id case.case_id).map (·.toChildRecord)) primary).toOption.bind
        fun summary => (dollar_impact_of primary).toOption.map
          (item_of s case tenant_id expose summary) := by
  unfold serialise_case
  dsimp only
  rw [compute_case_summary_eq hpick]
  rcases summary_but_impact from_iso case.toQueuedCase _ primary with e | summary
  · rfl
  · rcases dollar_impact_of primary with e | impact
    · rfl
    · rfl

theorem serialise_hides {tenant_id : String} :
    returns (s.serialise_case from_iso case tenant_id false) fun item =>
      item.case = case ∧ item.summary.dollar_impact = none :=
  returns_bind fun _ _ => (returns_pure _).mpr ⟨rfl, rfl⟩

theorem SameStores.list_cases (h : SameStores s s') (huser : expose_dollar_impact user = false)
    (hitems : ∀ case ∈ s.cases, tenant_of_reader user = .ok case.tenant_id →
      (s.serialise_case from_iso case case.tenant_id false).toOption =
        (s'.serialise_case from_iso case case.tenant_id false).toOption)
    (request : CasesRequest) :
    told (s.list_cases from_iso user request) = told (s'.list_cases from_iso user request) := by
  unfold CaseStores.list_cases
  rw [huser]
  rcases htenant : tenant_of_reader user with e | tenant_id
  · rfl
  · rw [ok_bind rfl, ok_bind rfl]
    dsimp only
    rw [h.found]
    refine told_bind (toOption_mapM fun case hcase => ?_) _
    have hfound : case ∈ s'.found user tenant_id request :=
      (resume_sublist _).subset (List.mem_of_mem_take hcase)
    rw [← h.found] at hfound
    obtain ⟨hmem, rfl⟩ := mem_of_found hfound
    exact hitems case hmem htenant

theorem list_cases_hides (huser : expose_dollar_impact user = false) (request : CasesRequest) :
    returns (s.list_cases from_iso user request) fun reply => ∀ item ∈ reply.items,
      ∃ case ∈ s.cases, tenant_of_reader user = .ok case.tenant_id ∧
        s.serialise_case from_iso case case.tenant_id false = .ok item := by
  unfold CaseStores.list_cases
  rw [huser]
  refine returns_bind fun tenant_id htenant => returns_bind fun items hitems =>
    (returns_pure _).mpr ?_
  intro item hitem
  obtain ⟨case, hcase, hitem⟩ := source_of_mapM (ok_of_mapError hitems) item hitem
  have hfound : case ∈ s.found user tenant_id request :=
    (resume_sublist _).subset (List.mem_of_mem_take hcase)
  obtain ⟨hmem, rfl⟩ := mem_of_found hfound
  exact ⟨case, hmem, htenant, hitem⟩

theorem get_case_eq (hcase : case ∈ s.cases) :
    s.get_case from_iso user case.case_id = (do
      let tenant_id ← tenant_of_reader user
      if case.tenant_id = tenant_id then
        (s.serialise_case from_iso case tenant_id true).mapError .raised
      else .error (.asoe_error "NOT_FOUND" ("Case " ++ case.case_id ++ " not found.") 404)) := by
  unfold CaseStores.get_case
  rw [find_of_unique s.one_each hcase]

end replies

/-! ## Secrecy -/

section secrecy

variable (from_iso : FromIso) (user : CaseReader) (case : ListedCase)

/-- The caller reads the cases of this tenant. -/
def MayRead : Prop := tenant_of_reader user = .ok case.tenant_id

/-- Neither endpoint shows an impact, and both show the same summary. -/
structure ShowsNoAmount (s : CaseStores) : Prop where
  listed : ∀ request reply, s.list_cases from_iso user request = .ok reply →
    ∀ item ∈ reply.items, item.summary.dollar_impact = none ∧
      (item.case = case → s.get_case from_iso user case.case_id = .ok item)
  got : ∀ item, s.get_case from_iso user case.case_id = .ok item →
    item.summary.dollar_impact = none

/-- The caller is told the same from either store, and no amount. -/
structure AmountsUnseen (s s' : CaseStores) : Prop where
  listed : ∀ request,
    told (s.list_cases from_iso user request) = told (s'.list_cases from_iso user request)
  got : told (s.get_case from_iso user case.case_id) =
    told (s'.get_case from_iso user case.case_id)
  hidden : ShowsNoAmount from_iso user case s
  hidden' : ShowsNoAmount from_iso user case s'

/-- Neither primary child states an amount, or the summary of neither can be
made. -/
def NothingToHide (children : List CaseChild) (primary primary' : Option ChildRecord) : Prop :=
  NoAmount primary ∧ NoAmount primary' ∨ UnreadableAmount primary ∧ UnreadableAmount primary' ∨
    CannotBeShown from_iso case.toQueuedCase (children.map (·.toChildRecord)) primary

end secrecy

section pair

variable {from_iso : FromIso} {stores : CaseStores} {user : CaseReader} {case : ListedCase}
  {children children' : List CaseChild} {primary primary' : Option ChildRecord}

theorem sameStores_with (hsame : List.Forall₂ SameChild children children') :
    SameStores (stores.with_children case children) (stores.with_children case children') := by
  refine ⟨rfl, rfl, fun tenant_id case_id => ?_⟩
  unfold with_children
  dsimp only
  split
  · exact hsame
  · exact List.forall₂_same.mpr fun r _ => ⟨⟨rfl, rfl, rfl, rfl, fun _ _ => rfl⟩, rfl, rfl⟩

theorem children_with : (stores.with_children case children).children case.tenant_id case.case_id =
    children := if_pos ⟨rfl, rfl⟩

theorem get_case_with (hcase : case ∈ stores.cases) :
    (stores.with_children case children).get_case from_iso user case.case_id = (do
      let tenant_id ← tenant_of_reader user
      if case.tenant_id = tenant_id then
        ((stores.with_children case children).serialise_case from_iso case tenant_id
          true).mapError .raised
      else .error (.asoe_error "NOT_FOUND" ("Case " ++ case.case_id ++ " not found.") 404)) :=
  get_case_eq hcase

theorem serialise_other {other : ListedCase} {tenant_id : String} {expose : Bool}
    (hsame : List.Forall₂ SameChild children children') (hcase : case ∈ stores.cases)
    (hother : other ∈ stores.cases) (hne : other ≠ case) :
    (stores.with_children case children).serialise_case from_iso other tenant_id expose =
      (stores.with_children case children').serialise_case from_iso other tenant_id expose := by
  have hid : other.case_id ≠ case.case_id := fun hid =>
    hne (List.inj_on_of_nodup_map stores.one_each hother hcase hid)
  have hchildren : (stores.with_children case children).children tenant_id other.case_id =
      (stores.with_children case children').children tenant_id other.case_id := by
    unfold with_children
    dsimp only
    rw [if_neg fun h => hid h.2, if_neg fun h => hid h.2]
  unfold serialise_case
  rw [hchildren, (sameStores_with hsame).intents_for]

theorem outcome_of_case (expose : Bool)
    (hpick : pick_primary_record (children.map (·.toChildRecord)) = .ok primary) :
    ((stores.with_children case children).serialise_case from_iso case case.tenant_id
        expose).toOption =
      (summary_but_impact from_iso case.toQueuedCase (children.map (·.toChildRecord))
        primary).toOption.bind fun summary => (dollar_impact_of primary).toOption.map
          (item_of (stores.with_children case children) case case.tenant_id expose summary) := by
  have hpick' : pick_primary_record (((stores.with_children case children).children case.tenant_id
      case.case_id).map (·.toChildRecord)) = .ok primary := by
    rw [children_with, hpick]
  rw [serialise_outcome hpick', children_with]

theorem item_of_none {s : CaseStores} {tenant_id : String} (expose : Bool)
    (summary : CaseSummary) :
    item_of s case tenant_id expose summary none = item_of s case tenant_id false summary none := by
  cases expose <;> rfl

/-- Both sets of children give one summary, and each its own impact. -/
theorem outcome_of_case' (expose : Bool) (hsame : List.Forall₂ SameChild children children')
    (hagree : AgreeOnPrimary (children.map (·.toChildRecord)) (children'.map (·.toChildRecord))
      primary primary') :
    ((stores.with_children case children').serialise_case from_iso case case.tenant_id
        expose).toOption =
      (summary_but_impact from_iso case.toQueuedCase (children.map (·.toChildRecord))
        primary).toOption.bind fun summary => (dollar_impact_of primary').toOption.map
          (item_of (stores.with_children case children) case case.tenant_id expose summary) := by
  have hrecords : List.Forall₂ SameRecord (children.map (·.toChildRecord))
      (children'.map (·.toChildRecord)) :=
    List.rel_map (fun _ _ h => h.record) hsame
  have hitem (summary : CaseSummary) :
      item_of (stores.with_children case children) case case.tenant_id expose summary =
        item_of (stores.with_children case children') case case.tenant_id expose summary := by
    funext impact
    unfold item_of
    rw [(sameStores_with hsame).intents_for]
  rw [outcome_of_case expose hagree.picks.2, ← summary_but_impact_same hrecords hagree]
  simp only [hitem]

/-- What is shown of a case where there is nothing to hide does not depend on
the amounts, nor on the flag. -/
theorem outcome_of_nothing (hsame : List.Forall₂ SameChild children children')
    (hagree : AgreeOnPrimary (children.map (·.toChildRecord)) (children'.map (·.toChildRecord))
      primary primary')
    (hnothing : NothingToHide from_iso case children primary primary') (expose : Bool) :
    ((stores.with_children case children).serialise_case from_iso case case.tenant_id
        expose).toOption =
      ((stores.with_children case children).serialise_case from_iso case case.tenant_id
        false).toOption ∧
    ((stores.with_children case children').serialise_case from_iso case case.tenant_id
        expose).toOption =
      ((stores.with_children case children).serialise_case from_iso case case.tenant_id
        false).toOption := by
  rw [outcome_of_case expose hagree.picks.1, outcome_of_case false hagree.picks.1,
    outcome_of_case' expose hsame hagree]
  rcases hnothing with ⟨h, h'⟩ | ⟨h, h'⟩ | h
  · rw [noAmount_iff.mp h, noAmount_iff.mp h']
    simp only [Except.toOption, Option.map_some, item_of_none expose, and_self]
  · obtain ⟨e, he⟩ := unreadableAmount_iff.mp h
    obtain ⟨e', he'⟩ := unreadableAmount_iff.mp h'
    rw [he, he']
    exact ⟨rfl, rfl⟩
  · obtain ⟨e, he⟩ := cannotBeShown_iff.mp h
    rw [he]
    exact ⟨rfl, rfl⟩

/-- A store with one of the two sets shows no amount where there is none to
hide. -/
theorem showsNoAmount_of_nothing {s : CaseStores} (hcase : case ∈ s.cases)
    (huser : expose_dollar_impact user = false)
    (hnothing : MayRead user case →
      (s.serialise_case from_iso case case.tenant_id true).toOption =
        (s.serialise_case from_iso case case.tenant_id false).toOption) :
    ShowsNoAmount from_iso user case s := by
  constructor
  · intro request reply hreply item hitem
    obtain ⟨other, hother, htenant, hserialised⟩ :=
      list_cases_hides huser request reply hreply item hitem
    obtain ⟨hitself, hnull⟩ := serialise_hides item hserialised
    refine ⟨hnull, ?_⟩
    rintro rfl
    rw [hitself] at hnothing ⊢
    have houtcome := hnothing htenant
    rw [hserialised] at houtcome
    rw [get_case_eq hother, ok_bind htenant, if_pos rfl]
    rcases hgot : s.serialise_case from_iso other other.tenant_id true with e | got <;>
      rw [hgot] at houtcome <;> cases houtcome
    rfl
  · intro item hitem
    rw [get_case_eq hcase] at hitem
    rcases htenant : tenant_of_reader user with e | tenant_id
    · rw [htenant] at hitem
      cases hitem
    · rw [ok_bind htenant] at hitem
      split at hitem
      · rename_i hread
        have houtcome := hnothing (by rw [MayRead, htenant, hread])
        rw [← hread] at hitem
        rw [ok_of_mapError hitem] at houtcome
        rcases hhidden : s.serialise_case from_iso case case.tenant_id false with e | hidden <;>
          rw [hhidden] at houtcome <;> cases houtcome
        exact (serialise_hides item hhidden).2
      · cases hitem

/-- What is the same for both sets and shows no amount has nothing to hide. -/
theorem nothing_of_outcomes (hsame : List.Forall₂ SameChild children children')
    (hagree : AgreeOnPrimary (children.map (·.toChildRecord)) (children'.map (·.toChildRecord))
      primary primary')
    (hgot : ((stores.with_children case children).serialise_case from_iso case case.tenant_id
        true).toOption =
      ((stores.with_children case children').serialise_case from_iso case case.tenant_id
        true).toOption)
    (hnull : ∀ item, ((stores.with_children case children).serialise_case from_iso case
      case.tenant_id true).toOption = some item → item.summary.dollar_impact = none) :
    NothingToHide from_iso case children primary primary' := by
  rw [outcome_of_case' true hsame hagree, outcome_of_case true hagree.picks.1] at hgot
  rw [outcome_of_case true hagree.picks.1] at hnull
  rcases hsummary : summary_but_impact from_iso case.toQueuedCase
    (children.map (·.toChildRecord)) primary with e | summary
  · exact .inr (.inr (cannotBeShown_iff.mpr ⟨e, hsummary⟩))
  rw [hsummary] at hgot hnull
  rcases himpact : dollar_impact_of primary with e | impact <;>
    rcases himpact' : dollar_impact_of primary' with e' | impact' <;>
    rw [himpact, himpact'] at hgot
  · exact .inr (.inl ⟨unreadableAmount_iff.mpr ⟨e, himpact⟩,
      unreadableAmount_iff.mpr ⟨e', himpact'⟩⟩)
  · cases hgot
  · cases hgot
  · rw [himpact] at hnull
    have hnone : impact = none := hnull _ rfl
    have hsame_impact : impact = impact' :=
      congrArg (fun item : Option Item => item.bind fun item => item.summary.dollar_impact) hgot
    subst hnone
    subst hsame_impact
    exact .inl ⟨noAmount_iff.mpr himpact, noAmount_iff.mpr himpact'⟩

/-- A caller who may not act on impacts is told the same by both endpoints,
and no amount, just when there is nothing to hide in the cases he reads. -/
theorem amounts_stay_unseen_iff_no_primary_child_states_one
    (hcase : case ∈ stores.cases) (hsame : List.Forall₂ SameChild children children')
    (hagree : AgreeOnPrimary (children.map (·.toChildRecord)) (children'.map (·.toChildRecord))
      primary primary')
    (huser : expose_dollar_impact user = false) :
    AmountsUnseen from_iso user case (stores.with_children case children)
        (stores.with_children case children') ↔
      (MayRead user case → NothingToHide from_iso case children primary primary') := by
  constructor
  · rintro ⟨-, hgot, hhidden, -⟩ hread
    rw [get_case_with hcase, get_case_with hcase, ok_bind hread, ok_bind hread, if_pos rfl,
      if_pos rfl, told_raised_iff] at hgot
    refine nothing_of_outcomes hsame hagree hgot fun item hitem => hhidden.got item ?_
    rw [get_case_with hcase, ok_bind hread, if_pos rfl]
    rcases hserialised : (stores.with_children case children).serialise_case from_iso case
      case.tenant_id true with e | got <;> rw [hserialised] at hitem <;> cases hitem
    rfl
  · intro hnothing
    have hstores : SameStores (stores.with_children case children)
        (stores.with_children case children') := sameStores_with hsame
    refine ⟨hstores.list_cases huser ?_, ?_, showsNoAmount_of_nothing hcase huser ?_,
      showsNoAmount_of_nothing hcase huser ?_⟩
    · intro other hother hread
      by_cases hitself : other = case
      · subst hitself
        exact ((outcome_of_nothing hsame hagree (hnothing hread) false).2).symm
      · rw [serialise_other hsame hcase hother hitself]
    · rw [get_case_with hcase, get_case_with hcase]
      rcases htenant : tenant_of_reader user with e | tenant_id
      · rfl
      · rw [ok_bind rfl, ok_bind rfl]
        split
        · rename_i hread
          subst hread
          exact told_raised_iff.mpr
            ((outcome_of_nothing hsame hagree (hnothing htenant) true).1.trans
              (outcome_of_nothing hsame hagree (hnothing htenant) true).2.symm)
        · rfl
    · intro hread
      exact (outcome_of_nothing hsame hagree (hnothing hread) true).1
    · intro hread
      exact ((outcome_of_nothing hsame hagree (hnothing hread) true).2).trans
        (outcome_of_nothing hsame hagree (hnothing hread) false).2.symm

end pair

/-! ## A case with one child -/

def sampleListed : ListedCase := { sampleQueued with origin := "API" }

def queueStores : CaseStores where
  cases := [sampleListed]
  children _ _ := []
  cached_intents _ _ := none
  one_each := by decide

/-- A caller who may read cases and act on none. -/
def sampleViewer : CaseReader :=
  { sub := "u9", roles := ["viewer"], org := "t1"
    permissions := ["exceptions:read", "dashboard:read"] }

/-- A blocked order with an amount under the key. -/
def owing (key : String) (amount : ℤ) : CaseChild :=
  { intent := some "CREDIT_BLOCK", shadow_verdict := some .RED
    resolution_data := [(key, .int amount)] }

/-- The stores where the case has the child. -/
def storesWith (child : CaseChild) : CaseStores := queueStores.with_children sampleListed [child]

theorem owing_same {key : String} (hkey : key ∈ AMOUNT_KEYS) (amount amount' : ℤ) :
    List.Forall₂ SameChild [owing key amount] [owing key amount'] := by
  refine List.Forall₂.cons ⟨⟨rfl, rfl, rfl, rfl, ?_⟩, rfl, rfl⟩ List.Forall₂.nil
  intro other hother
  have hne : other ≠ key := by
    rintro rfl
    exact hother hkey
  unfold owing
  rw [dict.get_cons, dict.get_cons, if_neg hne, if_neg hne]

/-- An amount without a currency is no impact, and neither endpoint shows it. -/
theorem an_amount_without_a_currency_stays_unseen :
    AmountsUnseen noInstants sampleViewer sampleListed (storesWith (owing "financial_impact" 100))
      (storesWith (owing "financial_impact" 250)) := by
  have hagree : AgreeOnPrimary ([owing "financial_impact" 100].map (·.toChildRecord))
      ([owing "financial_impact" 250].map (·.toChildRecord))
      (some (owing "financial_impact" 100).toChildRecord)
      (some (owing "financial_impact" 250).toChildRecord) :=
    .child _ _ (by decide) (by decide +kernel) (by decide +kernel)
  refine (amounts_stay_unseen_iff_no_primary_child_states_one List.mem_cons_self
    (owing_same (by decide) 100 250) hagree (by decide +kernel)).mpr fun _ => .inl ⟨?_, ?_⟩
  · exact noAmount_iff.mpr (by decide +kernel)
  · exact noAmount_iff.mpr (by decide +kernel)

/-- What the detail view shows of the impact. -/
def DetailShows (child : CaseChild) (impact : DollarImpact) : Prop :=
  ∃ item, (storesWith child).get_case noInstants sampleViewer "case-1" = .ok item ∧
    item.summary.dollar_impact = some impact

instance (child : CaseChild) (impact : DollarImpact) : Decidable (DetailShows child impact) :=
  decidableReturned ((storesWith child).get_case noInstants sampleViewer "case-1") fun item =>
    item.summary.dollar_impact = some impact

/-- A viewer reads in the detail view which amount it is, and in the listing
nothing. -/
theorem a_viewer_reads_the_impact_in_the_detail_view :
    expose_dollar_impact sampleViewer = false ∧
      List.Forall₂ SameChild [owing "financial_impact_usd" 100]
        [owing "financial_impact_usd" 250] ∧
      AgreeOnPrimary [(owing "financial_impact_usd" 100).toChildRecord]
        [(owing "financial_impact_usd" 250).toChildRecord]
        (some (owing "financial_impact_usd" 100).toChildRecord)
        (some (owing "financial_impact_usd" 250).toChildRecord) ∧
      (∀ request reply, (storesWith (owing "financial_impact_usd" 100)).list_cases noInstants
        sampleViewer request = .ok reply →
          ∀ item ∈ reply.items, item.summary.dollar_impact = none) ∧
      DetailShows (owing "financial_impact_usd" 100) ⟨10000, "USD"⟩ ∧
      DetailShows (owing "financial_impact_usd" 250) ⟨25000, "USD"⟩ ∧
      ¬ AmountsUnseen noInstants sampleViewer sampleListed
        (storesWith (owing "financial_impact_usd" 100))
        (storesWith (owing "financial_impact_usd" 250)) := by
  have hviewer : expose_dollar_impact sampleViewer = false := by decide +kernel
  have hshown : DetailShows (owing "financial_impact_usd" 100) ⟨10000, "USD"⟩ := by
    decide +kernel
  refine ⟨hviewer, owing_same (by decide) 100 250,
    .child _ _ (by decide) (by decide +kernel) (by decide +kernel), ?_, hshown,
    by decide +kernel, ?_⟩
  · intro request reply hreply item hitem
    obtain ⟨_, -, -, hserialised⟩ := list_cases_hides hviewer request reply hreply item hitem
    exact (serialise_hides item hserialised).2
  · intro hunseen
    obtain ⟨item, hitem, himpact⟩ := hshown
    rw [hunseen.hidden.got item hitem] at himpact
    cases himpact

end asoe
