-- The knowledge graph of a case (gateways/knowledge_graph.py): the order with
-- an edge to its customer, its materials, its SAP document and the entities
-- found in the mail. The ids of the nodes are slugs of what they stand for.
import Asoe.ChangeAnalysis
import Asoe.Lib.Regex
import Asoe.Lib.Traverse
import Asoe.Lib.Wheel

open py wheel

namespace asoe.knowledge

/-! ## Nodes and edges -/

structure Node where
  id : String
  label : String
  kind : String
  detail : PyVal

structure Edge where
  source : String
  target : String
  relation : String

structure KnowledgeGraphPayload where
  nodes : List Node
  edges : List Edge
  root_id : String

/-- `add_node`: the ids that were seen are those of the nodes. -/
def add_node (g : Wheel Node Edge) (node_id label kind : String) (detail : PyVal) :
    Wheel Node Edge × Option String :=
  let seen := g.nodes.map (·.id)
  if node_id = "" ∨ node_id ∈ seen then (g, if node_id ∈ seen then some node_id else none)
  else ({ g with nodes := g.nodes ++ [⟨node_id, label, kind, detail⟩] }, some node_id)

/-- `if add_node(...): edges.append(edge)`. -/
def linked (added : Wheel Node Edge × Option String) (edge : Edge) : Wheel Node Edge :=
  if added.2.getD "" = "" then added.1 else { added.1 with edges := added.1.edges ++ [edge] }

/-! ## Texts -/

/-- `[^a-z0-9]+`. -/
def SLUG_RE : regex.Regex Char :=
  .times 1 none (.one fun c => !(('a' ≤ c && c ≤ 'z') || ('0' ≤ c && c ≤ '9')))

def strip_dashes (cs : List Char) : List Char :=
  ((cs.dropWhile (· == '-')).reverse.dropWhile (· == '-')).reverse

section build

variable (lower : String → String)

/-- `_slug`, with `str.lower` given. -/
def slug (value : String) : String :=
  String.ofList (strip_dashes (regex.sub (SLUG_RE.find fun _ => false) (fun _ => ['-']) 0 none
    (lower (strip value)).toList))

/-- `_num`. -/
def num_text (value : PyVal) : Except PyErr String :=
  match value.toFloat with
  | .ok f => num f
  | .error e =>
    if e.kind = "TypeError" ∨ e.kind = "ValueError" then .ok value.toStr else .error e

/-- `a or b` of two texts. -/
def or_text (a b : Option String) : String := if a.getD "" = "" then b.getD "" else a.getD ""

def value_at (d : PyDict) (key : String) : PyVal := .ofOption (dict.get d key)

/-! ## The parts of the graph -/

def order_id_of (order_id : String) : String := "order:" ++ slug lower order_id

def material_id (li : PyDict) : String := "material:" ++ slug lower (value_at li "material").toStr

def entity_kind (ent : PyDict) : PyVal := (value_at ent "kind").or (.str "entity")

def entity_id (ent : PyDict) : String :=
  "entity:" ++ slug lower (entity_kind ent).toStr ++ ":" ++ slug lower (value_at ent "value").toStr

def with_customer (root_id : String) (g : Wheel Node Edge)
    (customer_name customer_bp : Option String) : Wheel Node Edge :=
  if customer_name.getD "" = "" ∧ customer_bp.getD "" = "" then g
  else
    let cust_id := "customer:" ++ slug lower (or_text customer_bp customer_name)
    let detail : PyVal :=
      if customer_bp.getD "" = "" then .none else .str ("BP " ++ customer_bp.getD "")
    linked (add_node g cust_id (or_text customer_name customer_bp) "customer" detail)
      ⟨cust_id, root_id, "places"⟩

/-- The description of a line, else its quantity. -/
def material_detail (li : PyDict) : Except PyErr PyVal :=
  match value_at li "description", value_at li "quantity" with
  | .none, .none => .ok .none
  | .none, qty => do
    let uom := value_at li "uom"
    if uom.truthy then return .str (strip ((← num_text qty) ++ " " ++ uom.toStr))
    else return .str (← num_text qty)
  | detail, _ => .ok detail

def with_materials (root_id : String) (g : Wheel Node Edge) :
    List PyDict → Except PyErr (Wheel Node Edge)
  | [] => .ok g
  | li :: line_items => do
    let material := value_at li "material"
    if material.truthy then
      let detail ← material_detail li
      let added := add_node g (material_id lower li) material.toStr "material" detail
      with_materials root_id (linked added ⟨root_id, material_id lower li, "contains"⟩) line_items
    else with_materials root_id g line_items

def with_sap (root_id : String) (g : Wheel Node Edge) (sap : PyVal) : Wheel Node Edge :=
  match sap with
  | .dict sap =>
    let name := (value_at sap "sap_doc_number").or (value_at sap "system")
    if name.truthy then
      let sap_id := "sap_doc:" ++ slug lower name.toStr
      linked (add_node g sap_id name.toStr "sap_doc"
        ((value_at sap "validation_status").or (value_at sap "system")))
        ⟨root_id, sap_id, "validated_by"⟩
    else g
  | _ => g

def with_entities (root_id : String) (g : Wheel Node Edge) : List PyDict → Wheel Node Edge
  | [] => g
  | ent :: entities =>
    let value := value_at ent "value"
    if value.truthy = false ∨ entity_id lower ent ∈ g.nodes.map (·.id) then
      with_entities root_id g entities
    else
      with_entities root_id (linked (add_node g (entity_id lower ent) value.toStr "entity"
        (.str (entity_kind ent).toStr)) ⟨root_id, entity_id lower ent, "mentions"⟩) entities

def build_knowledge_graph (order_id : String) (customer_name customer_bp : Option String)
    (line_items : Option (List PyDict)) (sap : PyVal) (entities : Option (List PyDict)) :
    Except PyErr KnowledgeGraphPayload := do
  let root_id := order_id_of lower order_id
  let g := (add_node ⟨[], []⟩ root_id order_id "order" (.str "Sales order")).1
  let g := with_customer lower root_id g customer_name customer_bp
  let g ← with_materials lower root_id g (line_items.getD [])
  let g := with_sap lower root_id g sap
  let g := with_entities lower root_id g (entities.getD [])
  return ⟨g.nodes, g.edges, root_id⟩

end build

/-! ## The entries of the graph -/

/-- A node whose edge is appended whenever `add_node` knows its id. -/
def entry (n : Node) (e : Edge) : Entry Node Edge := ⟨n, e, true⟩

theorem linked_add_node {g : Wheel Node Edge} {n : Node} (e : Edge) (hid : n.id ≠ "") :
    linked (add_node g n.id n.label n.kind n.detail) e = attach Node.id g (entry n e) := by
  unfold linked add_node attach entry
  by_cases hmem : n.id ∈ g.nodes.map (·.id)
  · simp [hmem, hid]
  · simp [hmem, hid]

theorem attach_entity (g : Wheel Node Edge) (n : Node) (e : Edge) (hid : n.id ≠ "") :
    attach Node.id g ⟨n, e, false⟩ = if n.id ∈ g.nodes.map (·.id) then g
      else linked (add_node g n.id n.label n.kind n.detail) e := by
  rw [linked_add_node e hid]
  unfold attach entry
  by_cases hmem : n.id ∈ g.nodes.map (·.id)
  · simp [hmem]
  · simp [hmem]

section entries

variable (lower : String → String)

def has_material (li : PyDict) : Bool := (value_at li "material").truthy

def has_value (ent : PyDict) : Bool := (value_at ent "value").truthy

def customer_entries (root_id : String) (customer_name customer_bp : Option String) :
    List (Entry Node Edge) :=
  if customer_name.getD "" = "" ∧ customer_bp.getD "" = "" then []
  else
    let cust_id := "customer:" ++ slug lower (or_text customer_bp customer_name)
    let detail : PyVal :=
      if customer_bp.getD "" = "" then .none else .str ("BP " ++ customer_bp.getD "")
    [entry ⟨cust_id, or_text customer_name customer_bp, "customer", detail⟩
      ⟨cust_id, root_id, "places"⟩]

def material_entry (root_id : String) (li : PyDict) (detail : PyVal) : Entry Node Edge :=
  entry ⟨material_id lower li, (value_at li "material").toStr, "material", detail⟩
    ⟨root_id, material_id lower li, "contains"⟩

def material_entries (root_id : String) (line_items : List PyDict) :
    Except PyErr (List (Entry Node Edge)) :=
  (line_items.filter has_material).mapM fun li =>
    material_entry lower root_id li <$> material_detail li

def sap_entries (root_id : String) (sap : PyVal) : List (Entry Node Edge) :=
  match sap with
  | .dict sap =>
    let name := (value_at sap "sap_doc_number").or (value_at sap "system")
    let sap_id := "sap_doc:" ++ slug lower name.toStr
    if name.truthy then
      [entry ⟨sap_id, name.toStr, "sap_doc",
        (value_at sap "validation_status").or (value_at sap "system")⟩
        ⟨root_id, sap_id, "validated_by"⟩]
    else []
  | _ => []

def entity_entry (root_id : String) (ent : PyDict) : Entry Node Edge :=
  ⟨⟨entity_id lower ent, (value_at ent "value").toStr, "entity", .str (entity_kind ent).toStr⟩,
    ⟨root_id, entity_id lower ent, "mentions"⟩, false⟩

def entity_entries (root_id : String) (entities : List PyDict) : List (Entry Node Edge) :=
  (entities.filter has_value).map (entity_entry lower root_id)

variable {lower} {root_id : String} {g : Wheel Node Edge}

theorem with_customer_eq (customer_name customer_bp : Option String) :
    with_customer lower root_id g customer_name customer_bp =
      grow Node.id g (customer_entries lower root_id customer_name customer_bp) := by
  unfold with_customer customer_entries
  split
  · rfl
  · exact linked_add_node (n := ⟨_, _, _, _⟩) _ (by simp)

theorem with_sap_eq (sap : PyVal) :
    with_sap lower root_id g sap = grow Node.id g (sap_entries lower root_id sap) := by
  unfold with_sap sap_entries
  cases sap with
  | dict sap =>
    dsimp only
    split
    · exact linked_add_node (n := ⟨_, _, _, _⟩) _ (by simp)
    · rfl
  | _ => rfl

theorem with_entities_eq (entities : List PyDict) :
    with_entities lower root_id g entities =
      grow Node.id g (entity_entries lower root_id entities) := by
  unfold entity_entries
  induction entities generalizing g with
  | nil => rfl
  | cons ent entities ih =>
    have hattach := attach_entity g (entity_entry lower root_id ent).node
      (entity_entry lower root_id ent).edge (by simp [entity_entry, entity_id])
    rw [with_entities]
    cases hvalue : has_value ent with
    | false =>
      have htruthy : (value_at ent "value").truthy = false := hvalue
      rw [if_pos (Or.inl htruthy), List.filter_cons_of_neg (by simp [hvalue])]
      exact ih
    | true =>
      have htruthy : (value_at ent "value").truthy = true := hvalue
      rw [List.filter_cons_of_pos hvalue, List.map_cons, htruthy]
      have hgrow : ∀ es, grow Node.id g (entity_entry lower root_id ent :: es) =
          grow Node.id (attach Node.id g (entity_entry lower root_id ent)) es := fun _ => rfl
      rw [hgrow]
      by_cases hmem : entity_id lower ent ∈ g.nodes.map (·.id)
      · rw [if_pos (Or.inr hmem), ih]
        exact congrArg (fun g => grow Node.id g _) ((hattach.trans (if_pos hmem)).symm)
      · rw [if_neg (by simp [hmem]), ih]
        exact congrArg (fun g => grow Node.id g _) ((hattach.trans (if_neg hmem)).symm)

theorem with_materials_eq (line_items : List PyDict) :
    with_materials lower root_id g line_items =
      grow Node.id g <$> material_entries lower root_id line_items := by
  unfold material_entries
  induction line_items generalizing g with
  | nil => rfl
  | cons li line_items ih =>
    rw [with_materials]
    cases hmaterial : has_material li with
    | false =>
      have htruthy : (value_at li "material").truthy = false := hmaterial
      rw [List.filter_cons_of_neg (by simp [hmaterial]), htruthy]
      exact ih
    | true =>
      have htruthy : (value_at li "material").truthy = true := hmaterial
      rw [List.filter_cons_of_pos hmaterial, htruthy, List.mapM_cons]
      cases hdetail : material_detail li with
      | error e => rfl
      | ok detail =>
        have hlink := linked_add_node (g := g) (n := (material_entry lower root_id li detail).node)
          (material_entry lower root_id li detail).edge
          (by simp [material_entry, entry, material_id])
        have hnext := @ih (attach Node.id g (material_entry lower root_id li detail))
        refine Eq.trans (congrArg (fun g => with_materials lower root_id g line_items) hlink) ?_
        refine hnext.trans ?_
        generalize List.mapM (fun li => material_entry lower root_id li <$> material_detail li)
          (line_items.filter has_material) = rest
        cases rest <;> rfl

end entries

/-! ## What the graph tells -/

/-- The edge is between the node and the root. -/
def Joins (root_id id : String) (e : Edge) : Prop :=
  (e.source = id ∧ e.target = root_id) ∨ (e.source = root_id ∧ e.target = id)

instance (root_id id : String) : DecidablePred (Joins root_id id) := fun _ =>
  inferInstanceAs (Decidable ((_ ∧ _) ∨ (_ ∧ _)))

/-- Every node but the root has one edge, with the root, and whatever was given has a node of
its own. -/
structure Tells (p : KnowledgeGraphPayload) (materials entities : List PyDict) : Prop where
  ids : (p.nodes.map (·.id)).Nodup
  joins : ∀ e ∈ p.edges, e.source ∈ p.nodes.map (·.id) ∧ e.target ∈ p.nodes.map (·.id)
  edges : p.edges.Nodup
  spokes : ∀ id ∈ p.nodes.map (·.id), id ≠ p.root_id →
    p.edges.countP (fun e => Joins p.root_id id e) = 1
  materials : ∀ li ∈ materials, ∃ n ∈ p.nodes,
    n.kind = "material" ∧ n.label = (value_at li "material").toStr
  entities : ∀ ent ∈ entities, ∃ n ∈ p.nodes, n.kind = "entity" ∧
    n.detail = .str (entity_kind ent).toStr ∧ n.label = (value_at ent "value").toStr

/-- A line is described, or its quantity is no number or one that can be written. -/
def Sized (li : PyDict) : Prop :=
  value_at li "description" ≠ .none ∨ value_at li "quantity" = .none ∨
    (∃ q, (value_at li "quantity").toFloat = .ok (.fin q)) ∨
    ∃ e, (value_at li "quantity").toFloat = .error e ∧
      (e.kind = "TypeError" ∨ e.kind = "ValueError")

theorem num_ok_iff (x : PyFloat) : (∃ t, num x = .ok t) ↔ ∃ q, x = .fin q := by
  unfold num PyVal.toInt
  cases x with
  | nan =>
    refine iff_of_false ?_ (by rintro ⟨q, ⟨⟩⟩)
    rintro ⟨t, ⟨⟩⟩
  | inf neg =>
    refine iff_of_false ?_ (by rintro ⟨q, ⟨⟩⟩)
    rintro ⟨t, ⟨⟩⟩
  | fin q => exact iff_of_true ⟨_, rfl⟩ ⟨q, rfl⟩

theorem num_text_ok_iff (v : PyVal) : (∃ t, num_text v = .ok t) ↔
    (∃ q, v.toFloat = .ok (.fin q)) ∨
      ∃ e, v.toFloat = .error e ∧ (e.kind = "TypeError" ∨ e.kind = "ValueError") := by
  unfold num_text
  cases v.toFloat with
  | ok x =>
    refine (num_ok_iff x).trans ?_
    constructor
    · rintro ⟨q, rfl⟩
      exact Or.inl ⟨q, rfl⟩
    · rintro (⟨q, hq⟩ | ⟨e, ⟨⟩, -⟩)
      exact ⟨q, Except.ok.inj hq⟩
  | error e =>
    dsimp only
    split
    · rename_i hkind
      exact iff_of_true ⟨_, rfl⟩ (Or.inr ⟨e, rfl, hkind⟩)
    · rename_i hkind
      refine iff_of_false (by rintro ⟨t, ⟨⟩⟩) ?_
      rintro (⟨q, ⟨⟩⟩ | ⟨e', he, hkind'⟩)
      obtain rfl := Except.error.inj he
      exact hkind hkind'

theorem material_detail_ok_iff (li : PyDict) : (∃ d, material_detail li = .ok d) ↔ Sized li := by
  unfold material_detail Sized
  split
  · rename_i hdescription hquantity
    exact iff_of_true ⟨_, rfl⟩ (Or.inr (Or.inl hquantity))
  · rename_i hdescription hquantity
    rw [← num_text_ok_iff]
    have hnone : ¬ value_at li "quantity" = .none := hquantity
    simp only [hdescription, ne_eq, not_true_eq_false, hnone, false_or]
    cases num_text (value_at li "quantity") with
    | error e =>
      refine iff_of_false ?_ (by rintro ⟨t, ⟨⟩⟩)
      rintro ⟨d, hd⟩
      split at hd
      · cases hd
      · cases hd
    | ok t =>
      refine iff_of_true ?_ ⟨t, rfl⟩
      split
      · exact ⟨_, rfl⟩
      · exact ⟨_, rfl⟩
  · rename_i hdescription hother
    refine iff_of_true ⟨_, rfl⟩ (Or.inl fun hnone => ?_)
    exact hdescription hnone

/-! ## The whole graph -/

/-- The kinds of ids are told apart by their first letter. -/
def first (id : String) : Option Char := id.toList.head?

theorem first_append {a : String} (x : String) (ha : a.toList ≠ []) : first (a ++ x) = first a := by
  unfold first
  rw [String.toList_append, List.head?_append_of_ne_nil _ ha]

section whole

variable (lower : String → String)

def detail_of (li : PyDict) : PyVal := (material_detail li).toOption.getD .none

def root_graph (order_id : String) : Wheel Node Edge :=
  ⟨[⟨order_id_of lower order_id, order_id, "order", .str "Sales order"⟩], []⟩

def described_entries (root_id : String) (materials : List PyDict) : List (Entry Node Edge) :=
  materials.map fun li => material_entry lower root_id li (detail_of li)

def graph_entries (root_id : String) (customer_name customer_bp : Option String)
    (line_items : Option (List PyDict)) (sap : PyVal) (entities : Option (List PyDict)) :
    List (Entry Node Edge) :=
  customer_entries lower root_id customer_name customer_bp ++
    (described_entries lower root_id ((line_items.getD []).filter has_material) ++
      (sap_entries lower root_id sap ++ entity_entries lower root_id (entities.getD [])))

variable {lower} {root_id : String}

theorem material_entries_ok {line_items : List PyDict}
    (h : ∀ li ∈ line_items.filter has_material, Sized li) :
    material_entries lower root_id line_items =
      .ok (described_entries lower root_id (line_items.filter has_material)) := by
  refine prog.mapM_eq_ok_map fun li hli => ?_
  obtain ⟨d, hd⟩ := (material_detail_ok_iff li).mpr (h li hli)
  unfold detail_of
  rw [hd]
  rfl

theorem sized_of_material_entries {line_items : List PyDict} {es : List (Entry Node Edge)}
    (h : material_entries lower root_id line_items = .ok es) :
    ∀ li ∈ line_items.filter has_material, Sized li := by
  intro li hli
  obtain ⟨e, he⟩ := prog.returned_of_mapM h li hli
  rw [← material_detail_ok_iff]
  cases hd : material_detail li with
  | ok d => exact ⟨d, rfl⟩
  | error err =>
    rw [hd] at he
    cases he

theorem order_id_ne (order_id : String) : order_id_of lower order_id ≠ "" := by
  unfold order_id_of
  simp

/-- Building ends just when every line is sized, with the entries grown around the root. -/
theorem build_eq {order_id : String} {customer_name customer_bp : Option String}
    {line_items : Option (List PyDict)} {sap : PyVal} {entities : Option (List PyDict)} :
    build_knowledge_graph lower order_id customer_name customer_bp line_items sap entities =
      (fun ms =>
        let g := grow Node.id (root_graph lower order_id)
          (customer_entries lower (order_id_of lower order_id) customer_name customer_bp ++
            (ms ++ (sap_entries lower (order_id_of lower order_id) sap ++
              entity_entries lower (order_id_of lower order_id) (entities.getD []))))
        ⟨g.nodes, g.edges, order_id_of lower order_id⟩) <$>
      material_entries lower (order_id_of lower order_id) (line_items.getD []) := by
  have hroot : (add_node ⟨[], []⟩ (order_id_of lower order_id) order_id "order"
      (.str "Sales order")).1 = root_graph lower order_id := by
    unfold add_node root_graph
    simp [order_id_ne]
  unfold build_knowledge_graph
  dsimp only
  rw [hroot, with_customer_eq, with_materials_eq]
  cases material_entries lower (order_id_of lower order_id) (line_items.getD []) with
  | error e => rfl
  | ok ms =>
    simp only [Functor.map, Except.map, bind, Except.bind, pure, Except.pure, with_sap_eq,
      with_entities_eq, grow, List.foldl_append]

/-! ### Where the entries stand -/

variable {e : Entry Node Edge}

theorem mem_customer_entries {customer_name customer_bp : Option String}
    (h : e ∈ customer_entries lower root_id customer_name customer_bp) :
    first e.node.id = some 'c' ∧ e.node.kind = "customer" ∧ Joins root_id e.node.id e.edge := by
  unfold customer_entries at h
  split at h
  · cases h
  · rw [List.mem_singleton.mp h]
    exact ⟨first_append _ (by decide), rfl, Or.inl ⟨rfl, rfl⟩⟩

theorem mem_sap_entries {sap : PyVal} (h : e ∈ sap_entries lower root_id sap) :
    first e.node.id = some 's' ∧ e.node.kind = "sap_doc" ∧ Joins root_id e.node.id e.edge := by
  unfold sap_entries at h
  split at h
  · dsimp only at h
    split at h
    · rw [List.mem_singleton.mp h]
      exact ⟨first_append _ (by decide), rfl, Or.inr ⟨rfl, rfl⟩⟩
    · cases h
  · cases h

theorem first_material_id (li : PyDict) : first (material_id lower li) = some 'm' :=
  first_append _ (by decide)

theorem first_entity_id (ent : PyDict) : first (entity_id lower ent) = some 'e' := by
  unfold entity_id
  rw [String.append_assoc, String.append_assoc]
  exact first_append _ (by decide)

theorem first_order_id (order_id : String) : first (order_id_of lower order_id) = some 'o' :=
  first_append _ (by decide)

theorem mem_described_entries {materials : List PyDict}
    (h : e ∈ described_entries lower root_id materials) :
    ∃ li ∈ materials, e = material_entry lower root_id li (detail_of li) := by
  obtain ⟨li, hli, rfl⟩ := List.mem_map.mp h
  exact ⟨li, hli, rfl⟩

theorem mem_entity_entries {entities : List PyDict}
    (h : e ∈ entity_entries lower root_id entities) :
    ∃ ent ∈ entities.filter has_value, e = entity_entry lower root_id ent := by
  obtain ⟨ent, hent, rfl⟩ := List.mem_map.mp h
  exact ⟨ent, hent, rfl⟩

section described

variable {customer_name customer_bp : Option String} {line_items : Option (List PyDict)}
  {sap : PyVal} {entities : Option (List PyDict)}

variable {e : Entry Node Edge}

theorem mem_graph_entries
    (h : e ∈ graph_entries lower root_id customer_name customer_bp line_items sap entities) :
    (first e.node.id = some 'c' ∧ e.node.kind = "customer" ∧ Joins root_id e.node.id e.edge) ∨
    (∃ li ∈ (line_items.getD []).filter has_material,
      e = material_entry lower root_id li (detail_of li)) ∨
    (first e.node.id = some 's' ∧ e.node.kind = "sap_doc" ∧ Joins root_id e.node.id e.edge) ∨
    ∃ ent ∈ (entities.getD []).filter has_value, e = entity_entry lower root_id ent := by
  rcases List.mem_append.mp h with h | h
  · exact Or.inl (mem_customer_entries h)
  rcases List.mem_append.mp h with h | h
  · exact Or.inr (Or.inl (mem_described_entries h))
  rcases List.mem_append.mp h with h | h
  · exact Or.inr (Or.inr (Or.inl (mem_sap_entries h)))
  · exact Or.inr (Or.inr (Or.inr (mem_entity_entries h)))

theorem joins_of_entry
    (h : e ∈ graph_entries lower root_id customer_name customer_bp line_items sap entities) :
    Joins root_id e.node.id e.edge := by
  rcases mem_graph_entries h with h | ⟨li, -, rfl⟩ | h | ⟨ent, -, rfl⟩
  · exact h.2.2
  · exact Or.inr ⟨rfl, rfl⟩
  · exact h.2.2
  · exact Or.inr ⟨rfl, rfl⟩

theorem entry_ne_root {order_id : String}
    (h : e ∈ graph_entries lower root_id customer_name customer_bp line_items sap entities) :
    e.node.id ≠ order_id_of lower order_id := by
  intro heq
  have hfirst : first e.node.id = some 'o' := heq ▸ first_order_id order_id
  rcases mem_graph_entries h with h | ⟨li, -, rfl⟩ | h | ⟨ent, -, rfl⟩
  · rw [h.1] at hfirst
    exact absurd hfirst (by decide)
  · exact absurd ((first_material_id li).symm.trans hfirst) (by decide)
  · rw [h.1] at hfirst
    exact absurd hfirst (by decide)
  · exact absurd ((first_entity_id ent).symm.trans hfirst) (by decide)

theorem described_linked_once (materials : List PyDict) :
    LinkedOnce Node.id (described_entries lower root_id materials) ↔
      (materials.map (material_id lower)).Nodup := by
  unfold LinkedOnce described_entries
  rw [List.pairwise_map, List.Nodup, List.pairwise_map]
  exact List.Pairwise.iff fun a b => ⟨fun h => h rfl, fun h _ => h⟩

theorem customer_linked_once :
    LinkedOnce Node.id (customer_entries lower root_id customer_name customer_bp) := by
  unfold customer_entries
  split
  · exact List.Pairwise.nil
  · exact List.pairwise_singleton _ _

theorem sap_linked_once : LinkedOnce Node.id (sap_entries lower root_id sap) := by
  unfold sap_entries
  split
  · dsimp only
    split
    · exact List.pairwise_singleton _ _
    · exact List.Pairwise.nil
  · exact List.Pairwise.nil

theorem entities_linked_once (ents : List PyDict) :
    LinkedOnce Node.id (entity_entries lower root_id ents) := by
  refine List.pairwise_iff_getElem.mpr fun i j hi hj _ hagain => ?_
  obtain ⟨ent, -, heq⟩ := mem_entity_entries (List.getElem_mem hj)
  rw [heq] at hagain
  exact absurd hagain Bool.false_ne_true

/-- Only two lines can be linked to one node. -/
theorem graph_linked_once :
    LinkedOnce Node.id
        (graph_entries lower root_id customer_name customer_bp line_items sap entities) ↔
      (((line_items.getD []).filter has_material).map (material_id lower)).Nodup := by
  have hne : ∀ {a b : Entry Node Edge} {c d : Char}, first a.node.id = some c →
      first b.node.id = some d → c ≠ d → a.node.id ≠ b.node.id := by
    intro a b c d ha hb hcd heq
    rw [heq, hb] at ha
    exact hcd (Option.some.inj ha).symm
  have hfalse : ∀ {a b : Entry Node Edge}, b.again = false → b.again = true →
      a.node.id ≠ b.node.id := fun hf ht => absurd (hf.symm.trans ht) Bool.false_ne_true
  unfold graph_entries
  rw [← @described_linked_once lower root_id]
  unfold LinkedOnce
  rw [List.pairwise_append, List.pairwise_append, List.pairwise_append]
  constructor
  · rintro ⟨-, ⟨h, -⟩, -⟩
    exact h
  · intro h
    refine ⟨customer_linked_once, ⟨h, ⟨sap_linked_once, entities_linked_once _, ?_⟩, ?_⟩, ?_⟩
    · intro a ha b hb
      obtain ⟨ent, -, rfl⟩ := mem_entity_entries hb
      exact hfalse rfl
    · intro a ha b hb _
      obtain ⟨li, -, rfl⟩ := mem_described_entries ha
      rcases List.mem_append.mp hb with hb | hb
      · exact hne (first_material_id li) (mem_sap_entries hb).1 (by decide)
      · obtain ⟨ent, -, rfl⟩ := mem_entity_entries hb
        exact hne (first_material_id li) (first_entity_id ent) (by decide)
    · intro a ha b hb _
      have hfirst := (mem_customer_entries ha).1
      rcases List.mem_append.mp hb with hb | hb
      · obtain ⟨li, -, rfl⟩ := mem_described_entries hb
        exact hne hfirst (first_material_id li) (by decide)
      rcases List.mem_append.mp hb with hb | hb
      · exact hne hfirst (mem_sap_entries hb).1 (by decide)
      · obtain ⟨ent, -, rfl⟩ := mem_entity_entries hb
        exact hne hfirst (first_entity_id ent) (by decide)

/-- The lines have ids of their own, and the entities of one id are the same. -/
structure ToldApart (lower : String → String) (materials entities : List PyDict) : Prop where
  materials : (materials.map (material_id lower)).Nodup
  entities : ∀ a ∈ entities, ∀ b ∈ entities, entity_id lower a = entity_id lower b →
    (entity_kind a).toStr = (entity_kind b).toStr ∧
      (value_at a "value").toStr = (value_at b "value").toStr

def whole_graph (lower : String → String) (order_id : String)
    (customer_name customer_bp : Option String) (line_items : Option (List PyDict)) (sap : PyVal)
    (entities : Option (List PyDict)) : Wheel Node Edge :=
  grow Node.id (root_graph lower order_id) (graph_entries lower (order_id_of lower order_id)
    customer_name customer_bp line_items sap entities)

theorem joins_one {root_id : String} (i j : String) (e : Edge) (hi : i ≠ root_id) (hj : j ≠ root_id)
    (h : Joins root_id i e) (h' : Joins root_id j e) : i = j := by
  rcases h with ⟨hs, ht⟩ | ⟨hs, ht⟩
  · rcases h' with ⟨hs', ht'⟩ | ⟨hs', ht'⟩
    · exact hs.symm.trans hs'
    · exact absurd (hs.symm.trans hs') hi
  · rcases h' with ⟨hs', ht'⟩ | ⟨hs', ht'⟩
    · exact absurd (hs'.symm.trans hs) hj
    · exact ht.symm.trans ht'

variable {order_id : String}

theorem root_joined (order_id : String) :
    Joined Node.id (order_id_of lower order_id) (Joins (order_id_of lower order_id))
      (root_graph lower order_id) [] where
  nodup := List.nodup_singleton _
  has_hub := List.mem_singleton.mpr rfl
  edges := .nil
  mem_ends i := by simp [root_graph]

theorem whole_joined :
    ∃ ends, Joined Node.id (order_id_of lower order_id) (Joins (order_id_of lower order_id))
      (whole_graph lower order_id customer_name customer_bp line_items sap entities) ends ∧
      (ends.Nodup ↔
        (((line_items.getD []).filter has_material).map (material_id lower)).Nodup) := by
  have hne : ∀ e ∈ graph_entries lower (order_id_of lower order_id) customer_name customer_bp
      line_items sap entities, e.node.id ≠ order_id_of lower order_id :=
    fun e he => entry_ne_root he
  obtain ⟨ends, hjoined, hnodup⟩ :=
    Joined.grow (@root_joined lower order_id) (fun e he => joins_of_entry he) hne
  refine ⟨ends, hjoined, hnodup.trans ?_⟩
  rw [graph_linked_once]
  constructor
  · exact fun h => h.2.1
  · exact fun h => ⟨List.nodup_nil, h, fun e he _ hmem => hne e he (List.mem_singleton.mp hmem)⟩

theorem entry_mem_whole
    (h : e ∈ graph_entries lower (order_id_of lower order_id) customer_name customer_bp line_items
      sap entities) :
    ∃ n ∈ (whole_graph lower order_id customer_name customer_bp line_items sap entities).nodes,
      n.id = e.node.id :=
  List.mem_map.mp ((mem_keys_grow _ _ _).mpr (Or.inr ⟨e, h, rfl⟩))

/-- A node is that of a line or of an entity, or it is neither by its id and its kind. -/
theorem node_cases {n : Node}
    (hn : n ∈
      (whole_graph lower order_id customer_name customer_bp line_items sap entities).nodes) :
    (∃ li ∈ (line_items.getD []).filter has_material,
      n = (material_entry lower (order_id_of lower order_id) li (detail_of li)).node) ∨
    (∃ ent ∈ (entities.getD []).filter has_value,
      n = (entity_entry lower (order_id_of lower order_id) ent).node) ∨
    (first n.id ≠ some 'm' ∧ first n.id ≠ some 'e' ∧ n.kind ≠ "entity") := by
  rcases mem_nodes_grow hn with hroot | ⟨e, he, rfl⟩
  · obtain rfl := List.mem_singleton.mp hroot
    have hfirst : first (order_id_of lower order_id) = some 'o' := first_order_id order_id
    dsimp only
    rw [hfirst]
    exact Or.inr (Or.inr (by decide))
  · rcases mem_graph_entries he with ⟨hfirst, hkind, -⟩ | ⟨li, hli, rfl⟩ | ⟨hfirst, hkind, -⟩ |
      ⟨ent, hent, rfl⟩
    · rw [hfirst, hkind]
      exact Or.inr (Or.inr (by decide))
    · exact Or.inl ⟨li, hli, rfl⟩
    · rw [hfirst, hkind]
      exact Or.inr (Or.inr (by decide))
    · exact Or.inr (Or.inl ⟨ent, hent, rfl⟩)

theorem material_of_node {n : Node}
    (hn : n ∈ (whole_graph lower order_id customer_name customer_bp line_items sap entities).nodes)
    (hfirst : first n.id = some 'm') :
    ∃ li ∈ (line_items.getD []).filter has_material,
      n = (material_entry lower (order_id_of lower order_id) li (detail_of li)).node := by
  rcases node_cases hn with h | ⟨ent, -, rfl⟩ | h
  · exact h
  · exact absurd ((first_entity_id ent).symm.trans hfirst) (by decide)
  · exact absurd hfirst h.1

theorem entity_of_node {n : Node}
    (hn : n ∈ (whole_graph lower order_id customer_name customer_bp line_items sap entities).nodes)
    (h : n.kind = "entity" ∨ first n.id = some 'e') :
    ∃ ent ∈ (entities.getD []).filter has_value,
      n = (entity_entry lower (order_id_of lower order_id) ent).node := by
  rcases node_cases hn with ⟨li, -, rfl⟩ | hent | ⟨-, hfirst, hkind⟩
  · rcases h with hkind | hfirst
    · exact absurd (show "material" = "entity" from hkind) (by decide)
    · exact absurd ((first_material_id li).symm.trans hfirst) (by decide)
  · exact hent
  · rcases h with h | h
    · exact absurd h hkind
    · exact absurd h hfirst

theorem entity_id_congr {a b : PyDict} (hkind : (entity_kind a).toStr = (entity_kind b).toStr)
    (hvalue : (value_at a "value").toStr = (value_at b "value").toStr) :
    entity_id lower a = entity_id lower b := by
  unfold entity_id
  rw [hkind, hvalue]

def payload (g : Wheel Node Edge) (root_id : String) : KnowledgeGraphPayload :=
  ⟨g.nodes, g.edges, root_id⟩

/-- The graph tells everything just when what it is about is told apart by the ids. -/
theorem tells_iff :
    Tells (payload (whole_graph lower order_id customer_name customer_bp line_items sap entities)
        (order_id_of lower order_id))
      ((line_items.getD []).filter has_material) ((entities.getD []).filter has_value) ↔
    ToldApart lower ((line_items.getD []).filter has_material)
      ((entities.getD []).filter has_value) := by
  obtain ⟨ends, hjoined, hends⟩ := @whole_joined lower customer_name customer_bp line_items sap
    entities order_id
  have hspokes := hjoined.one_edge_iff joins_one
  constructor
  · intro h
    refine ⟨hends.mp (hspokes.mp h.spokes), ?_⟩
    intro a ha b hb hid
    obtain ⟨n, hn, hkind, hdetail, hlabel⟩ := h.entities a ha
    obtain ⟨m, hm, hkind', hdetail', hlabel'⟩ := h.entities b hb
    obtain ⟨x, -, rfl⟩ := entity_of_node hn (Or.inl hkind)
    obtain ⟨y, -, rfl⟩ := entity_of_node hm (Or.inl hkind')
    have hx : entity_id lower x = entity_id lower a :=
      entity_id_congr (PyVal.str.inj hdetail) hlabel
    have hy : entity_id lower y = entity_id lower b :=
      entity_id_congr (PyVal.str.inj hdetail') hlabel'
    have hsame := List.inj_on_of_nodup_map h.ids hn hm (hx.trans (hid.trans hy.symm))
    rw [hsame] at hdetail hlabel
    exact ⟨PyVal.str.inj (hdetail.symm.trans hdetail'), hlabel.symm.trans hlabel'⟩
  · intro h
    have hnodup := hends.mpr h.materials
    refine ⟨hjoined.nodup, fun e he => ?_, hjoined.edges_nodup joins_one hnodup,
      hspokes.mpr hnodup, fun li hli => ?_, fun ent hent => ?_⟩
    · obtain ⟨i, hi, hjoins⟩ := exists_end hjoined.edges he
      have hmem := ((hjoined.mem_ends i).mp hi).1
      rcases hjoins with ⟨hs, ht⟩ | ⟨hs, ht⟩
      · rw [hs, ht]
        exact ⟨hmem, hjoined.has_hub⟩
      · rw [hs, ht]
        exact ⟨hjoined.has_hub, hmem⟩
    · have hentry : material_entry lower (order_id_of lower order_id) li (detail_of li) ∈
          graph_entries lower (order_id_of lower order_id) customer_name customer_bp line_items sap
            entities :=
        List.mem_append_right _ (List.mem_append_left _ (List.mem_map_of_mem hli))
      obtain ⟨n, hn, hid⟩ := entry_mem_whole hentry
      obtain ⟨li', hli', rfl⟩ := material_of_node hn (hid ▸ first_material_id li)
      obtain rfl := List.inj_on_of_nodup_map h.materials hli' hli hid
      exact ⟨_, hn, rfl, rfl⟩
    · have hentry : entity_entry lower (order_id_of lower order_id) ent ∈
          graph_entries lower (order_id_of lower order_id) customer_name customer_bp line_items sap
            entities :=
        List.mem_append_right _ (List.mem_append_right _ (List.mem_append_right _
          (List.mem_map_of_mem hent)))
      obtain ⟨n, hn, hid⟩ := entry_mem_whole hentry
      obtain ⟨ent', hent', rfl⟩ := entity_of_node hn (Or.inr (hid ▸ first_entity_id ent))
      obtain ⟨hkind, hvalue⟩ := h.entities ent' hent' ent hent hid
      exact ⟨_, hn, rfl, congrArg PyVal.str hkind, hvalue⟩

theorem build_of_sized (h : ∀ li ∈ (line_items.getD []).filter has_material, Sized li) :
    build_knowledge_graph lower order_id customer_name customer_bp line_items sap entities =
      .ok (payload (whole_graph lower order_id customer_name customer_bp line_items sap entities)
        (order_id_of lower order_id)) := by
  rw [build_eq, material_entries_ok h]
  rfl

theorem sized_of_built {p : KnowledgeGraphPayload}
    (h : build_knowledge_graph lower order_id customer_name customer_bp line_items sap entities =
      .ok p) :
    ∀ li ∈ (line_items.getD []).filter has_material, Sized li := by
  rw [build_eq] at h
  cases hms : material_entries lower (order_id_of lower order_id) (line_items.getD []) with
  | ok ms => exact sized_of_material_entries hms
  | error e =>
    rw [hms] at h
    cases h

end described

end whole

/-- The graph is built, and it tells everything, exactly when every quantity can be written and
no two lines have one id and no two entities that differ. -/
theorem graph_tells_exactly_when_ids_tell_apart (lower : String → String) (order_id : String)
    (customer_name customer_bp : Option String) (line_items : Option (List PyDict)) (sap : PyVal)
    (entities : Option (List PyDict)) :
    (∃ p, build_knowledge_graph lower order_id customer_name customer_bp line_items sap entities =
        .ok p ∧ Tells p ((line_items.getD []).filter has_material)
          ((entities.getD []).filter has_value)) ↔
      (∀ li ∈ (line_items.getD []).filter has_material, Sized li) ∧
        ToldApart lower ((line_items.getD []).filter has_material)
          ((entities.getD []).filter has_value) := by
  constructor
  · rintro ⟨p, hp, htells⟩
    have hsized := sized_of_built hp
    rw [build_of_sized hsized] at hp
    obtain rfl := Except.ok.inj hp
    exact ⟨hsized, tells_iff.mp htells⟩
  · rintro ⟨hsized, happart⟩
    exact ⟨_, build_of_sized hsized, tells_iff.mpr happart⟩

def repeatedLine : PyDict := [("material", .str "a")]

theorem repeated_line_is_linked_twice :
    ¬ ∃ p, build_knowledge_graph String.toLower "1" none none (some [repeatedLine, repeatedLine])
        .none none = .ok p ∧ Tells p [repeatedLine, repeatedLine] [] := by
  rintro ⟨p, hp, htells⟩
  have hsized := sized_of_built hp
  rw [build_of_sized hsized] at hp
  obtain rfl := Except.ok.inj hp
  have happart : ToldApart String.toLower [repeatedLine, repeatedLine] [] :=
    (@tells_iff _ none none (some [repeatedLine, repeatedLine]) .none none "1").mp htells
  exact (List.nodup_cons.mp happart.materials).1 List.mem_cons_self

end asoe.knowledge
