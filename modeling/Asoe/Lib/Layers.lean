-- Layers of partial maps, laid over each other from the first to the last. A
-- key is read from the last layer that defines it, and that layer is its
-- source.
import Asoe.Lib.Grouping

namespace layers

open py grouping

variable {ι κ ν : Type} [DecidableEq κ]

/-! ## The overlay -/

/-- A map, and for each of its keys the layer that its value comes from. -/
structure Overlay (ι κ ν : Type) where
  merged : List (κ × ν) := []
  source : List (κ × ι) := []

/-- One layer is laid over what is there. -/
def Overlay.lay (o : Overlay ι κ ν) (layer : ι × List (κ × ν)) : Overlay ι κ ν :=
  layer.2.foldl (fun o p => ⟨dict.set o.merged p.1 p.2, dict.set o.source p.1 layer.1⟩) o

def overlay (ls : List (ι × List (κ × ν))) : Overlay ι κ ν := ls.foldl Overlay.lay {}

/-- The last layer that defines a key, with the value it has there. -/
def deepest : List (ι × List (κ × ν)) → κ → Option (ι × ν)
  | [], _ => none
  | l :: ls, k => (deepest ls k).or ((dict.get l.2 k).map fun v => (l.1, v))

/-! ## What a key is read as -/

theorem lay_eq (o : Overlay ι κ ν) (layer : ι × List (κ × ν)) :
    o.lay layer = ⟨dict.update o.merged layer.2,
      dict.update o.source (layer.2.map fun p => (p.1, layer.1))⟩ := by
  obtain ⟨name, entries⟩ := layer
  unfold Overlay.lay dict.update
  induction entries generalizing o with
  | nil => rfl
  | cons p entries ih => exact ih _

omit [DecidableEq κ] in
theorem once_named {entries : List (κ × ν)} (h : Once entries) (name : ι) :
    Once (entries.map fun p => (p.1, name)) := by
  unfold Once at *
  rwa [List.map_map]

theorem get_named (entries : List (κ × ν)) (name : ι) (k : κ) :
    dict.get (entries.map fun p => (p.1, name)) k = (dict.get entries k).map fun _ => name := by
  induction entries with
  | nil => rfl
  | cons p entries ih =>
    rw [List.map_cons, dict.get_cons, ih, dict.get_cons]
    split <;> rfl

theorem get_foldl {ls : List (ι × List (κ × ν))} (honce : ∀ l ∈ ls, Once l.2)
    (o : Overlay ι κ ν) (k : κ) :
    dict.get (ls.foldl Overlay.lay o).merged k =
        ((deepest ls k).map (·.2)).or (dict.get o.merged k) ∧
      dict.get (ls.foldl Overlay.lay o).source k =
        ((deepest ls k).map (·.1)).or (dict.get o.source k) := by
  induction ls generalizing o with
  | nil => exact ⟨rfl, rfl⟩
  | cons l ls ih =>
    obtain ⟨hmerged, hsource⟩ := ih (fun l' hl' => honce l' (by simp [hl'])) (o.lay l)
    have hl : Once l.2 := honce l (by simp)
    rw [lay_eq] at hmerged hsource
    rw [List.foldl_cons, lay_eq, hmerged, hsource, hl.get_update, (once_named hl l.1).get_update,
      get_named, deepest]
    cases deepest ls k <;> cases dict.get l.2 k <;> exact ⟨rfl, rfl⟩

theorem get_overlay {ls : List (ι × List (κ × ν))} (honce : ∀ l ∈ ls, Once l.2) (k : κ) :
    dict.get (overlay ls).merged k = (deepest ls k).map (·.2) ∧
      dict.get (overlay ls).source k = (deepest ls k).map (·.1) := by
  obtain ⟨hmerged, hsource⟩ := get_foldl honce {} k
  unfold overlay
  rw [hmerged, hsource]
  cases deepest ls k <;> exact ⟨rfl, rfl⟩

theorem once_foldl {o : Overlay ι κ ν} (h : Once o.merged) (ls : List (ι × List (κ × ν))) :
    Once (ls.foldl Overlay.lay o).merged := by
  have hupdate : ∀ (d entries : List (κ × ν)), Once d → Once (dict.update d entries) := by
    intro d entries hd
    unfold dict.update
    induction entries generalizing d with
    | nil => exact hd
    | cons p entries ih => exact ih _ (hd.set p.1 p.2)
  induction ls generalizing o with
  | nil => exact h
  | cons l ls ih =>
    refine ih ?_
    rw [lay_eq]
    exact hupdate _ _ h

theorem once_overlay (ls : List (ι × List (κ × ν))) : Once (overlay ls).merged :=
  once_foldl (o := {}) List.nodup_nil ls

theorem mem_overlay {ls : List (ι × List (κ × ν))} (honce : ∀ l ∈ ls, Once l.2) {k : κ} {v : ν} :
    (k, v) ∈ (overlay ls).merged ↔ ∃ name, deepest ls k = some (name, v) := by
  rw [(once_overlay ls).mem_iff, (get_overlay honce k).1, Option.map_eq_some_iff]
  constructor
  · rintro ⟨⟨name, v⟩, h, rfl⟩
    exact ⟨name, h⟩
  · rintro ⟨name, h⟩
    exact ⟨(name, v), h, rfl⟩

end layers
