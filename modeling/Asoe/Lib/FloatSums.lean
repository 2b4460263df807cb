-- Sums of floats that are added one after the other, and how far they are from
-- the exact sums that they stand for.
import Asoe.Lib.FloatMonotone

open py PyFloat

namespace float_sums

/-- Floats added one after the other. -/
def total (xs : List PyFloat) : PyFloat := xs.foldl PyFloat.add (.fin 0)

/-- A float near an exact value. -/
def NearTo (err : ℚ) (x : PyFloat) (e : ℚ) : Prop := ∃ v, x = .fin v ∧ |v - e| ≤ err

/-- One operation on numbers up to `2 ^ m` is off by this much. -/
def unit (m : ℤ) : ℚ := (2 : ℚ) ^ (m - 53)

theorem unit_pos (m : ℤ) : 0 < unit m := by
  unfold unit
  positivity

theorem ofRat_nearTo {q e err : ℚ} {m : ℤ} (hlow : -1022 ≤ m) (hhigh : m ≤ 1022)
    (h : |q - e| ≤ err) (hsize : |e| + err ≤ (2 : ℚ) ^ m) : NearTo (err + unit m) (ofRat q) e := by
  have hq : |q| ≤ (2 : ℚ) ^ m := by
    have htriangle : |q| ≤ |q - e| + |e| := by simpa using abs_add_le (q - e) e
    linarith
  obtain ⟨v, hv, hnear⟩ := ofRat_near hlow hhigh hq
  refine ⟨v, hv, ?_⟩
  have htriangle : |v - e| ≤ |v - q| + |q - e| := by simpa using abs_add_le (v - q) (q - e)
  have hunit : |v - q| ≤ unit m := hnear
  linarith

theorem add_nearTo {x y : PyFloat} {e f d δ : ℚ} {m : ℤ} (hlow : -1022 ≤ m) (hhigh : m ≤ 1022)
    (hx : NearTo d x e) (hy : NearTo δ y f) (hsize : |e + f| + (d + δ) ≤ (2 : ℚ) ^ m) :
    NearTo (d + δ + unit m) (x.add y) (e + f) := by
  obtain ⟨v, rfl, hv⟩ := hx
  obtain ⟨w, rfl, hw⟩ := hy
  refine ofRat_nearTo hlow hhigh ?_ hsize
  have htriangle := abs_add_le (v - e) (w - f)
  have heq : v + w - (e + f) = v - e + (w - f) := by ring
  rw [heq]
  linarith

theorem foldl_nearTo {xs : List PyFloat} {es : List ℚ} {δ : ℚ} {m : ℤ} (hlow : -1022 ≤ m)
    (hhigh : m ≤ 1022) (hδ : 0 ≤ δ) (h : List.Forall₂ (NearTo δ) xs es) {x : PyFloat} {e d : ℚ}
    (hx : NearTo d x e)
    (hsize : |e| + (es.map (|·|)).sum + (d + xs.length * (δ + unit m)) ≤ (2 : ℚ) ^ m) :
    NearTo (d + xs.length * (δ + unit m)) (xs.foldl PyFloat.add x) (e + es.sum) := by
  induction h generalizing x e d with
  | nil => simpa using hx
  | @cons y f xs es hy hrest ih =>
    have hunit := unit_pos m
    have hcount : (0 : ℚ) ≤ xs.length * (δ + unit m) := by positivity
    have hsum : 0 ≤ (es.map (|·|)).sum := List.sum_nonneg fun a ha => by
      obtain ⟨b, -, rfl⟩ := List.mem_map.mp ha
      exact abs_nonneg b
    have htriangle := abs_add_le e f
    rw [List.map_cons, List.sum_cons, List.length_cons] at hsize
    push_cast at hsize
    have hsplit : ((xs.length : ℚ) + 1) * (δ + unit m) =
        xs.length * (δ + unit m) + (δ + unit m) := by ring
    rw [hsplit] at hsize
    have hnext := add_nearTo hlow hhigh hx hy (by linarith)
    have htail := ih hnext (by linarith)
    rw [List.foldl_cons, List.sum_cons, List.length_cons]
    push_cast
    rw [hsplit, ← add_assoc e]
    have herr : d + δ + unit m + xs.length * (δ + unit m) =
        d + (xs.length * (δ + unit m) + (δ + unit m)) := by ring
    rwa [herr] at htail

theorem total_nearTo {xs : List PyFloat} {es : List ℚ} {δ : ℚ} {m : ℤ} (hlow : -1022 ≤ m)
    (hhigh : m ≤ 1022) (hδ : 0 ≤ δ) (h : List.Forall₂ (NearTo δ) xs es)
    (hsize : (es.map (|·|)).sum + xs.length * (δ + unit m) ≤ (2 : ℚ) ^ m) :
    NearTo (xs.length * (δ + unit m)) (total xs) es.sum := by
  have hstart : NearTo 0 (.fin 0) 0 := ⟨0, rfl, by simp⟩
  have hrun := foldl_nearTo hlow hhigh hδ h hstart (by simpa using hsize)
  rwa [zero_add, zero_add] at hrun

end float_sums
