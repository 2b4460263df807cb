-- What a program writes, in order. The state after some writes is read off
-- from them, so a claim about every moment is one about every prefix.
import Mathlib.Data.List.Infix

namespace journal

variable {ω : Type}

/-- It holds at every moment of these writes, before the first one too. -/
def Always (P : List ω → Prop) (ws : List ω) : Prop := ∀ pre, pre <+: ws → P pre

variable {P Q : List ω → Prop} {ws ws' : List ω}

theorem Always.now (h : Always P ws) : P ws := h ws (List.prefix_refl ws)

theorem always_nil (h : P []) : Always P [] := by
  intro pre hpre
  obtain rfl := List.prefix_nil.mp hpre
  exact h

theorem Always.concat (h : Always P ws) {w : ω} (hw : P (ws ++ [w])) : Always P (ws ++ [w]) := by
  intro pre hpre
  rcases List.prefix_concat_iff.mp hpre with rfl | hpre
  · exact hw
  · exact h pre hpre

end journal
