-- Items that are worked off in order until the result of one halts the work:
-- the results, and the items that were asked for.
import Mathlib.Data.List.Basic
import Mathlib.Tactic.Common

namespace halting

variable {ι ο : Type} (item : ο → ι) (halts : ο → Bool)

/-- The results of the items in order, up to and including the first that
halts. -/
inductive UpToHalt : List ι → List ο → Prop
  | done : UpToHalt [] []
  | halt {o : ο} {items : List ι} : halts o = true → UpToHalt (item o :: items) [o]
  | next {o : ο} {items : List ι} {results : List ο} :
      halts o = false → UpToHalt items results → UpToHalt (item o :: items) (o :: results)

/-- The work goes on after these results. -/
def GoesOn (results : List ο) : Prop := ∀ o ∈ results, halts o = false

variable {item halts} {items items' : List ι} {results results' : List ο}

theorem goesOn_nil : GoesOn halts [] := fun _ h => absurd h List.not_mem_nil

theorem goesOn_cons {o : ο} (ho : halts o = false) (h : GoesOn halts results) :
    GoesOn halts (o :: results) := by
  intro o' ho'
  rcases List.mem_cons.mp ho' with rfl | ho'
  · exact ho
  · exact h o' ho'

theorem goesOn_append (h : GoesOn halts results) (h' : GoesOn halts results') :
    GoesOn halts (results ++ results') := by
  intro o ho
  rcases List.mem_append.mp ho with ho | ho
  · exact h o ho
  · exact h' o ho

theorem UpToHalt.append (h : UpToHalt item halts items results) (hgoes : GoesOn halts results)
    (h' : UpToHalt item halts items' results') :
    UpToHalt item halts (items ++ items') (results ++ results') := by
  induction h with
  | done => exact h'
  | halt ho => exact absurd (hgoes _ (List.mem_singleton.mpr rfl)) (by simp [ho])
  | next ho _ ih => exact .next ho (ih fun o' ho' => hgoes o' (List.mem_cons_of_mem _ ho'))

end halting
