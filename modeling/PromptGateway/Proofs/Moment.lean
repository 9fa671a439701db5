import Mathlib.Data.Int.Order.Basic
import PromptGateway.Moment

/-! # Moments of whole seconds

The later of two moments, and the moments that the clock and the registry show: those without a
fraction, which their seconds determine.
-/

namespace PromptGateway.Moment

variable {a b : Moment}

theorem ext_seconds (h : a.seconds = b.seconds) (ha : a.nanos = 0) (hb : b.nanos = 0) : a = b := by
  obtain ⟨_, _, _, _⟩ := a
  obtain ⟨_, _, _, _⟩ := b
  obtain rfl : _ = _ := h
  obtain rfl : _ = 0 := ha
  obtain rfl : _ = 0 := hb
  rfl

@[simp] theorem nanos_floor (a : Moment) : a.floor.nanos = 0 := rfl
@[simp] theorem seconds_floor (a : Moment) : a.floor.seconds = a.seconds := rfl

theorem seconds_latest (a b : Moment) : (a.latest b).seconds = max a.seconds b.seconds := by
  unfold latest
  split
  · rename_i h
    have hle : a.seconds ≤ b.seconds := by
      simp only [le, Bool.or_eq_true, decide_eq_true_eq, Bool.and_eq_true, beq_iff_eq] at h
      omega
    exact (max_eq_right hle).symm
  · rename_i h
    have hle : b.seconds ≤ a.seconds := by
      simp only [le, Bool.or_eq_true, decide_eq_true_eq, not_or] at h
      omega
    exact (max_eq_left hle).symm

theorem le_iff_seconds_le (ha : a.nanos = 0) : a.le b = true ↔ a.seconds ≤ b.seconds := by
  simp only [le, ha, Bool.or_eq_true, Bool.and_eq_true, decide_eq_true_eq, beq_iff_eq]
  omega

theorem nanos_latest (ha : a.nanos = 0) (hb : b.nanos = 0) : (a.latest b).nanos = 0 := by
  unfold latest
  split <;> assumption

end PromptGateway.Moment
