import Fanout.Failure
import Mathlib.Data.List.Basic

/-!
# The code of a failure

A failure's code is looked for twice: what is printed sees through contexts to the failure below them, and
the exit status takes the first code among the layers. Both come upon the outermost code, so the status of a
program is the one that it prints, as far as a status can hold it.
-/
namespace Fanout

theorem toNat_exitStatus (code : UInt32) : (exitStatus code).toNat = min code.toNat 255 := by
  rw [exitStatus]
  split
  · rename_i h
    have hle : code.toNat ≤ 255 := UInt32.le_iff_toNat_le.mp h
    rw [UInt32.toNat_toUInt8]
    omega
  · rename_i h
    have hlt : 255 < code.toNat := Nat.lt_of_not_le fun hle => h (UInt32.le_iff_toNat_le.mpr hle)
    exact (Nat.min_eq_right (Nat.le_of_lt hlt)).symm

namespace Failure

variable {f cause : Failure} {code : UInt32}

/-- The failure under a code, seen through contexts, is the first layer that has a code. -/
theorem exists_layers_of_coded? (h : f.coded? = some (code, cause)) :
    ∃ outer, f.layers = outer ++ .coded code cause :: cause.layers ∧ ∀ g ∈ outer, g.layerCode? = none := by
  induction f with
  | context text f ih =>
      obtain ⟨outer, hlayers, houter⟩ := ih h
      refine ⟨.context text f :: outer, ?_, List.forall_mem_cons.mpr ⟨rfl, houter⟩⟩
      rw [layers, hlayers, List.cons_append]
  | coded code' cause' =>
      cases h
      exact ⟨[], rfl, nofun⟩
  | _ => cases h

theorem layerCode?_eq_none (h : f.coded? = none) : ∀ g ∈ f.layers, g.layerCode? = none := by
  induction f with
  | context text f ih => exact List.forall_mem_cons.mpr ⟨rfl, ih h⟩
  | coded code' cause' => cases h
  | _ => simp [layers, layerCode?]

theorem code?_eq_some (h : f.coded? = some (code, cause)) : f.code? = some code := by
  obtain ⟨outer, hlayers, houter⟩ := exists_layers_of_coded? h
  exact List.findSome?_eq_some_iff.mpr ⟨outer, _, _, hlayers, rfl, houter⟩

theorem code?_eq_none (h : f.coded? = none) : f.code? = none :=
  List.findSome?_eq_none_iff.mpr (layerCode?_eq_none h)

/-- The code that is printed and the one that gives the exit status are both that of the outermost layer
with a code; a failure without any is told layer by layer, and the status is 1. -/
theorem printed_code_exits (f : Failure) :
    (∃ outer code cause, f.layers = outer ++ .coded code cause :: cause.layers ∧
      (∀ g ∈ outer, g.layerCode? = none) ∧
      f.coded? = some (code, cause) ∧ f.code? = some code ∧
      f.render = "ERROR[" ++ toString code.toNat ++ "] " ++ cause.chain ∧
      f.exitStatus.toNat = min code.toNat 255 ∧ (code ≠ 0 → f.exitStatus ≠ 0)) ∨
    ((∀ g ∈ f.layers, g.layerCode? = none) ∧ f.coded? = none ∧ f.code? = none ∧
      f.render = ": ".intercalate (f.layers.map display) ∧ f.exitStatus = 1) := by
  cases h : f.coded? with
  | none =>
      have hcode := code?_eq_none h
      refine .inr ⟨layerCode?_eq_none h, rfl, hcode, ?_, ?_⟩
      · simp only [render, h, chain]
      · rw [exitStatus, hcode, Option.elim_none]
  | some found =>
      obtain ⟨code, cause⟩ := found
      obtain ⟨outer, hlayers, houter⟩ := exists_layers_of_coded? h
      have hcode := code?_eq_some h
      have hstatus : f.exitStatus.toNat = min code.toNat 255 := by
        rw [exitStatus, hcode, Option.elim_some, toNat_exitStatus]
      refine .inl ⟨outer, code, cause, hlayers, houter, rfl, hcode, ?_, hstatus, fun hne hzero => ?_⟩
      · simp only [render, h]
        rfl
      · rw [hzero, UInt8.toNat_zero] at hstatus
        exact hne (UInt32.toNat_inj.mp (by rw [UInt32.toNat_zero]; omega))

example : (context "while running" (.coded 4321 (.context "reading" (.coded 0 (.message "broken"))))).render =
    "ERROR[4321] reading: ERROR[0] broken: broken" ∧
    (context "while running" (.coded 4321 (.context "reading" (.coded 0 (.message "broken"))))).exitStatus =
      255 := by
  decide

end Failure

end Fanout
