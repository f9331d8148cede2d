import HarvardBench.Proofs.Assembly.Operands

/-! Which instructions are read.

The operands of an operation give an instruction of that operation, and flags that are
read are some flags.
-/

set_option autoImplicit false

namespace HarvardBench.Assembly

namespace Reader

variable {α β : Type}

def Yields (reader : Reader α) (property : α → Prop) : Prop :=
  ∀ ⦃cursor value rest⦄, reader.run cursor = (.ok value, rest) → property value

variable {property : α → Prop} {result : β → Prop}

theorem yields_pure {value : α} (holds : property value) : Yields (pure value) property := by
  intro cursor found rest success
  simp only [run_pure, Prod.mk.injEq, Except.ok.injEq] at success
  exact success.1 ▸ holds

theorem Yields.bind {first : Reader α} {next : α → Reader β} (front : Yields first property)
    (back : ∀ value, property value → Yields (next value) result) : Yields (first >>= next) result := by
  intro cursor value rest success
  obtain ⟨middle, between, read, readMore⟩ := run_bind_ok success
  exact back middle (front read) readMore

theorem Yields.after {first : Reader α} {next : α → Reader β}
    (back : ∀ value, Yields (next value) result) : Yields (first >>= next) result := by
  intro cursor value rest success
  obtain ⟨middle, between, _, readMore⟩ := run_bind_ok success
  exact back middle readMore

end Reader

open Reader

theorem Flags.insert_ne_empty (flags : Flags) (flag : Flag) : flags.insert flag ≠ {} := by
  cases flag <;> simp [Flags.insert]

theorem yields_flagsAfter (seen : Flags) : Yields (flagsAfter seen) fun found => found ≠ {} := by
  intro cursor value rest success
  simp only [run] at success
  fun_induction flagsAfter seen cursor with
  | case1 => simp [refuse] at success
  | case2 => simp [refuse] at success
  | case3 _ _ _ _ _ _ _ _ _ _ ih => exact ih success
  | case4 seen _ _ _ _ flag =>
    simp only [Prod.mk.injEq, Except.ok.injEq] at success
    exact success.1 ▸ Flags.insert_ne_empty seen flag

/-- What is read has the operation it was read for, and names flags where flags are due. -/
theorem yields_operands (opcode : Opcode) :
    Yields (operands opcode) fun found => found.opcode = opcode ∧ NamesFlags found := by
  have chained {build : Register → Register → Bool → Instruction}
      (holds : ∀ first second chained, (build first second chained).opcode = opcode ∧
        NamesFlags (build first second chained)) :
      Yields (chainedPair build) fun found => found.opcode = opcode ∧ NamesFlags found :=
    Yields.after fun pair => Yields.after fun chained => yields_pure (holds pair.1 pair.2 chained)
  have branched {build : BitVec 12 → Instruction}
      (holds : ∀ target, (build target).opcode = opcode ∧ NamesFlags (build target)) :
      Yields (branch build) fun found => found.opcode = opcode ∧ NamesFlags found :=
    Yields.after fun address => yields_pure (holds (BitVec.ofNat 12 address))
  have transferred {build : Register → BitVec 10 → Instruction}
      (holds : ∀ first target, (build first target).opcode = opcode ∧ NamesFlags (build first target)) :
      Yields (transfer build) fun found => found.opcode = opcode ∧ NamesFlags found :=
    Yields.after fun first => Yields.after fun _ => Yields.after fun address =>
      yields_pure (holds first (BitVec.ofNat 10 address))
  cases opcode with
  | hlt | ret => exact yields_pure ⟨rfl, trivial⟩
  | add | sub | cmp => exact chained fun _ _ _ => ⟨rfl, trivial⟩
  | jmp | jc | jz | call => exact branched fun _ => ⟨rfl, trivial⟩
  | lod | str => exact transferred fun _ _ => ⟨rfl, trivial⟩
  | nand => exact Yields.after fun _ => yields_pure ⟨rfl, trivial⟩
  | shr => exact Yields.after fun _ => yields_pure ⟨rfl, trivial⟩
  | stb => exact (yields_flagsAfter {}).bind fun _ named => yields_pure ⟨rfl, named⟩
  | clb => exact (yields_flagsAfter {}).bind fun _ named => yields_pure ⟨rfl, named⟩
  | ldi =>
    exact Yields.after fun _ => Yields.after fun _ => Yields.after fun _ => yields_pure ⟨rfl, trivial⟩

end HarvardBench.Assembly
