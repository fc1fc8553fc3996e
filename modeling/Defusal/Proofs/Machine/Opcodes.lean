import Defusal.Machine.Operation

/-!
# Opcodes

`Architecture.opcodes` lists what each architecture knows. Whatever is not listed is idle
(`operation_eq_idle_iff`), and the other operations are each that of one listed opcode, but for the
branches, of which there is one for each comparison. `Architecture.jumps` are those among them that
may go on elsewhere than on the next line, and `finalOpcodes` those that stay.
-/

namespace Defusal

namespace Architecture

/-- The opcodes that an architecture knows, with what they mean. -/
def opcodes : Architecture → List (String × Operation)
  | .sparse => [("ADD", .add), ("JUMP", .jump), ("CJUMP", .compareJump), ("COPY", .copy),
      ("TTRAVEL", .travel), ("DEFUSE", .defuse), ("EXPLODE", .explode)]
  | .fixed => [("ADD", .add), ("JMP", .directJump), ("BEQ", .branch .equal),
      ("BNE", .branch .unequal), ("BGT", .branch .greater), ("BLT", .branch .less),
      ("DEFUSE", .defuse), ("EXPLODE", .explode)]

/-- The opcodes that name a line to go to, with the position of the operand that does. -/
def jumps : Architecture → List (String × Nat)
  | .sparse => [("JUMP", 0), ("CJUMP", 3)]
  | .fixed => [("JMP", 0), ("BEQ", 2), ("BNE", 2), ("BGT", 2), ("BLT", 2)]

/-- The opcodes that end the game. -/
def finalOpcodes : List String := ["DEFUSE", "EXPLODE"]

variable {a b : Architecture} {name : String} {op : Operation}

/-- The opcodes that are listed are those that do not mean to be idle. -/
theorem mem_opcodes_iff : (name, op) ∈ a.opcodes ↔ a.operation name = op ∧ op ≠ .idle := by
  cases a <;> simp only [operation, opcodes] <;> split <;> simp_all [eq_comm]

theorem operation_eq_idle_iff : a.operation name = .idle ↔ name ∉ a.opcodes.map Prod.fst := by
  simp only [List.mem_map, Prod.exists, exists_and_right, exists_eq_right, mem_opcodes_iff]
  constructor
  · rintro hidle ⟨op, hop, hne⟩
    exact hne (hop.symm.trans hidle)
  · intro hnone
    exact Decidable.byContradiction fun hne => hnone ⟨_, rfl, hne⟩

/-- Of what one architecture knows, the other knows three opcodes. -/
theorem mem_common_opcodes (hab : a ≠ b) (ha : name ∈ a.opcodes.map Prod.fst)
    (hb : name ∈ b.opcodes.map Prod.fst) : name ∈ ["ADD", "DEFUSE", "EXPLODE"] := by
  have hcommon : ∀ name ∈ sparse.opcodes.map Prod.fst, name ∈ fixed.opcodes.map Prod.fst →
      name ∈ ["ADD", "DEFUSE", "EXPLODE"] := by decide
  cases a <;> cases b
  · exact absurd rfl hab
  · exact hcommon name ha hb
  · exact hcommon name hb ha
  · exact absurd rfl hab

theorem operation_eq_iff (op : Operation) (hop : op ≠ .idle) :
    a.operation name = op ↔ (name, op) ∈ a.opcodes := by
  rw [mem_opcodes_iff, and_iff_left hop]

theorem operation_eq_add_iff : a.operation name = .add ↔ name = "ADD" := by
  rw [operation_eq_iff .add nofun]
  cases a <;> simp [opcodes]

theorem operation_eq_defuse_iff : a.operation name = .defuse ↔ name = "DEFUSE" := by
  rw [operation_eq_iff .defuse nofun]
  cases a <;> simp [opcodes]

theorem operation_eq_explode_iff : a.operation name = .explode ↔ name = "EXPLODE" := by
  rw [operation_eq_iff .explode nofun]
  cases a <;> simp [opcodes]

theorem operation_eq_travel_iff : a.operation name = .travel ↔ a = .sparse ∧ name = "TTRAVEL" := by
  rw [operation_eq_iff .travel nofun]
  cases a <;> simp [opcodes]

theorem operation_eq_copy_iff : a.operation name = .copy ↔ a = .sparse ∧ name = "COPY" := by
  rw [operation_eq_iff .copy nofun]
  cases a <;> simp [opcodes]

theorem operation_fixed_ne_copy (name : String) : fixed.operation name ≠ .copy :=
  fun hop => nomatch (operation_eq_copy_iff.mp hop).1

theorem operation_eq_jump_iff : a.operation name = .jump ↔ a = .sparse ∧ name = "JUMP" := by
  rw [operation_eq_iff .jump nofun]
  cases a <;> simp [opcodes]

theorem operation_eq_compareJump_iff :
    a.operation name = .compareJump ↔ a = .sparse ∧ name = "CJUMP" := by
  rw [operation_eq_iff .compareJump nofun]
  cases a <;> simp [opcodes]

theorem operation_eq_directJump_iff :
    a.operation name = .directJump ↔ a = .fixed ∧ name = "JMP" := by
  rw [operation_eq_iff .directJump nofun]
  cases a <;> simp [opcodes]

theorem mem_jumps_of_branch {test : Comparison} (h : a.operation name = .branch test) :
    a = .fixed ∧ (name, 2) ∈ fixed.jumps := by
  rw [operation_eq_iff (.branch test) nofun] at h
  cases a with
  | sparse => simp [opcodes] at h
  | fixed =>
    have hnames : ∀ e ∈ fixed.opcodes, (∃ test, e.2 = .branch test) → (e.1, 2) ∈ fixed.jumps := by
      simp [opcodes, jumps]
    exact ⟨rfl, hnames _ h ⟨test, rfl⟩⟩

theorem isFinal_operation_iff : (a.operation name).isFinal = true ↔ name ∈ finalOpcodes := by
  simp only [finalOpcodes, List.mem_cons, List.not_mem_nil, or_false,
    ← operation_eq_defuse_iff (a := a), ← operation_eq_explode_iff (a := a)]
  cases a.operation name <;> simp [Operation.isFinal]

end Architecture

end Defusal
