import A64.Operand

/-!
# Names of registers

The table of names lists the files one after the other. A register whose number is below the size
of its file (`Register.InFile`) finds its name in the part of the table that belongs to its file,
and every register that an encoding can select is such a register.
-/

namespace A64

namespace RegisterFile

@[simp] theorem length_numbered (letter : String) (count : Nat) :
    (numbered letter count).length = count := by
  simp [numbered]

@[simp] theorem length_names (file : RegisterFile) : file.names.length = file.size := by
  cases file <;> simp [names, size]

end RegisterFile

namespace Register

def InFile (r : Register) : Prop := r.number < r.file.size

instance (r : Register) : Decidable r.InFile := inferInstanceAs (Decidable (_ < _))

variable {r : Register}

/-- The name of a register of its file stands in the file's own part of the table. -/
theorem InFile.name? (h : r.InFile) : r.name? = r.file.names[r.number]? := by
  obtain ⟨file, number⟩ := r
  have hn : number < file.size := h
  have hl := RegisterFile.length_names
  cases file <;>
    simp only [Register.name?, Register.index, Register.names, RegisterFile.all,
      RegisterFile.start, List.flatMap_cons, List.flatMap_nil, List.getElem?_append, hl,
      RegisterFile.size] at hn ⊢ <;>
    grind

theorem InFile.exists_name (h : r.InFile) : ∃ name, r.name? = some name := by
  have hlt : r.number < r.file.names.length := by rw [RegisterFile.length_names]; exact h
  exact ⟨r.file.names[r.number], by rw [h.name?, List.getElem?_eq_getElem hlt]⟩

theorem inFile_ofField {file : RegisterFile} (h : 32 ≤ file.size) (n : BitVec 5) :
    (ofField file n).InFile :=
  Nat.lt_of_lt_of_le n.isLt h

theorem inFile_ofFieldOrStack {file : RegisterFile} (h : 33 ≤ file.size) (n : BitVec 5) :
    (ofFieldOrStack file n).InFile := by
  have hn := n.isLt
  show (if n = 31 then stackNumber else n.toNat) < file.size
  split
  · exact h
  · omega

@[simp] theorem inFile_w (n : BitVec 5) : (w n).InFile := inFile_ofField (by decide) n

@[simp] theorem inFile_x (n : BitVec 5) : (x n).InFile := inFile_ofField (by decide) n

@[simp] theorem inFile_wsp (n : BitVec 5) : (wsp n).InFile := inFile_ofFieldOrStack (by decide) n

@[simp] theorem inFile_xsp (n : BitVec 5) : (xsp n).InFile := inFile_ofFieldOrStack (by decide) n

@[simp] theorem inFile_v (n : BitVec 5) : (v n).InFile := inFile_ofField (by decide) n

@[simp] theorem inFile_gpr (sf : Bool) (n : BitVec 5) : (gpr sf n).InFile := by
  cases sf
  · exact inFile_w n
  · exact inFile_x n

@[simp] theorem inFile_gprOrStack (sf : Bool) (n : BitVec 5) : (gprOrStack sf n).InFile := by
  cases sf
  · exact inFile_wsp n
  · exact inFile_xsp n

@[simp] theorem inFile_control (n : BitVec 4) : (control n).InFile := n.isLt

@[simp] theorem inFile_scalar (e : ElementSize) (n : BitVec 5) : (ofField e.file n).InFile :=
  inFile_ofField (by cases e <;> decide) n

/-- A prefetch operation that is allocated is one of the eighteen that have a name. -/
theorem inFile_prefetch? {code : Nat} (h : prefetch? code = some r) : r.InFile := by
  simp only [prefetch?] at h
  split at h
  · simp at h
  · rename_i hcode
    cases h
    show code / 8 % 4 * 6 + code / 2 % 4 * 2 + code % 2 < 18
    omega

theorem inFile_successor (h : 32 ≤ r.file.size) (step : Nat) : (r.successor step).InFile :=
  Nat.lt_of_lt_of_le (Nat.mod_lt _ (by decide)) h

end Register

end A64
