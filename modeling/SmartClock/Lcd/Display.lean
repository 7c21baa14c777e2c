import Mathlib.Logic.Function.Basic
import Mathlib.Data.List.Basic

/-!
# A character display behind a serial bus

An HD44780 takes two-byte writes: a control byte that says whether a command or a data byte
follows. It has 128 cells and an address that moves on with every data byte. A run of data
bytes lies in the memory as one block (`receiveAll_data`), and a row that was blank shows
the block padded with blanks (`row_stored`). What the display does with any other write is
a parameter of the development.
-/

namespace SmartClock.Lcd

structure Display where
  ram : BitVec 7 → UInt8
  address : BitVec 7
  /-- The address moves up after a data byte, else down. -/
  increment : Bool

/-- A two-byte write. -/
structure Write where
  control : UInt8
  byte : UInt8
deriving DecidableEq

/-- The cleared display. -/
def cleared : Display := ⟨fun _ => 32, 0, true⟩

/-- `bytes` in the memory from `a` on. -/
def stored (ram : BitVec 7 → UInt8) (a : BitVec 7) (bytes : List UInt8) (x : BitVec 7) : UInt8 :=
  bytes[(x - a).toNat]?.getD (ram x)

/-- The sixteen cells of a row. -/
def row (ram : BitVec 7 → UInt8) (base : BitVec 7) : List UInt8 :=
  (List.range 16).map fun i => ram (base + BitVec.ofNat 7 i)

section Display

variable (other : Write → Display → Display)

/-- A write reaches the display. -/
def receive (w : Write) (d : Display) : Display :=
  if w.control = 0x80 then
    if w.byte = 0x01 then cleared
    else if 0x80 ≤ w.byte then { d with address := w.byte.toBitVec.setWidth 7 }
    else other w d
  else if w.control = 0x40 then
    { d with ram := Function.update d.ram d.address w.byte,
             address := if d.increment then d.address + 1 else d.address - 1 }
  else other w d

def receiveAll (writes : List Write) (d : Display) : Display :=
  writes.foldl (fun d w => receive other w d) d

variable {other}

theorem receiveAll_cons (w : Write) (writes : List Write) (d : Display) :
    receiveAll other (w :: writes) d = receiveAll other writes (receive other w d) := rfl

theorem receiveAll_append (writes writes' : List Write) (d : Display) :
    receiveAll other (writes ++ writes') d = receiveAll other writes' (receiveAll other writes d) :=
  List.foldl_append

theorem receive_data (b : UInt8) {d : Display} (up : d.increment = true) :
    receive other ⟨0x40, b⟩ d =
      { d with ram := Function.update d.ram d.address b, address := d.address + 1 } := by
  rw [receive, if_neg (show ¬ (0x40 : UInt8) = 0x80 by decide), if_pos rfl, up, if_pos rfl]

@[simp] theorem stored_nil (ram : BitVec 7 → UInt8) (a : BitVec 7) : stored ram a [] = ram := rfl

/-- The first byte of a block, then the rest one cell further. -/
theorem stored_cons (ram : BitVec 7 → UInt8) (a : BitVec 7) (b : UInt8) {bytes : List UInt8}
    (fits : bytes.length < 128) :
    stored (Function.update ram a b) (a + 1) bytes = stored ram a (b :: bytes) := by
  funext x
  unfold stored
  by_cases here : x = a
  · have last : (x - (a + 1)).toNat = 127 := by subst here; bv_omega
    have first : (x - a).toNat = 0 := by subst here; bv_omega
    rw [last, first, List.getElem?_eq_none (by omega), here, Function.update_self]
    rfl
  · have next : (x - a).toNat = (x - (a + 1)).toNat + 1 := by
      have ne : x.toNat ≠ a.toNat := fun same => here (BitVec.eq_of_toNat_eq same)
      bv_omega
    rw [next, Function.update_of_ne here, List.getElem?_cons_succ]

/-- A run of data bytes is stored as one block. -/
theorem receiveAll_data (bytes : List UInt8) {d : Display} (up : d.increment = true)
    (fits : bytes.length ≤ 128) :
    receiveAll other (bytes.map fun b => ⟨0x40, b⟩) d =
      { d with ram := stored d.ram d.address bytes,
               address := d.address + BitVec.ofNat 7 bytes.length } := by
  induction bytes generalizing d with
  | nil => simp [receiveAll]
  | cons b bytes ih =>
    rw [List.length_cons] at fits
    have next : d.address + 1 + BitVec.ofNat 7 bytes.length =
        d.address + BitVec.ofNat 7 (bytes.length + 1) := by
      rw [BitVec.add_assoc, BitVec.ofNat_add, BitVec.add_comm 1]
      rfl
    have rest := @ih ⟨Function.update d.ram d.address b, d.address + 1, d.increment⟩ up (by omega)
    rw [List.map_cons, receiveAll_cons, receive_data b up, rest, stored_cons _ _ _ (by omega), next]
    rfl

/-! ## Rows -/

/-- A blank row shows the block stored at its start, padded with blanks. -/
theorem row_stored (base : BitVec 7) {bytes : List UInt8} (short : bytes.length ≤ 16) :
    row (stored (fun _ => 32) base bytes) base = bytes.rightpad 16 32 := by
  apply List.ext_getElem
  · simp [row, List.rightpad]; omega
  · intro i below _
    rw [row, List.length_map, List.length_range] at below
    have offset : (base + BitVec.ofNat 7 i - base).toNat = i := by bv_omega
    simp only [row, stored, List.getElem_map, List.getElem_range, offset, List.rightpad]
    by_cases inside : i < bytes.length
    · rw [List.getElem?_eq_getElem inside, Option.getD_some, List.getElem_append_left inside]
    · rw [List.getElem?_eq_none (by omega), List.getElem_append_right (by omega), List.getElem_replicate]
      rfl

/-- A block leaves the cells of a row alone that starts at least sixteen cells away from it. -/
theorem stored_of_far (ram : BitVec 7 → UInt8) {a base : BitVec 7} {bytes : List UInt8}
    (short : bytes.length ≤ 16) (far : 16 ≤ (base - a).toNat ∧ (base - a).toNat ≤ 112) {i : Nat}
    (inside : i ∈ List.range 16) :
    stored ram a bytes (base + BitVec.ofNat 7 i) = ram (base + BitVec.ofNat 7 i) := by
  have below := List.mem_range.1 inside
  have outside : bytes.length ≤ (base + BitVec.ofNat 7 i - a).toNat := by bv_omega
  rw [stored, List.getElem?_eq_none outside]
  rfl

theorem row_stored_of_far (ram : BitVec 7 → UInt8) {a base : BitVec 7} {bytes : List UInt8}
    (short : bytes.length ≤ 16) (far : 16 ≤ (base - a).toNat ∧ (base - a).toNat ≤ 112) :
    row (stored ram a bytes) base = row ram base :=
  List.map_congr_left fun _ inside => stored_of_far ram short far inside

/-- Nor does it show under a block stored there later. -/
theorem row_stored_stored_of_far (ram : BitVec 7 → UInt8) {a base : BitVec 7} {bytes : List UInt8}
    (short : bytes.length ≤ 16) (far : 16 ≤ (base - a).toNat ∧ (base - a).toNat ≤ 112)
    (bytes' : List UInt8) :
    row (stored (stored ram a bytes) base bytes') base = row (stored ram base bytes') base := by
  apply List.map_congr_left
  intro i inside
  rw [stored, stored_of_far ram short far inside, stored]

end Display

end SmartClock.Lcd
