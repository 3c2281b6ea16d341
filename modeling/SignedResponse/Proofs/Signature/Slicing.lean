import Mathlib.Data.List.TakeWhile
import SignedResponse.Proofs.Signature.Layout

/-!
Cutting a text into components and putting components together undo each other.

A component starts where the ones before it in the table end. So from components that were put
together in that order each is cut out again, whatever sizes the table gives.
-/

namespace SignedResponse

def Block.range? (bytes : List UInt8) (start stop : Nat) : Option (List UInt8) :=
  if start ≤ stop ∧ stop ≤ bytes.length then some ((bytes.drop start).take (stop - start)) else none

namespace Component

/-- What a text has in the place of a component; less than a component where the text ends. -/
def cut (component : Component) (bytes : List UInt8) : List UInt8 :=
  (bytes.drop component.offset).take component.size

theorem mem_all (component : Component) : component ∈ all := by cases component <;> simp [all]

theorem nodup_all : all.Nodup := by simp [all]

section Table

variable {component : Component} {before after : List Component}

theorem offset_of_split (split : all = before ++ component :: after) :
    component.offset = totalSize before := by
  have distinct := nodup_all
  rw [split, List.nodup_append] at distinct
  have others : ∀ other ∈ before, (decide (other ≠ component)) = true := by
    intro other member
    exact decide_eq_true (distinct.2.2 other member component List.mem_cons_self)
  rw [offset, split, List.takeWhile_append_of_pos others, List.takeWhile_cons_of_neg (by simp),
    List.append_nil]

theorem length_flatten_fields {field : Component → List UInt8}
    (sized : ∀ component, (field component).length = component.size)
    (components : List Component) :
    (components.map field).flatten.length = totalSize components := by
  induction components with
  | nil => simp [totalSize]
  | cons component components induction => simp [totalSize, sized, ← induction]

theorem cut_flatten_fields {field : Component → List UInt8}
    (sized : ∀ component, (field component).length = component.size) (component : Component) :
    component.cut (all.map field).flatten = field component := by
  obtain ⟨before, after, split⟩ := List.append_of_mem (mem_all component)
  have start : (before.map field).flatten.length = component.offset := by
    rw [length_flatten_fields sized, offset_of_split split]
  have parts : (all.map field).flatten =
      (before.map field).flatten ++ (field component ++ (after.map field).flatten) := by
    rw [split]
    simp
  rw [cut, parts, ← start, List.drop_left, ← sized component, List.take_left]

end Table

section Complete

variable {bytes : List UInt8}

theorem range_of_complete (complete : bytes.length = total) (component : Component) :
    Block.range? bytes component.offset (component.offset + component.size) =
      some (component.cut bytes) := by
  have reaches : component.offset + component.size ≤ bytes.length := by
    rw [complete]
    exact component.offset_add_size_le_total
  rw [Block.range?, if_pos ⟨Nat.le_add_right _ _, reaches⟩, Nat.add_sub_cancel_left, cut]

theorem slice_of_wrong_size (wrong : bytes.length ≠ total) (component : Component) :
    component.slice bytes = .error (.wrongSize bytes.length) :=
  dif_neg wrong

end Complete

end Component

namespace FullSignature

def field (signature : FullSignature) : (component : Component) → Block component.size
  | .key => signature.certificate.key
  | .expiration => signature.certificate.expiration.block
  | .certificate => signature.certificate.signature.block
  | .salt => signature.salt
  | .payload => signature.payload.block

theorem bytes_eq_flatten (signature : FullSignature) :
    signature.bytes =
      (Component.all.map fun component => (signature.field component).bytes).flatten := by
  simp [FullSignature.bytes, Component.all, field]

theorem cut_bytes (signature : FullSignature) (component : Component) :
    component.cut signature.bytes = (signature.field component).bytes := by
  rw [bytes_eq_flatten]
  exact Component.cut_flatten_fields (fun component => (signature.field component).length_eq)
    component

theorem slice_bytes (signature : FullSignature) (component : Component) :
    component.slice signature.bytes = .ok (signature.field component) := by
  obtain ⟨block, sliced, same⟩ := slice_of_complete component signature.length_bytes_eq
  have held : block.bytes = (signature.field component).bytes := by
    rw [same, ← signature.cut_bytes component, Component.cut]
  rw [sliced, Block.eq_of_bytes_eq held]

/-- Slices and the reading of a whole signature succeed together, for texts of 180 bytes, and refuse
all others with their size. The slices in the order of the table make up the text, each is the field
that reading puts there, and on the way no text is too short and no part has a wrong size. From what
a signature is written as, each field is sliced out again. -/
theorem slices_are_fields :
    (∀ bytes : List UInt8, bytes.length = 180 →
      ∃ signature, ofBytes bytes = .ok signature ∧
        (∀ component : Component,
          component.slice bytes = .ok (signature.field component) ∧
            ∃ part, Block.range? bytes component.offset (component.offset + component.size) =
                some part ∧
              Block.ofList? component.size part = some (signature.field component)) ∧
        (Component.all.map fun component => (signature.field component).bytes).flatten = bytes) ∧
    (∀ bytes : List UInt8, bytes.length ≠ 180 →
      ofBytes bytes = .error (.wrongSize bytes.length) ∧
        ∀ component : Component, component.slice bytes = .error (.wrongSize bytes.length)) ∧
    ∀ (signature : FullSignature) (component : Component),
      component.slice signature.bytes = .ok (signature.field component) := by
  refine ⟨?_, ?_, slice_bytes⟩
  · intro bytes size
    have complete : bytes.length = Component.total := size.trans Component.total_eq.symm
    obtain ⟨signature, read, rfl⟩ := of_bytes_of_complete complete
    refine ⟨signature, read, ?_, signature.bytes_eq_flatten.symm⟩
    intro component
    refine ⟨signature.slice_bytes component, _, Component.range_of_complete complete component, ?_⟩
    rw [signature.cut_bytes component, Block.of_list_bytes]
  · intro bytes size
    have wrong : bytes.length ≠ Component.total := by
      rw [Component.total_eq]
      exact size
    exact ⟨of_bytes_of_wrong_size wrong, Component.slice_of_wrong_size wrong⟩

/-- In a text that counts its bytes the salt goes from 100 to 115; a text of 179 bytes has none. -/
theorem ascending_salt :
    ((List.range 180).map UInt8.ofNat).length = 180 ∧
      (∃ salt, Component.salt.slice ((List.range 180).map UInt8.ofNat) = .ok salt ∧
        salt.bytes = (List.range' 100 16).map UInt8.ofNat) ∧
      ((List.range 179).map UInt8.ofNat).length ≠ 180 ∧
      Component.salt.slice ((List.range 179).map UInt8.ofNat) = .error (.wrongSize 179) := by
  obtain ⟨complete, wrong, -⟩ := slices_are_fields
  have size : ((List.range 180).map UInt8.ofNat).length = 180 := by simp
  have short : ((List.range 179).map UInt8.ofNat).length ≠ 180 := by simp
  obtain ⟨signature, -, fields, -⟩ := complete _ size
  obtain ⟨sliced, part, found, held⟩ := fields .salt
  refine ⟨size, ⟨_, sliced, ?_⟩, short, ?_⟩
  · have place : Block.range? ((List.range 180).map UInt8.ofNat) Component.salt.offset
        (Component.salt.offset + Component.salt.size) =
        some ((List.range' 100 16).map UInt8.ofNat) := by
      decide +kernel
    rw [found] at place
    cases place
    rw [Block.ofList?, dif_pos (by simp [Component.size])] at held
    rw [← Option.some.inj held]
  · simpa using (wrong _ short).2 .salt

end FullSignature

end SignedResponse
