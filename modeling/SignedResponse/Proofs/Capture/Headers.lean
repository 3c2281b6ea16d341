import Mathlib.Data.List.Sort
import Mathlib.Data.String.Basic
import SignedResponse.Capture.Document
import SignedResponse.Proofs.Text.ByteOrder

/-!
The headers of a captured exchange: the last value of each name, in the order of names.

So what is kept of a list of headers depends on the last values alone, and neither the order of the
list nor what is said twice makes a difference.
-/

namespace SignedResponse.Capture

def lastValue? (headers : List (String × String)) (name : String) : Option String :=
  (headers.filter fun header => header.1 = name).getLast?.map Prod.snd

variable {headers others : List (String × String)} {name value other kept : String}

theorem last_value_append (headers others : List (String × String)) (name : String) :
    lastValue? (headers ++ others) name =
      (lastValue? others name).or (lastValue? headers name) := by
  simp only [lastValue?, List.filter_append, List.getLast?_append, Option.map_or]

theorem last_value_singleton (name value other : String) :
    lastValue? [(name, value)] other = if name = other then some value else none := by
  by_cases same : name = other <;> simp [lastValue?, same]

/-- The names ascend, so that none stands there twice. -/
def InOrder (headers : List (String × String)) : Prop :=
  headers.Pairwise fun left right => left.1 < right.1

theorem mem_of_insert_header (member : (other, kept) ∈ insertHeader name value headers) :
    other = name ∧ kept = value ∨ (other, kept) ∈ headers := by
  induction headers with
  | nil =>
      rw [insertHeader, List.mem_singleton, Prod.mk.injEq] at member
      exact Or.inl member
  | cons header rest induction =>
      rw [insertHeader] at member
      split_ifs at member with same less
      · rcases List.mem_cons.mp member with found | found
        · exact Or.inl (Prod.mk.inj found)
        · exact Or.inr (List.mem_cons_of_mem _ found)
      · rcases List.mem_cons.mp member with found | found
        · exact Or.inl (Prod.mk.inj found)
        · exact Or.inr found
      · rcases List.mem_cons.mp member with found | found
        · exact Or.inr (found ▸ List.mem_cons_self)
        · exact (induction found).imp_right (List.mem_cons_of_mem _)

theorem in_order_insert_header (name value : String) (inOrder : InOrder headers) :
    InOrder (insertHeader name value headers) := by
  induction headers with
  | nil => exact List.pairwise_singleton _ _
  | cons header rest induction =>
      obtain ⟨first, ordered⟩ := List.pairwise_cons.mp inOrder
      rw [insertHeader]
      split_ifs with same less
      · exact List.pairwise_cons.mpr ⟨same ▸ first, ordered⟩
      · refine List.pairwise_cons.mpr ⟨?_, inOrder⟩
        intro later member
        rcases List.mem_cons.mp member with rfl | found
        · exact less
        · exact lt_trans less (first later found)
      · refine List.pairwise_cons.mpr ⟨?_, induction ordered⟩
        rintro ⟨other, kept⟩ member
        rcases mem_of_insert_header member with ⟨rfl, -⟩ | found
        · exact lt_of_le_of_ne (not_lt.mp less) fun equal => same equal.symm
        · exact first _ found

theorem mem_insert_header_iff (inOrder : InOrder headers) :
    (other, kept) ∈ insertHeader name value headers ↔
      other = name ∧ kept = value ∨ other ≠ name ∧ (other, kept) ∈ headers := by
  induction headers with
  | nil => simp [insertHeader]
  | cons header rest induction =>
      obtain ⟨first, ordered⟩ := List.pairwise_cons.mp inOrder
      obtain ⟨head, headValue⟩ := header
      rw [insertHeader]
      split_ifs with same less
      · subst same
        have fresh : (other, kept) ∈ rest → other ≠ name := by
          intro member equal
          have less := first _ member
          rw [equal] at less
          exact lt_irrefl _ less
        simp only [List.mem_cons, Prod.mk.injEq]
        tauto
      · have fresh : (other, kept) ∈ (head, headValue) :: rest → other ≠ name := by
          rintro member rfl
          rcases List.mem_cons.mp member with found | found
          · exact lt_irrefl _ ((Prod.mk.inj found).1 ▸ less)
          · exact lt_asymm less (first _ found)
        rw [List.mem_cons, Prod.mk.injEq]
        tauto
      · have fresh : other = head → other ≠ name := by
          rintro rfl equal
          exact same equal.symm
        rw [List.mem_cons, induction ordered, List.mem_cons, Prod.mk.injEq]
        tauto

theorem sort_headers_concat (headers : List (String × String)) (name value : String) :
    sortHeaders (headers ++ [(name, value)]) = insertHeader name value (sortHeaders headers) := by
  rw [sortHeaders, List.foldl_append]
  rfl

theorem in_order_sort_headers (headers : List (String × String)) :
    InOrder (sortHeaders headers) := by
  induction headers using List.reverseRec with
  | nil => exact List.Pairwise.nil
  | append_singleton headers last induction =>
      rw [sort_headers_concat]
      exact in_order_insert_header _ _ induction

/-- What is kept of headers is the last value of each name. -/
theorem mem_sort_headers_iff :
    (name, value) ∈ sortHeaders headers ↔ lastValue? headers name = some value := by
  induction headers using List.reverseRec with
  | nil => simp [sortHeaders, lastValue?]
  | append_singleton headers last induction =>
      obtain ⟨lastName, lastValue⟩ := last
      rw [sort_headers_concat, mem_insert_header_iff (in_order_sort_headers headers), induction,
        last_value_append, last_value_singleton]
      by_cases same : lastName = name
      · subst same
        simp [eq_comm]
      · simp [same, Ne.symm same]

theorem eq_of_in_order (inOrder : InOrder headers) (othersInOrder : InOrder others)
    (same : ∀ header, header ∈ headers ↔ header ∈ others) : headers = others := by
  have antisymmetric : Std.Antisymm fun left right : String × String => left.1 < right.1 :=
    ⟨fun _ _ less greater => absurd greater (lt_asymm less)⟩
  have irreflexive : Std.Irrefl fun left right : String × String => left.1 < right.1 :=
    ⟨fun _ => lt_irrefl _⟩
  exact inOrder.eq_of_mem_iff othersInOrder same

theorem sort_headers_eq_of_last_value
    (same : ∀ name, lastValue? headers name = lastValue? others name) :
    sortHeaders headers = sortHeaders others := by
  apply eq_of_in_order (in_order_sort_headers headers) (in_order_sort_headers others)
  rintro ⟨name, value⟩
  rw [mem_sort_headers_iff, mem_sort_headers_iff, same]

theorem last_value_eq_some_iff_of_nodup (distinct : (headers.map Prod.fst).Nodup) :
    lastValue? headers name = some value ↔ (name, value) ∈ headers := by
  induction headers generalizing value with
  | nil => simp [lastValue?]
  | cons header rest induction =>
      obtain ⟨head, headValue⟩ := header
      rw [List.map_cons, List.nodup_cons] at distinct
      have split : lastValue? ((head, headValue) :: rest) name =
          (lastValue? rest name).or (lastValue? [(head, headValue)] name) :=
        last_value_append [(head, headValue)] rest name
      rw [split, last_value_singleton, List.mem_cons, Prod.mk.injEq, ← induction distinct.2]
      by_cases same : head = name
      · subst same
        have absent : lastValue? rest head = none := by
          cases found : lastValue? rest head with
          | none => rfl
          | some kept =>
              exact absurd (List.mem_map_of_mem ((induction distinct.2).mp found)) distinct.1
        simp [absent, eq_comm]
      · simp [same, Ne.symm same]

theorem sort_headers_eq_of_perm (permuted : headers.Perm others)
    (distinct : (headers.map Prod.fst).Nodup) : sortHeaders headers = sortHeaders others := by
  apply sort_headers_eq_of_last_value
  intro name
  apply Option.ext
  intro value
  have othersDistinct : (others.map Prod.fst).Nodup := (permuted.map Prod.fst).nodup_iff.mp distinct
  rw [last_value_eq_some_iff_of_nodup distinct, last_value_eq_some_iff_of_nodup othersDistinct,
    permuted.mem_iff]

theorem sort_headers_of_repeated {before after : List (String × String)}
    (repeated : name ∈ after.map Prod.fst) :
    sortHeaders (before ++ (name, value) :: after) = sortHeaders (before ++ after) := by
  apply sort_headers_eq_of_last_value
  intro other
  have split : lastValue? ((name, value) :: after) other =
      (lastValue? after other).or (lastValue? [(name, value)] other) :=
    last_value_append [(name, value)] after other
  rw [last_value_append, last_value_append, split, last_value_singleton]
  by_cases same : name = other
  · subst same
    obtain ⟨later, member, named⟩ := List.mem_map.mp repeated
    have found : later ∈ after.filter fun header => header.1 = name := by
      simp [member, named]
    cases last : lastValue? after name with
    | none =>
        rw [lastValue?, Option.map_eq_none_iff, List.getLast?_eq_none_iff] at last
        rw [last] at found
        cases found
    | some kept => simp
  · simp [same]

end SignedResponse.Capture
