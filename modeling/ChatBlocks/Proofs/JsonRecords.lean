import ChatBlocks.Json.Record
import ChatBlocks.Proofs.JsonReading

/-!
# Records with absent fields

An encoder writes a record's fields in order and leaves absent ones out.
`present` is that form for any list of names, and a decoder that asks for the
same names gets every value back, present or absent. The depth and the numbers
of such a record are those of its present values.
-/

namespace ChatBlocks.JsonRecords

open Json JsonReading

def present : List String → List (Option Value) → List (String × Value)
  | [], _ => []
  | _ :: _, [] => []
  | _ :: names, none :: values => present names values
  | name :: names, some value :: values => (name, value) :: present names values

theorem key_of_present {names : List String} {values : List (Option Value)}
    {member : String × Value} (written : member ∈ present names values) : member.1 ∈ names := by
  fun_induction present names values with
  | case1 | case2 => exact absurd written List.not_mem_nil
  | case3 name names values ih => exact List.mem_cons_of_mem _ (ih written)
  | case4 name names value values ih =>
      rcases List.mem_cons.mp written with rfl | later
      · exact List.mem_cons_self
      · exact List.mem_cons_of_mem _ (ih later)

theorem present_avoids {names : List String} {key : String} (fresh : key ∉ names)
    (values : List (Option Value)) : ∀ member ∈ present names values, member.1 ≠ key := by
  rintro member written rfl
  exact fresh (key_of_present written)

theorem filter_avoids {members : List (String × Value)} {key : String}
    (avoids : ∀ member ∈ members, member.1 ≠ key) :
    (members.filter fun member => member.1 == key) = [] := by
  rw [List.filter_eq_nil_iff]
  intro member written
  simpa using avoids member written

theorem map_member_once_present (names : List String) (values : List (Option Value)) :
    ∀ before : List (String × Value), names.length = values.length → names.Nodup →
      (∀ name ∈ names, ∀ member ∈ before, member.1 ≠ name) →
      names.mapM (memberOnce (before ++ present names values)) = some values := by
  induction names generalizing values with
  | nil =>
      intro before same _ _
      rw [List.length_eq_zero_iff.mp same.symm]
      rfl
  | cons name names ih =>
      intro before same distinct apart
      obtain ⟨fresh, distinct⟩ := List.nodup_cons.mp distinct
      have before_avoids := filter_avoids (apart name List.mem_cons_self)
      cases values with
      | nil => exact absurd same (Nat.succ_ne_zero _)
      | cons value values =>
          have behind_avoids := filter_avoids (present_avoids fresh values)
          replace same : names.length = values.length := Nat.succ.inj same
          cases value with
          | none =>
              have later := ih values before same distinct
                fun other member => apart other (List.mem_cons_of_mem _ member)
              have own : memberOnce (before ++ present names values) name = some none := by
                rw [memberOnce, List.filter_append, before_avoids, behind_avoids]
                rfl
              simp [present, own, later]
          | some value =>
              have later := ih values (before ++ [(name, value)]) same distinct (by
                intro other member
                simp only [List.forall_mem_append, List.forall_mem_singleton]
                refine ⟨apart other (List.mem_cons_of_mem _ member), ?_⟩
                rintro rfl
                exact fresh member)
              have own : memberOnce (before ++ (name, value) :: present names values) name =
                  some (some value) := by
                rw [memberOnce, List.filter_append, before_avoids, List.filter_cons_of_pos (by simp),
                  behind_avoids]
                rfl
              rw [List.append_assoc, List.singleton_append] at later
              simp [present, own, later]

theorem fields_of_present {names : List String} {values : List (Option Value)}
    (same : names.length = values.length) (distinct : names.Nodup) :
    (Value.object (present names values)).fields? names = some values :=
  map_member_once_present names values [] same distinct
    fun _ _ => List.forall_mem_nil _

theorem untag_tagged {tag : Value} {members : List (String × Value)}
    (untagged : ∀ member ∈ members, member.1 ≠ "type") :
    (Value.object (("type", tag) :: members)).untag? = some (tag, .object members) := by
  have others : (members.filter fun member => member.1 != "type") = members := by
    rw [List.filter_eq_self]
    intro member written
    simpa using untagged member written
  have none := filter_avoids untagged
  simp [Value.untag?, memberOnce, none, others]

theorem array_of_encoded {α : Type} {decode : Value → Option α} {encode : α → Value}
    {items : List α} (reads : ∀ item ∈ items, decode (encode item) = some item) :
    arrayOf decode (.array (items.map encode)) = some items := by
  have elements : (items.map encode).mapM decode = some items := by
    induction items with
    | nil => rfl
    | cons item more ih =>
        have own := reads item List.mem_cons_self
        have later := ih fun other member => reads other (List.mem_cons_of_mem _ member)
        simp [own, later]
  exact elements

theorem optional_encoded {α : Type} {decode : Value → Option α} {encode : α → Value}
    {field : Option α} (reads : ∀ value, field = some value →
      encode value ≠ .null ∧ decode (encode value) = some value) :
    optional decode (field.map encode) = some field := by
  cases field with
  | none => rfl
  | some value =>
      obtain ⟨visible, own⟩ := reads value rfl
      rw [Option.map_some, Json.optional]
      · rw [own]
        rfl
      · exact visible

theorem optional_string (field : Option String) :
    optional Value.string? (field.map .string) = some field := by
  cases field <;> rfl

theorem optional_bool (field : Option Bool) :
    optional Value.bool? (field.map .bool) = some field := by
  cases field <;> rfl

theorem depth_of_elements_le_iff {elements : List Value} (bound : Nat) :
    depthOfElements elements ≤ bound ↔ ∀ value ∈ elements, value.depth ≤ bound := by
  induction elements with
  | nil => simp [depthOfElements]
  | cons first more ih => rw [depthOfElements, Nat.max_le, ih, List.forall_mem_cons]

theorem depth_lt_of_element {elements : List Value} {value : Value} (member : value ∈ elements) :
    value.depth < (Value.array elements).depth := by
  rw [Value.depth, Nat.lt_succ_iff]
  exact (depth_of_elements_le_iff _).mp (Nat.le_refl _) value member

/-- An array is read back when its elements are, which may depend on their depth. -/
theorem decode_array_within {α : Type} {decode : Value → Option α} {encode : α → Value}
    {limit : Nat} {items : List α}
    (reads : ∀ item, (encode item).depth ≤ limit → decode (encode item) = some item)
    (shallow : (Value.array (items.map encode)).depth ≤ limit) :
    arrayOf decode (.array (items.map encode)) = some items := by
  apply array_of_encoded
  intro item member
  have inside := depth_lt_of_element (List.mem_map_of_mem (f := encode) member)
  exact reads item (Nat.le_of_lt (Nat.lt_of_lt_of_le inside shallow))

theorem depth_of_present_le_iff {names : List String} {values : List (Option Value)}
    (same : names.length = values.length) (bound : Nat) :
    depthOfMembers (present names values) ≤ bound ↔
      ∀ value, some value ∈ values → value.depth ≤ bound := by
  fun_induction present names values with
  | case1 values =>
      rw [List.length_eq_zero_iff.mp same.symm]
      simp [depthOfMembers]
  | case2 => exact absurd same (Nat.succ_ne_zero _)
  | case3 name names values ih =>
      have later := ih (Nat.succ.inj same)
      simp [later]
  | case4 name names value values ih =>
      have later := ih (Nat.succ.inj same)
      rw [depthOfMembers, Nat.max_le, later]
      simp

theorem elements_fit_iff {values : List Value} :
    elementsFit values ↔ ∀ value ∈ values, numbersFit value := by
  induction values with
  | nil => simp [elementsFit]
  | cons value more ih => rw [elementsFit, ih, List.forall_mem_cons]

def fieldFits : Option Value → Prop
  | none => True
  | some value => numbersFit value

@[simp] theorem string_fits (text : String) : fieldFits (some (.string text)) := trivial

@[simp] theorem bool_fits (value : Bool) : fieldFits (some (.bool value)) := trivial

@[simp] theorem optional_string_fits (field : Option String) :
    fieldFits (field.map .string) := by
  cases field <;> trivial

@[simp] theorem optional_bool_fits (field : Option Bool) : fieldFits (field.map .bool) := by
  cases field <;> trivial

theorem present_fits {names : List String} {values : List (Option Value)}
    (fit : ∀ field ∈ values, fieldFits field) : membersFit (present names values) := by
  fun_induction present names values with
  | case1 | case2 => exact trivial
  | case3 name names values ih =>
      exact ih fun field member => fit field (List.mem_cons_of_mem _ member)
  | case4 name names value values ih =>
      have later := ih fun field member => fit field (List.mem_cons_of_mem _ member)
      exact ⟨fit (some value) List.mem_cons_self, later⟩

end ChatBlocks.JsonRecords
