import ChatBlocks.Proofs.ListLines

/-!
# The physical lines of a written list

The physical lines of a list are those of its items in the order of the walk.
The first line of an item stands behind the spaces of its level; the others are
lines of the item's text as they are, without any indentation of their own. So
a list shows its nesting line by line exactly when no item's text is broken,
which a line break in an item, or a child written as its source, can cause.
-/

namespace ChatBlocks.ItemLines

open Text ListWalk ListLines TextLines

/-- What stands before an item's text on its first line. -/
def itemFront (options : RenderOptions) (depth : Nat) (item : WrittenItem) : String :=
  listIndent (depth + item.level)
    ++ if item.ordered then Nat.repr item.number.toNat ++ ". " else options.bullet

def itemLines (options : RenderOptions) (depth : Nat) (item : WrittenItem) : List String :=
  lines (item.line options depth)

structure NestingVisible (options : RenderOptions) (depth : Nat) (list : ListBlock) : Prop where
  one_line_each : (lines (renderList options depth list)).length = (walk 0 list).length
  indented : ∀ item ∈ walk 0 list, ∀ line ∈ itemLines options depth item,
    List.replicate (2 * (depth + item.level)) ' ' <+: line.toList

theorem lines_of_list (options : RenderOptions) (depth : Nat) (list : ListBlock)
    (filled : Filled list) :
    lines (renderList options depth list) = (walk 0 list).flatMap (itemLines options depth) := by
  have items := ((filled_iff list).mp filled).2
  have joined := join_items options depth 0 list.ordered list.start 0 list.items items
  have some_line : (walk 0 list).map (WrittenItem.line options depth) ≠ [] := by
    simpa using walk_ne_nil 0 filled
  calc
    lines (renderList options depth list) =
        lines (joinLines ((walk 0 list).map (WrittenItem.line options depth))) :=
      congrArg lines joined
    _ = ((walk 0 list).map (WrittenItem.line options depth)).flatMap lines :=
      lines_join_lines some_line
    _ = (walk 0 list).flatMap (itemLines options depth) := List.flatMap_map ..

section Bullet

variable (options : RenderOptions) (depth : Nat) (plain : '\n' ∉ options.bullet.toList)

include plain

theorem item_front_single (item : WrittenItem) :
    '\n' ∉ (itemFront options depth item).toList := by
  have indent : '\n' ∉ (listIndent (depth + item.level)).toList := by
    intro newline
    rw [listIndent, String.toList_ofList] at newline
    exact absurd (List.eq_of_mem_replicate newline) (by decide)
  have number : '\n' ∉ (Nat.repr item.number.toNat ++ ". ").toList := by
    simp [digits_single_line]
  rw [itemFront, String.toList_append, List.mem_append, not_or]
  refine ⟨indent, ?_⟩
  cases item.ordered with
  | true => exact number
  | false => exact plain

theorem item_lines_cons (item : WrittenItem) {first : String} {more : List String}
    (split : lines item.text = first :: more) :
    itemLines options depth item = (itemFront options depth item ++ first) :: more :=
  lines_append_front (item_front_single options depth plain item) split

theorem length_item_lines (item : WrittenItem) :
    (itemLines options depth item).length = (lines item.text).length := by
  obtain ⟨first, more, split⟩ := List.exists_cons_of_ne_nil (BlankText.lines_ne_nil item.text)
  rw [item_lines_cons options depth plain item split, split]
  rfl

theorem item_lines_of_single {item : WrittenItem} (single : '\n' ∉ item.text.toList) :
    itemLines options depth item = [itemFront options depth item ++ item.text] :=
  item_lines_cons options depth plain item (lines_of_no_newline single)

end Bullet

theorem indent_prefix (options : RenderOptions) (depth : Nat) (item : WrittenItem)
    (text : String) :
    List.replicate (2 * (depth + item.level)) ' ' <+:
      (itemFront options depth item ++ text).toList := by
  simp only [itemFront, listIndent, String.append_assoc, String.toList_append,
    String.toList_ofList]
  exact List.prefix_append _ _

/-- Nonempty parts are as many as the things they are made from only when each
of them is single. -/
theorem single_parts {Item Part : Type} {parts : Item → List Part}
    (some_part : ∀ item, 1 ≤ (parts item).length) (items : List Item) :
    (items.flatMap parts).length = items.length ↔ ∀ item ∈ items, (parts item).length = 1 := by
  have at_least : ∀ items : List Item, items.length ≤ (items.flatMap parts).length := by
    intro items
    induction items with
    | nil => exact Nat.le_refl 0
    | cons item rest ih =>
        have own := some_part item
        rw [List.flatMap_cons, List.length_append, List.length_cons]
        omega
  induction items with
  | nil => simp
  | cons item rest ih =>
      have own := some_part item
      have later := at_least rest
      rw [List.flatMap_cons, List.length_append, List.length_cons, List.forall_mem_cons]
      constructor
      · intro total
        exact ⟨by omega, ih.mp (by omega)⟩
      · rintro ⟨single, others⟩
        have rest_total := ih.mpr others
        omega

/-- The physical lines of a list are those of its items; an item has its first
line behind the spaces of its level and the number or bullet, and then the later
lines of its text. There is one line for every item, and every line is behind
the spaces of its item's level, exactly when no item's text is broken. -/
theorem nesting_visible_iff_unbroken (options : RenderOptions) (depth : Nat) (list : ListBlock)
    (plain : '\n' ∉ options.bullet.toList) (filled : Filled list) :
    lines (renderList options depth list) = (walk 0 list).flatMap (itemLines options depth) ∧
      (∀ item ∈ walk 0 list, ∃ first more, lines item.text = first :: more ∧
        itemLines options depth item = (itemFront options depth item ++ first) :: more) ∧
      (NestingVisible options depth list ↔ ∀ item ∈ walk 0 list, '\n' ∉ item.text.toList) := by
  have whole := lines_of_list options depth list filled
  have some_line : ∀ item, 1 ≤ (itemLines options depth item).length := by
    intro item
    rw [length_item_lines options depth plain item, length_lines]
    exact Nat.le_add_left 1 _
  refine ⟨whole, ?_, ?_, ?_⟩
  · intro item _
    obtain ⟨first, more, split⟩ := List.exists_cons_of_ne_nil (BlankText.lines_ne_nil item.text)
    exact ⟨first, more, split, item_lines_cons options depth plain item split⟩
  · intro visible item member
    have counts := visible.one_line_each
    rw [whole, single_parts some_line] at counts
    have single := counts item member
    rwa [length_item_lines options depth plain item, length_lines_eq_one_iff] at single
  · intro unbroken
    constructor
    · rw [whole, single_parts some_line]
      intro item member
      rw [item_lines_of_single options depth plain (unbroken item member)]
      rfl
    · intro item member line inside
      rw [item_lines_of_single options depth plain (unbroken item member)] at inside
      obtain rfl := List.mem_singleton.mp inside
      exact indent_prefix options depth item item.text

def brokenNestedItem : ListBlock :=
  ⟨false, 1, [⟨none, [.text "a" (some [.text "a" none "a"]) "a",
    .list false 1 [⟨none, [.text "b\nc" (some [.text "b" none "b", .br "\n", .text "c" none "c"])
      "b\nc"], "- b\n    c"⟩] "- b\n    c"], "- a\n  - b\n    c"⟩], "- a\n  - b\n    c"⟩

theorem broken_nested_item_filled : Filled brokenNestedItem := by
  rw [filled_iff]
  refine ⟨List.cons_ne_nil _ _, ?_⟩
  intro item member nested last
  obtain rfl := List.mem_singleton.mp member
  obtain rfl := Option.some.inj last
  apply forall_reached_of_flat
  · exact List.cons_ne_nil _ _
  · intro item member
    obtain rfl := List.mem_singleton.mp member
    rfl

theorem unbroken_nested_lists_visible :
    '\n' ∉ "* ".toList ∧ Filled twoNestedLists ∧
      NestingVisible ⟨"* ", true⟩ 1 twoNestedLists := by
  have plain : '\n' ∉ "* ".toList := by decide
  have visible := nesting_visible_iff_unbroken ⟨"* ", true⟩ 1 twoNestedLists plain
    two_nested_lists_filled
  refine ⟨plain, two_nested_lists_filled, visible.2.2.mpr ?_⟩
  decide +kernel

/-- The second item takes two of three lines, and the last line, which belongs
to the second level, has no indentation. -/
theorem broken_item_unindented :
    '\n' ∉ ({} : RenderOptions).bullet.toList ∧ Filled brokenNestedItem ∧
      (walk 0 brokenNestedItem).map WrittenItem.level = [0, 1] ∧
      lines (renderList {} 0 brokenNestedItem) = ["• a", "  • b", "c"] ∧
      ¬NestingVisible {} 0 brokenNestedItem := by
  have plain : '\n' ∉ ({} : RenderOptions).bullet.toList := by decide
  have levels : (walk 0 brokenNestedItem).map WrittenItem.level = [0, 1] := by decide +kernel
  have written : lines (renderList {} 0 brokenNestedItem) = ["• a", "  • b", "c"] := by
    decide +kernel
  refine ⟨plain, broken_nested_item_filled, levels, written, ?_⟩
  intro visible
  have items : (walk 0 brokenNestedItem).length = 2 := by simpa using congrArg List.length levels
  have count := visible.one_line_each
  rw [written, items] at count
  nomatch count

end ChatBlocks.ItemLines
